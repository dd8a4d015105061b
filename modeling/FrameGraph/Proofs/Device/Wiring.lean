import FrameGraph.Device.Wiring
import FrameGraph.Proofs.Graph.Planning

/-!
# The links of a graph in its wiring

A device goes through the links one by one, and each new input gets its queue on the way. A wiring says at once what
comes of that. The graph knows its ports by node and position, and a context knows them by their keys.

* `Cable`: a link with the keys of its ports and with the queue that its input asks for.
* `Wiring.inlets`: the first cable of every linked input; the queues stand in this order.
* `Wiring.bench`: what is wired after all cables. `Wiring.bench_add_of_old` and `Wiring.bench_add_of_new`: and after one
  more.
* `Graph.wiring`: the cables of a graph, which carry what the ports at their ends say.
* `Graph.Realised`: queues and contexts are those that the links ask for.
* `Graph.WellLinked.realised`: where the ports of every node have different keys, they are.
-/

namespace FrameGraph
set_option autoImplicit false

structure Cable where
  source : PortId
  outputKey : String
  target : PortId
  inputKey : String
  /-- The queue behind the input, before anything has been sent. -/
  queue : Queue Message

/-- A queue can be made that is as large as the cable asks for. -/
def Cable.Fits (x : Cable) : Prop :=
  x.queue.capacity ≤ Queue.maxCapacity

/-- One cable for each link, in the order of the links. -/
structure Wiring where
  cables : List Cable

namespace Graph

def cable (g : Graph) (l : Link) : Except BuildError Cable := do
  let output ← g.descriptor l.source
  let input ← g.descriptor l.target
  let owner ← g.node l.target.node
  return {
    source := l.source
    outputKey := output.key
    target := l.target
    inputKey := input.key
    queue := .make (owner.qualified input) input.queueSize input.blocking }

def wiring (g : Graph) : Except BuildError Wiring := do
  return ⟨← g.links.mapM g.cable⟩

end Graph

namespace Wiring

/-- One cable more. -/
def add (w : Wiring) (x : Cable) : Wiring :=
  ⟨w.cables ++ [x]⟩

def inputs (w : Wiring) : List PortId :=
  (w.cables.map Cable.target).eraseDups

def inlets (w : Wiring) : List Cable :=
  w.inputs.filterMap fun id => w.cables.find? fun x => x.target == id

def store (w : Wiring) : QueueStore Message :=
  { queues := w.inlets.map Cable.queue }

def queueOf (w : Wiring) (input : PortId) : QueueId :=
  w.inputs.idxOf input

def attachInputs (w : Wiring) (c : Context) : Context :=
  (w.inlets.filter fun x => x.target.node == c.node).foldl
    (fun c x => c.attachInput x.inputKey (w.queueOf x.target)) c

def attachOutputs (w : Wiring) (c : Context) : Context :=
  (w.cables.filter fun x => x.source.node == c.node).foldl
    (fun c x => c.attachOutput x.outputKey (w.queueOf x.target)) c

def context (w : Wiring) (node : NodeId) (name : String) (pollInterval : Nat) : Context :=
  w.attachOutputs (w.attachInputs { node, name, pollInterval })

/-- What a device holds when it has gone through the cables. -/
def bench (w : Wiring) (names : NodeId → String) (pollInterval : Nat) : Bench where
  placed := w.inputs.map fun p => (p, w.queueOf p)
  contexts id := w.context id (names id) pollInterval

end Wiring

/-! ## Lists -/

theorem lookup_map_self {α β : Type} [DecidableEq α] (f : α → β) (l : List α) (a : α) :
    (l.map fun b => (b, f b)).lookup a = if a ∈ l then some (f a) else none := by
  induction l with
  | nil => rfl
  | cons b rest ih =>
    rw [List.map_cons, List.lookup_cons, ih]
    by_cases hab : a = b
    · simp [hab]
    · simp [hab, beq_eq_false_iff_ne.mpr hab]

namespace Context

/-! ## Attaching many queues -/

def attachEach (c : Context) (entries : List (String × QueueId)) : Context :=
  entries.foldl (fun c e => c.attachInput e.1 e.2) c

/-- Only the inputs change. -/
theorem attachEach_fields (entries : List (String × QueueId)) (c : Context) :
    ∃ inputs, c.attachEach entries = { c with inputs } := by
  induction entries generalizing c with
  | nil => exact ⟨c.inputs, rfl⟩
  | cons e rest ih =>
    obtain ⟨inputs, hinputs⟩ := ih (c.attachInput e.1 e.2)
    exact ⟨inputs, hinputs⟩

theorem attachEach_concat (c : Context) (entries : List (String × QueueId)) (e : String × QueueId) :
    c.attachEach (entries ++ [e]) = (c.attachEach entries).attachInput e.1 e.2 := by
  simp [attachEach]

theorem foldl_attachOutput (entries : List (String × QueueId)) (c : Context) :
    entries.foldl (fun c e => c.attachOutput e.1 e.2) c = { c with outputs := c.outputs ++ entries } := by
  induction entries generalizing c with
  | nil => simp
  | cons e rest ih =>
    rw [List.foldl_cons, ih]
    simp [attachOutput]

/-- Queues that are attached under different keys are all there. -/
theorem attachEach_of_nodup {entries : List (String × QueueId)} {c : Context}
    (h : ((c.inputs ++ entries).map Prod.fst).Nodup) :
    c.attachEach entries = { c with inputs := c.inputs ++ entries } := by
  induction entries generalizing c with
  | nil => simp [attachEach]
  | cons e rest ih =>
    have hsplit : c.inputs ++ e :: rest = c.inputs ++ [e] ++ rest := by simp
    have hattach : c.attachInput e.1 e.2 = { c with inputs := c.inputs ++ [e] } := by
      have hother : ∀ entry ∈ c.inputs, (entry.1 != e.1) = true := by
        intro entry hentry
        rw [List.map_append, List.nodup_append] at h
        have hne := h.2.2 entry.1 (List.mem_map_of_mem hentry) e.1 (by simp)
        simpa using hne
      rw [attachInput, List.filter_eq_self.mpr hother]
    rw [attachEach, List.foldl_cons, hattach, ← attachEach, ih (by rwa [hsplit] at h), hsplit]

end Context

namespace Wiring
variable {w : Wiring}

/-! ## Inlets -/

theorem inputs_add (w : Wiring) (x : Cable) :
    (w.add x).inputs = if x.target ∈ w.inputs then w.inputs else w.inputs ++ [x.target] := by
  simp only [inputs, add, List.map_append, List.map_singleton, List.mem_eraseDups]
  exact eraseDups_append_singleton _ _

theorem nodup_inputs (w : Wiring) : w.inputs.Nodup := by
  obtain ⟨cables⟩ := w
  induction cables using List.reverseRecOn with
  | nil => exact List.nodup_nil
  | append_singleton cables x ih =>
    change (add ⟨cables⟩ x).inputs.Nodup
    rw [inputs_add]
    split
    · exact ih
    · rename_i hnew
      rw [List.nodup_append]
      refine ⟨ih, List.nodup_singleton _, fun p hp q hq => ?_⟩
      rw [List.mem_singleton.mp hq]
      exact fun hsame => hnew (hsame ▸ hp)

theorem mem_inputs {p : PortId} : p ∈ w.inputs ↔ ∃ x ∈ w.cables, x.target = p := by
  simp [inputs]

theorem mem_inputs_add {x : Cable} {p : PortId} : p ∈ (w.add x).inputs ↔ p ∈ w.inputs ∨ p = x.target := by
  simp [mem_inputs, add, or_and_right, exists_or, eq_comm]

theorem find?_target {p : PortId} (h : p ∈ w.inputs) :
    ∃ x ∈ w.cables, x.target = p ∧ w.cables.find? (fun x => x.target == p) = some x := by
  obtain ⟨y, hy, hyp⟩ := mem_inputs.mp h
  cases hfound : w.cables.find? fun x => x.target == p with
  | none => exact absurd hyp (by simpa using List.find?_eq_none.mp hfound y hy)
  | some x => exact ⟨x, List.mem_of_find?_eq_some hfound, by simpa using List.find?_some hfound, rfl⟩

theorem map_target_inlets (w : Wiring) : w.inlets.map Cable.target = w.inputs := by
  rw [inlets, List.map_filterMap]
  refine (List.filterMap_congr fun p hp => ?_).trans (List.filterMap_some)
  obtain ⟨x, -, hx, hfound⟩ := find?_target hp
  rw [hfound, Option.map_some, hx]

theorem cables_of_inlets {x : Cable} (h : x ∈ w.inlets) : x ∈ w.cables := by
  obtain ⟨p, -, hfound⟩ := List.mem_filterMap.mp h
  exact List.mem_of_find?_eq_some hfound

theorem target_mem_inputs {x : Cable} (h : x ∈ w.cables) : x.target ∈ w.inputs :=
  mem_inputs.mpr ⟨x, h, rfl⟩

theorem size_store (w : Wiring) : w.store.size = w.inputs.length := by
  rw [← map_target_inlets, List.length_map]
  exact List.length_map ..

/-- The queue of a linked input is that of a cable which leads there. -/
theorem get?_queueOf {p : PortId} (h : p ∈ w.inputs) :
    ∃ x ∈ w.cables, x.target = p ∧ w.store.get? (w.queueOf p) = some x.queue := by
  have hat : w.inputs[w.queueOf p]? = some p := List.getElem?_idxOf h
  rw [← map_target_inlets, List.getElem?_map, Option.map_eq_some_iff] at hat
  obtain ⟨x, hx, htarget⟩ := hat
  refine ⟨x, cables_of_inlets (List.mem_of_getElem? hx), htarget, ?_⟩
  simp only [QueueStore.get?, store, List.getElem?_map, hx, Option.map_some]

theorem queueOf_inj {p q : PortId} (hp : p ∈ w.inputs) (h : w.queueOf p = w.queueOf q) : p = q :=
  (List.idxOf_inj hp).mp h

theorem exists_queueOf {id : QueueId} (h : id < w.store.size) : ∃ p ∈ w.inputs, w.queueOf p = id := by
  rw [size_store] at h
  exact ⟨w.inputs[id], List.getElem_mem h, w.nodup_inputs.idxOf_getElem id h⟩

/-! ## Contexts -/

def inputEntries (w : Wiring) (id : NodeId) : List (String × QueueId) :=
  (w.inlets.filter fun x => x.target.node == id).map fun x => (x.inputKey, w.queueOf x.target)

def outputEntries (w : Wiring) (id : NodeId) : List (String × QueueId) :=
  (w.cables.filter fun x => x.source.node == id).map fun x => (x.outputKey, w.queueOf x.target)

theorem attachOutputs_eq (w : Wiring) (c : Context) :
    w.attachOutputs c = { c with outputs := c.outputs ++ w.outputEntries c.node } := by
  rw [attachOutputs, outputEntries, ← Context.foldl_attachOutput, List.foldl_map]

theorem attachInputs_eq (w : Wiring) (c : Context) :
    w.attachInputs c = c.attachEach (w.inputEntries c.node) := by
  rw [attachInputs, Context.attachEach, inputEntries, List.foldl_map]

theorem context_fields (w : Wiring) (id : NodeId) (name : String) (pollInterval : Nat) :
    w.context id name pollInterval =
      { Context.attachEach { node := id, name, pollInterval } (w.inputEntries id) with
        outputs := w.outputEntries id } := by
  obtain ⟨inputs, hinputs⟩ := Context.attachEach_fields (w.inputEntries id) { node := id, name, pollInterval }
  rw [context, attachInputs_eq, attachOutputs_eq, hinputs]
  simp

/-- Where the inputs of a node have different keys, its context has them all. -/
theorem context_eq {id : NodeId} (h : ((w.inputEntries id).map Prod.fst).Nodup) (name : String) (pollInterval : Nat) :
    w.context id name pollInterval =
      { node := id, name, pollInterval, inputs := w.inputEntries id, outputs := w.outputEntries id } := by
  rw [context_fields, Context.attachEach_of_nodup h]
  simp

/-! ## Link by link -/

theorem find?_add {p : PortId} (h : p ∈ w.inputs) (x : Cable) :
    (w.add x).cables.find? (fun x => x.target == p) = w.cables.find? fun x => x.target == p := by
  obtain ⟨y, -, -, hfound⟩ := find?_target h
  rw [add, List.find?_append, hfound]
  rfl

theorem find?_of_new {x : Cable} (h : x.target ∉ w.inputs) :
    (w.add x).cables.find? (fun y => y.target == x.target) = some x := by
  have hnone : w.cables.find? (fun y => y.target == x.target) = none := by
    rw [List.find?_eq_none]
    intro y hy
    simpa using fun hsame => h (mem_inputs.mpr ⟨y, hy, hsame⟩)
  rw [add, List.find?_append, hnone]
  simp

theorem inlets_add (w : Wiring) (x : Cable) :
    (w.add x).inlets = if x.target ∈ w.inputs then w.inlets else w.inlets ++ [x] := by
  have hold : w.inputs.filterMap (fun p => (w.add x).cables.find? fun y => y.target == p) = w.inlets :=
    List.filterMap_congr fun p hp => find?_add hp x
  rw [inlets, inputs_add]
  split
  · exact hold
  · rename_i hnew
    rw [List.filterMap_append, hold, List.filterMap_cons, find?_of_new hnew]
    rfl

theorem queueOf_add {p : PortId} (h : p ∈ w.inputs) (x : Cable) : (w.add x).queueOf p = w.queueOf p := by
  rw [queueOf, inputs_add]
  split
  · rfl
  · exact List.idxOf_append_of_mem h

theorem queueOf_of_new {x : Cable} (h : x.target ∉ w.inputs) : (w.add x).queueOf x.target = w.store.size := by
  rw [queueOf, inputs_add, if_neg h, List.idxOf_append_of_notMem h, List.idxOf_cons_self, size_store]
  rfl

theorem outputEntries_add (w : Wiring) (x : Cable) (id : NodeId) :
    (w.add x).outputEntries id = w.outputEntries id ++
      if x.source.node = id then [(x.outputKey, (w.add x).queueOf x.target)] else [] := by
  have hold : (w.cables.filter fun y => y.source.node == id).map
      (fun y => (y.outputKey, (w.add x).queueOf y.target)) = w.outputEntries id :=
    List.map_congr_left fun y hy => by rw [queueOf_add (target_mem_inputs (List.mem_filter.mp hy).1)]
  rw [outputEntries, ← hold, add, List.filter_append, List.map_append]
  by_cases hid : x.source.node = id <;> simp [hid]

theorem inputEntries_add (w : Wiring) (x : Cable) (id : NodeId) :
    (w.add x).inputEntries id = w.inputEntries id ++
      if x.target ∉ w.inputs ∧ x.target.node = id then [(x.inputKey, w.store.size)] else [] := by
  have hold : (w.inlets.filter fun y => y.target.node == id).map
      (fun y => (y.inputKey, (w.add x).queueOf y.target)) = w.inputEntries id :=
    List.map_congr_left fun y hy => by
      rw [queueOf_add (target_mem_inputs (cables_of_inlets (List.mem_filter.mp hy).1))]
  rw [inputEntries, inlets_add]
  by_cases hold' : x.target ∈ w.inputs
  · rw [if_pos hold', hold]
    simp [hold']
  · rw [if_neg hold', List.filter_append, List.map_append, hold]
    by_cases hid : x.target.node = id <;> simp [hid, hold', queueOf_of_new]

theorem context_add_of_old {x : Cable} (h : x.target ∈ w.inputs) (id : NodeId) (name : String) (pollInterval : Nat) :
    (w.add x).context id name pollInterval =
      if x.source.node = id then (w.context id name pollInterval).attachOutput x.outputKey (w.queueOf x.target)
      else w.context id name pollInterval := by
  rw [context_fields, context_fields, inputEntries_add, outputEntries_add, queueOf_add h, if_neg (by simp [h]),
    List.append_nil]
  split
  · rfl
  · rw [List.append_nil]

theorem context_add_of_new {x : Cable} (h : x.target ∉ w.inputs) (id : NodeId) (name : String) (pollInterval : Nat) :
    (w.add x).context id name pollInterval =
      let c := if x.target.node = id then (w.context id name pollInterval).attachInput x.inputKey w.store.size
        else w.context id name pollInterval
      if x.source.node = id then c.attachOutput x.outputKey w.store.size else c := by
  rw [context_fields, context_fields, inputEntries_add, outputEntries_add, queueOf_of_new h]
  by_cases htarget : x.target.node = id
  · rw [if_pos ⟨h, htarget⟩, if_pos htarget, Context.attachEach_concat]
    split
    · rfl
    · rw [List.append_nil]
      rfl
  · rw [if_neg (fun hboth => htarget hboth.2), if_neg htarget, List.append_nil]
    split
    · rfl
    · rw [List.append_nil]

theorem store_add (w : Wiring) (x : Cable) :
    (w.add x).store = if x.target ∈ w.inputs then w.store else (w.store.insert x.queue).2 := by
  rw [store, inlets_add]
  split <;> simp [store, QueueStore.insert]

theorem placed_add (w : Wiring) (x : Cable) :
    (w.add x).inputs.map (fun p => (p, (w.add x).queueOf p)) =
      if x.target ∈ w.inputs then w.inputs.map fun p => (p, w.queueOf p)
      else (w.inputs.map fun p => (p, w.queueOf p)) ++ [(x.target, w.store.size)] := by
  have hold : w.inputs.map (fun p => (p, (w.add x).queueOf p)) = w.inputs.map fun p => (p, w.queueOf p) :=
    List.map_congr_left fun p hp => by rw [queueOf_add hp]
  rw [inputs_add]
  split
  · exact hold
  · rename_i hnew
    rw [List.map_append, hold, List.map_singleton, queueOf_of_new hnew]

theorem queue?_bench (w : Wiring) (names : NodeId → String) (pollInterval : Nat) (p : PortId) :
    (w.bench names pollInterval).queue? p = if p ∈ w.inputs then some (w.queueOf p) else none :=
  lookup_map_self _ _ _

theorem bench_add_of_old {x : Cable} (h : x.target ∈ w.inputs) (names : NodeId → String) (pollInterval : Nat) :
    (w.add x).bench names pollInterval =
      (w.bench names pollInterval).attachOutput x.source x.outputKey (w.queueOf x.target) := by
  rw [bench, placed_add, if_pos h]
  simp only [context_add_of_old h]
  rfl

theorem bench_add_of_new {x : Cable} (h : x.target ∉ w.inputs) (names : NodeId → String) (pollInterval : Nat) :
    (w.add x).bench names pollInterval =
      ((w.bench names pollInterval).attachInput x.target x.inputKey w.store.size).attachOutput x.source x.outputKey
        w.store.size := by
  rw [bench, placed_add, if_neg h]
  simp only [context_add_of_new h]
  rfl

end Wiring

/-! ## Cables of a graph -/

theorem mapM_eq_ok {ε α β : Type} {f : α → Except ε β} {c : α → β} {l : List α} (h : ∀ a ∈ l, f a = .ok (c a)) :
    l.mapM f = .ok (l.map c) := by
  induction l with
  | nil => rfl
  | cons a rest ih =>
    obtain ⟨ha, hrest⟩ := List.forall_mem_cons.mp h
    rw [List.mapM_cons, ha, ih hrest]
    rfl

theorem exists_of_mapM_ok {ε α β : Type} {f : α → Except ε β} {l : List α} {bs : List β} (h : l.mapM f = .ok bs) {a : α}
    (ha : a ∈ l) : ∃ b, f a = .ok b := by
  induction l generalizing bs with
  | nil => cases ha
  | cons first rest ih =>
    rw [List.mapM_cons] at h
    obtain ⟨b, hb, h⟩ := ok_of_bind h
    obtain ⟨others, hothers, -⟩ := ok_of_bind h
    rcases List.mem_cons.mp ha with rfl | ha
    · exact ⟨b, hb⟩
    · exact ih hothers ha

namespace Graph

/-- No node has two ports with one key. -/
def KeysDiffer (g : Graph) : Prop :=
  ∀ n ∈ g.nodes, (n.ports.map Port.key).Nodup

instance (g : Graph) : Decidable g.KeysDiffer :=
  inferInstanceAs (Decidable (∀ n ∈ g.nodes, (n.ports.map Port.key).Nodup))

theorem KeysDiffer.eq_of_key {g : Graph} (h : g.KeysDiffer) {p q : PortId} {a b : Port} (hp : g.descriptor p = .ok a)
    (hq : g.descriptor q = .ok b) (hnode : p.node = q.node) (hkey : a.key = b.key) : p = q := by
  obtain ⟨n, hn, ha⟩ := descriptor_eq_ok_iff.mp hp
  obtain ⟨m, hm, hb⟩ := descriptor_eq_ok_iff.mp hq
  obtain rfl : n = m := Option.some.inj (hn.symm.trans (hnode ▸ hm))
  have hlt : p.position.val < (n.ports.map Port.key).length := by
    simpa using (List.getElem?_eq_some_iff.mp ha).1
  have hposition : p.position.val = q.position.val := by
    refine (List.getElem?_inj hlt (h n (List.mem_of_getElem? hn))).mp ?_
    rw [List.getElem?_map, List.getElem?_map, ha, hb, Option.map_some, Option.map_some, hkey]
  obtain ⟨owner, position⟩ := p
  obtain ⟨other, place⟩ := q
  obtain rfl : owner = other := Fin.ext (NodeId.mk.inj hnode)
  obtain rfl : position = place := Fin.ext hposition
  rfl

/-- The cable of a link says what the ports at its ends say. -/
structure Carries (g : Graph) (l : Link) (x : Cable) : Prop where
  source : x.source = l.source
  target : x.target = l.target
  output : ∃ output, g.descriptor l.source = .ok output ∧ x.outputKey = output.key
  input : ∃ owner input, g.nodes[l.target.node.index]? = some owner ∧
    owner.ports[l.target.position.val]? = some input ∧ x.inputKey = input.key ∧
    x.queue = .make (owner.qualified input) input.queueSize input.blocking

theorem carries_of_cable {g : Graph} {l : Link} {x : Cable} (h : g.cable l = .ok x) : g.Carries l x := by
  obtain ⟨output, houtput, h⟩ := ok_of_bind h
  obtain ⟨input, hinput, h⟩ := ok_of_bind h
  obtain ⟨owner, howner, h⟩ := ok_of_bind h
  obtain ⟨n, hn, hport⟩ := descriptor_eq_ok_iff.mp hinput
  obtain rfl : n = owner := Option.some.inj (hn.symm.trans (node_eq_ok_iff.mp howner))
  cases h
  exact ⟨rfl, rfl, ⟨output, houtput, rfl⟩, n, input, hn, hport, rfl, rfl⟩

/-- What a cable knows of its input is what the graph says. -/
theorem Carries.inputPort {g : Graph} {l : Link} {x : Cable} (h : g.Carries l x) :
    ∃ input, g.descriptor x.target = .ok input ∧ x.inputKey = input.key := by
  obtain ⟨owner, input, howner, hport, hkey, -⟩ := h.input
  rw [h.target]
  exact ⟨input, descriptor_eq_ok_iff.mpr ⟨owner, howner, hport⟩, hkey⟩

/-- Two cables to one input ask for the same queue. -/
theorem Carries.queue_eq {g : Graph} {l m : Link} {x y : Cable} (h : g.Carries l x) (h' : g.Carries m y)
    (hsame : x.target = y.target) : x.queue = y.queue := by
  obtain ⟨owner, input, howner, hport, -, hqueue⟩ := h.input
  obtain ⟨other, port, hother, hport', -, hqueue'⟩ := h'.input
  have htarget : l.target = m.target := h.target.symm.trans (hsame.trans h'.target)
  rw [← htarget, howner] at hother
  cases hother
  rw [← htarget, hport] at hport'
  cases hport'
  rw [hqueue, hqueue']

theorem cable_of_descriptors {g : Graph} {l : Link} {output input : Port} (hsource : g.descriptor l.source = .ok output)
    (htarget : g.descriptor l.target = .ok input) : ∃ owner, g.node l.target.node = .ok owner ∧ g.cable l = .ok {
      source := l.source
      outputKey := output.key
      target := l.target
      inputKey := input.key
      queue := .make (owner.qualified input) input.queueSize input.blocking } := by
  obtain ⟨owner, howner, -⟩ := descriptor_eq_ok_iff.mp htarget
  refine ⟨owner, node_eq_ok_iff.mpr howner, ?_⟩
  rw [cable, hsource, htarget, node_eq_ok_iff.mpr howner]
  rfl

theorem cable_of_fits {g : Graph} {l : Link} (h : g.Fits l) : ∃ x, g.cable l = .ok x ∧ g.Carries l x := by
  obtain ⟨output, input, hsource, -, htarget, -, -⟩ := h
  obtain ⟨owner, -, hcable⟩ := cable_of_descriptors hsource htarget
  exact ⟨_, hcable, carries_of_cable hcable⟩

theorem WellLinked.wiring {g : Graph} (h : g.WellLinked) :
    ∃ cableOf : Link → Cable, g.wiring = .ok ⟨g.links.map cableOf⟩ ∧ ∀ l ∈ g.links, g.Carries l (cableOf l) := by
  have hall (l : Link) : ∃ x, l ∈ g.links → g.cable l = .ok x ∧ g.Carries l x := by
    by_cases hl : l ∈ g.links
    · obtain ⟨x, hx⟩ := cable_of_fits (h.fits l hl)
      exact ⟨x, fun _ => hx⟩
    · exact ⟨⟨l.source, "", l.target, "", .make "" 1 false⟩, fun hmem => absurd hmem hl⟩
  choose cableOf hcable using hall
  refine ⟨cableOf, ?_, fun l hl => (hcable l hl).2⟩
  rw [Graph.wiring, mapM_eq_ok fun l hl => (hcable l hl).1]
  rfl

/-- An input at the end of a link. -/
def IsFed (g : Graph) (p : PortId) : Prop :=
  ∃ l ∈ g.links, l.target = p

/-- Every linked input asks for a queue that can be made. -/
def InletsFit (g : Graph) : Prop :=
  ∀ p input, g.IsFed p → g.descriptor p = .ok input → input.queueSize ≤ Queue.maxCapacity

theorem inletsFit_of_ports {g : Graph} (h : ∀ n ∈ g.nodes, ∀ port ∈ n.ports, port.queueSize ≤ Queue.maxCapacity) :
    g.InletsFit := by
  intro p input _ hinput
  obtain ⟨n, hn, hport⟩ := descriptor_eq_ok_iff.mp hinput
  exact h n (List.mem_of_getElem? hn) input (List.mem_of_getElem? hport)

theorem Carries.fits_iff {g : Graph} {l : Link} {x : Cable} (h : g.Carries l x) {input : Port}
    (hinput : g.descriptor l.target = .ok input) : x.Fits ↔ input.queueSize ≤ Queue.maxCapacity := by
  obtain ⟨owner, port, howner, hport, -, hqueue⟩ := h.input
  obtain rfl : input = port :=
    Except.ok.inj (hinput.symm.trans (descriptor_eq_ok_iff.mpr ⟨owner, howner, hport⟩))
  rw [Cable.Fits, hqueue]
  exact max_le_iff.trans (and_iff_left (by decide))

theorem inletsFit_of_cables {g : Graph} {cables : List Cable} (hcables : g.links.mapM g.cable = .ok cables)
    (h : ∀ l ∈ g.links, ∀ x, g.cable l = .ok x → x.Fits) : g.InletsFit := by
  rintro p input ⟨l, hl, rfl⟩ hinput
  obtain ⟨x, hx⟩ := exists_of_mapM_ok hcables hl
  exact ((carries_of_cable hx).fits_iff hinput).mp (h l hl x hx)

theorem InletsFit.cable {g : Graph} (h : g.InletsFit) {l : Link} (hl : l ∈ g.links) {x : Cable}
    (hx : g.cable l = .ok x) : x.Fits := by
  have hcarries := carries_of_cable hx
  obtain ⟨input, hinput, -⟩ := hcarries.inputPort
  rw [hcarries.target] at hinput
  exact (hcarries.fits_iff hinput).mpr (h _ input ⟨l, hl, rfl⟩ hinput)

end Graph

/-! ## Wirings of graphs -/

/-- Every linked input has a queue of its own, and there are no others. Every node has the queues of its linked
inputs under their keys, and under the keys of its outputs those of the inputs that they lead to. -/
structure Graph.Realised (g : Graph) (store : QueueStore Message) (queueOf : PortId → QueueId)
    (contexts : NodeId → Context) : Prop where
  queue : ∀ {p : PortId}, g.IsFed p → ∃ owner input, g.nodes[p.node.index]? = some owner ∧
    owner.ports[p.position.val]? = some input ∧
    store.get? (queueOf p) = some (.make (owner.qualified input) input.queueSize input.blocking)
  distinct : ∀ {p q : PortId}, g.IsFed p → queueOf p = queueOf q → p = q
  noOther : ∀ {id : QueueId}, id < store.size → ∃ p, g.IsFed p ∧ queueOf p = id
  inputs : ∀ {id : NodeId} {key : String} {queue : QueueId}, (key, queue) ∈ (contexts id).inputs ↔
    ∃ p input, g.IsFed p ∧ p.node = id ∧ g.descriptor p = .ok input ∧ input.key = key ∧ queueOf p = queue
  inputKeys : ∀ {id : NodeId}, ((contexts id).inputs.map Prod.fst).Nodup
  consumers : ∀ {p : PortId} {output : Port}, g.descriptor p = .ok output →
    (contexts p.node).consumers output.key = (g.targetsOf p).map queueOf
  linked : ∀ {id : NodeId} {key : String}, (contexts id).isLinked key = true →
    ∃ p output, p.node = id ∧ g.descriptor p = .ok output ∧ output.key = key
  once : ∀ p : PortId, ((g.targetsOf p).map queueOf).Nodup

namespace Graph

variable {g : Graph} {cableOf : Link → Cable}

variable (h : ∀ l ∈ g.links, g.Carries l (cableOf l))
include h

theorem carries_of_mem {x : Cable} (hx : x ∈ g.links.map cableOf) : ∃ l ∈ g.links, g.Carries l x := by
  obtain ⟨l, hl, rfl⟩ := List.mem_map.mp hx
  exact ⟨l, hl, h l hl⟩

theorem mem_inputs_iff {p : PortId} : p ∈ Wiring.inputs ⟨g.links.map cableOf⟩ ↔ g.IsFed p := by
  rw [Wiring.mem_inputs]
  constructor
  · rintro ⟨x, hx, rfl⟩
    obtain ⟨l, hl, hcarries⟩ := carries_of_mem h hx
    exact ⟨l, hl, hcarries.target.symm⟩
  · rintro ⟨l, hl, rfl⟩
    exact ⟨cableOf l, List.mem_map_of_mem hl, (h l hl).target⟩

theorem mem_inputEntries_iff {id : NodeId} {key : String} {queue : QueueId} :
    (key, queue) ∈ Wiring.inputEntries ⟨g.links.map cableOf⟩ id ↔
      ∃ p input, g.IsFed p ∧ p.node = id ∧ g.descriptor p = .ok input ∧ input.key = key ∧
        Wiring.queueOf ⟨g.links.map cableOf⟩ p = queue := by
  constructor
  · intro hentry
    obtain ⟨x, hx, hpair⟩ := List.mem_map.mp hentry
    obtain ⟨hinlet, hnode⟩ := List.mem_filter.mp hx
    obtain ⟨rfl, rfl⟩ := Prod.mk.inj hpair
    obtain ⟨l, hl, hcarries⟩ := carries_of_mem h (Wiring.cables_of_inlets hinlet)
    obtain ⟨input, hinput, hkey⟩ := hcarries.inputPort
    exact ⟨x.target, input, ⟨l, hl, hcarries.target.symm⟩, by simpa using hnode, hinput, hkey.symm, rfl⟩
  · rintro ⟨p, input, hfed, rfl, hinput, rfl, rfl⟩
    have hmem := (mem_inputs_iff h).mpr hfed
    rw [← Wiring.map_target_inlets] at hmem
    obtain ⟨x, hx, rfl⟩ := List.mem_map.mp hmem
    obtain ⟨l, -, hcarries⟩ := carries_of_mem h (Wiring.cables_of_inlets hx)
    obtain ⟨other, hother, hkey⟩ := hcarries.inputPort
    obtain rfl : input = other := Except.ok.inj (hinput.symm.trans hother)
    exact List.mem_map.mpr ⟨x, List.mem_filter.mpr ⟨hx, by simp⟩, by rw [hkey]⟩

/-- The linked inputs of a node have different keys, as all its ports have. -/
theorem nodup_inputEntries (hkeys : g.KeysDiffer) (id : NodeId) :
    ((Wiring.inputEntries ⟨g.links.map cableOf⟩ id).map Prod.fst).Nodup := by
  have htargets := Wiring.nodup_inputs ⟨g.links.map cableOf⟩
  rw [← Wiring.map_target_inlets] at htargets
  have hinlets := (List.pairwise_map.mp htargets).sublist (List.filter_sublist (p := fun x => x.target.node == id))
  rw [Wiring.inputEntries, List.map_map, List.Nodup, List.pairwise_map]
  refine hinlets.imp_of_mem fun {x y} hx hy hne hkey => hne ?_
  obtain ⟨hx, hxnode⟩ := List.mem_filter.mp hx
  obtain ⟨hy, hynode⟩ := List.mem_filter.mp hy
  obtain ⟨_, _, hxcarries⟩ := carries_of_mem h (Wiring.cables_of_inlets hx)
  obtain ⟨_, _, hycarries⟩ := carries_of_mem h (Wiring.cables_of_inlets hy)
  obtain ⟨a, ha, hxkey⟩ := hxcarries.inputPort
  obtain ⟨b, hb, hykey⟩ := hycarries.inputPort
  have hnode : x.target.node = y.target.node := (beq_iff_eq.mp hxnode).trans (beq_iff_eq.mp hynode).symm
  exact hkeys.eq_of_key ha hb hnode (hxkey.symm.trans (hkey.trans hykey))

/-- Of the links of a node, those that start at one output are found by its key. -/
theorem filter_outputEntries (hkeys : g.KeysDiffer) {p : PortId} {output : Port} (hp : g.descriptor p = .ok output) :
    (((Wiring.outputEntries ⟨g.links.map cableOf⟩ p.node).filter fun e => e.1 == output.key).map Prod.snd) =
      (g.targetsOf p).map (Wiring.queueOf ⟨g.links.map cableOf⟩) := by
  simp only [Wiring.outputEntries, targetsOf, List.filter_map, List.map_map, List.filter_filter]
  have hsame : ∀ l ∈ g.links,
      ((cableOf l).outputKey == output.key && (cableOf l).source.node == p.node) = (l.source == p) := by
    intro l hl
    obtain ⟨other, hother, hkey⟩ := (h l hl).output
    rw [(h l hl).source, hkey, Bool.eq_iff_iff]
    simp only [Bool.and_eq_true, beq_iff_eq]
    constructor
    · rintro ⟨hsamekey, hnode⟩
      exact hkeys.eq_of_key hother hp hnode hsamekey
    · rintro rfl
      exact ⟨by rw [Except.ok.inj (hother.symm.trans hp)], rfl⟩
  refine (congrArg _ (List.filter_congr hsame)).trans (List.map_congr_left fun l hl => ?_)
  simp only [Function.comp_apply, (h l (List.mem_filter.mp hl).1).target]

end Graph

/-! ## The links realised -/

/-- No two links have the same ends, so an output leads to an input once. -/
theorem Graph.WellLinked.nodup_targetsOf {g : Graph} (h : g.WellLinked) (p : PortId) : (g.targetsOf p).Nodup := by
  have hdistinct := (List.pairwise_map.mp h.distinct).sublist (List.filter_sublist (p := fun l => l.source == p))
  rw [Graph.targetsOf, List.Nodup, List.pairwise_map]
  refine hdistinct.imp_of_mem fun {l m} hl hm hne htarget => hne ?_
  have hsource : l.source = m.source :=
    (beq_iff_eq.mp (List.mem_filter.mp hl).2).trans (beq_iff_eq.mp (List.mem_filter.mp hm).2).symm
  rw [hsource, htarget]

theorem Graph.isFed_of_mem_targetsOf {g : Graph} {p q : PortId} (h : q ∈ g.targetsOf p) : g.IsFed q := by
  obtain ⟨l, hl, rfl⟩ := List.mem_map.mp h
  exact ⟨l, (List.mem_filter.mp hl).1, rfl⟩

theorem Graph.WellLinked.realised {g : Graph} (hg : g.WellLinked) (hkeys : g.KeysDiffer) {w : Wiring}
    (hw : g.wiring = .ok w) (names : NodeId → String) (pollInterval : Nat) :
    g.Realised w.store w.queueOf fun id => w.context id (names id) pollInterval := by
  obtain ⟨cableOf, hwiring, h⟩ := hg.wiring
  obtain rfl : w = ⟨g.links.map cableOf⟩ := Except.ok.inj (hw.symm.trans hwiring)
  have hcontext (id : NodeId) := Wiring.context_eq (Graph.nodup_inputEntries h hkeys id)
  have hdistinct {p q : PortId} (hp : g.IsFed p)
      (hsame : Wiring.queueOf ⟨g.links.map cableOf⟩ p = Wiring.queueOf ⟨g.links.map cableOf⟩ q) : p = q :=
    Wiring.queueOf_inj ((Graph.mem_inputs_iff h).mpr hp) hsame
  refine ⟨fun {p} hfed => ?_, hdistinct, fun {id} hid => ?_, fun {id key queue} => ?_, fun {id} => ?_,
    fun {p output} hp => ?_, fun {id key} hlinked => ?_, fun p => ?_⟩
  · obtain ⟨x, hx, rfl, hqueue⟩ := Wiring.get?_queueOf ((Graph.mem_inputs_iff h).mpr hfed)
    obtain ⟨l, -, hcarries⟩ := Graph.carries_of_mem h hx
    obtain ⟨owner, input, howner, hport, -, hmake⟩ := hcarries.input
    rw [hcarries.target] at hqueue ⊢
    exact ⟨owner, input, howner, hport, hmake ▸ hqueue⟩
  · obtain ⟨p, hp, hqueue⟩ := Wiring.exists_queueOf hid
    exact ⟨p, (Graph.mem_inputs_iff h).mp hp, hqueue⟩
  · rw [hcontext]
    exact Graph.mem_inputEntries_iff h
  · rw [hcontext]
    exact Graph.nodup_inputEntries h hkeys id
  · rw [hcontext]
    exact Graph.filter_outputEntries h hkeys hp
  · rw [hcontext] at hlinked
    obtain ⟨e, he, hkey⟩ := List.any_eq_true.mp hlinked
    obtain ⟨x, hx, rfl⟩ := List.mem_map.mp he
    obtain ⟨hx, hnode⟩ := List.mem_filter.mp hx
    obtain ⟨l, -, hcarries⟩ := Graph.carries_of_mem h hx
    obtain ⟨output, houtput, houtputKey⟩ := hcarries.output
    rw [hcarries.source] at hnode
    exact ⟨l.source, output, by simpa using hnode, houtput, houtputKey.symm.trans (by simpa using hkey)⟩
  · rw [List.Nodup, List.pairwise_map]
    refine (hg.nodup_targetsOf p).imp_of_mem fun {a b} ha _ hne hsame => hne ?_
    exact hdistinct (Graph.isFed_of_mem_targetsOf ha) hsame

end FrameGraph
