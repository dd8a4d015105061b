import FrameGraph.Device
import FrameGraph.Proofs.Device.Wiring

/-!
# What a start does

A start writes as it goes: it puts the queues in place link by link, and then the streams node by node. Whatever it
has come to when something turns up against it, it has changed nothing but the queues and streams. Where it panics, they
stay.

* `Graph.without`: a graph whose nodes have been taken out in part.
* `Queue.create_eq`, `Device.streamQueue_eq`: a queue is made unless it asks for more room than can be addressed.
* `Device.run_wireLink`: one link more. `Device.run_wire`: the links one by one come to the wiring of the graph.
* `Device.Manned`: some nodes have their threads and streams. `Manned.run_enlist` is the step, one node more, and
  `Manned.run_enlistAll` any number of them.
* `Device.start_cases`: a start leaves the device as it was, or panics, or all nodes of the plan have their threads.
-/

namespace FrameGraph
set_option autoImplicit false

namespace Graph
variable {g : Graph} {id : NodeId} {ids : List NodeId} {body : Body}

/-! ## Bodies -/

def bodyAt (g : Graph) (id : NodeId) : Option Body :=
  g.nodes[id.index]?.bind Node.body

def streamAt (g : Graph) (id : NodeId) : Option HostStream :=
  (g.bodyAt id).bind Body.hostStream?

/-- The graph without the bodies of some nodes. -/
def without (g : Graph) (ids : List NodeId) : Graph :=
  { g with nodes := g.nodes.mapIdx fun i n => if NodeId.mk i ∈ ids then { n with body := none } else n }

@[simp] theorem without_nil (g : Graph) : g.without [] = g := by
  have hnodes : g.nodes.mapIdx (fun _ n => n) = g.nodes := List.ext_getElem? fun i => by simp
  simp [without, hnodes]

theorem node_without : (g.without ids).nodes[id.index]? =
    g.nodes[id.index]?.map fun n => if id ∈ ids then { n with body := none } else n := by
  simp [without]

theorem bodyAt_without : (g.without ids).bodyAt id = if id ∈ ids then none else g.bodyAt id := by
  rw [bodyAt, node_without, bodyAt]
  cases g.nodes[id.index]? with
  | none => simp
  | some n => by_cases hid : id ∈ ids <;> simp [hid]

theorem takeBody_fst (g : Graph) (id : NodeId) : (g.takeBody id).1 = g.bodyAt id := by
  rw [takeBody, bodyAt]
  cases g.nodes[id.index]? <;> rfl

theorem takeBody_without (hnew : id ∉ ids) (hbody : g.bodyAt id = some body) :
    (g.without ids).takeBody id = (some body, g.without (ids ++ [id])) := by
  obtain ⟨n, hn, hbody⟩ := Option.bind_eq_some_iff.mp hbody
  have hat : (g.without ids).nodes[id.index]? = some n := by rw [node_without, hn, Option.map_some, if_neg hnew]
  have hnodes : (g.without ids).nodes.set id.index { n with body := none } = (g.without (ids ++ [id])).nodes := by
    refine List.ext_getElem? fun i => ?_
    by_cases hi : id.index = i
    · subst hi
      rw [List.getElem?_set_self (List.getElem?_eq_some_iff.mp hat).1, node_without, hn]
      simp
    · have hne : NodeId.mk i ≠ id := fun hsame => hi (by rw [← hsame])
      rw [List.getElem?_set_ne hi]
      simp [without, hne]
  simp only [takeBody, hat, hbody, setNode, hnodes]
  rfl

/-! ## Nodes that can be started together -/

/-- Every one of these nodes is there once with its body, and no two of them serve streams of one name. -/
structure Startable (g : Graph) (ids : List NodeId) : Prop where
  nodup : ids.Nodup
  body : ∀ id ∈ ids, (g.bodyAt id).isSome = true
  names : ((ids.filterMap g.streamAt).map HostStream.name).Nodup

theorem Startable.of_append {rest : List NodeId} (h : g.Startable (ids ++ rest)) : g.Startable ids where
  nodup := (List.nodup_append.mp h.nodup).1
  body id hid := h.body id (List.mem_append_left rest hid)
  names := by
    have hnames := h.names
    rw [List.filterMap_append, List.map_append] at hnames
    exact (List.nodup_append.mp hnames).1

theorem startable_concat_iff (h : g.Startable ids) (id : NodeId) : g.Startable (ids ++ [id]) ↔
    id ∉ ids ∧ ∃ body, g.bodyAt id = some body ∧
      ∀ stream, body.hostStream? = some stream → stream.name ∉ (ids.filterMap g.streamAt).map HostStream.name := by
  constructor
  · rintro ⟨hnodup, hbody, hnames⟩
    obtain ⟨body, hbody⟩ := Option.isSome_iff_exists.mp (hbody id (by simp))
    refine ⟨fun hid => (List.nodup_append.mp hnodup).2.2 id hid id (by simp) rfl, body, hbody, fun stream hstream => ?_⟩
    have hat : g.streamAt id = some stream := by rw [streamAt, hbody, Option.bind_some, hstream]
    rw [List.filterMap_append, List.map_append, List.filterMap_cons, hat] at hnames
    exact fun hname => (List.nodup_append.mp hnames).2.2 _ hname stream.name (by simp) rfl
  · rintro ⟨hid, body, hbody, hnew⟩
    refine ⟨List.nodup_append.mpr ⟨h.nodup, List.nodup_singleton _, ?_⟩, ?_, ?_⟩
    · rintro other hother _ hsingle rfl
      exact hid (List.mem_singleton.mp hsingle ▸ hother)
    · intro other hother
      rcases List.mem_append.mp hother with hother | hother
      · exact h.body other hother
      · rw [List.mem_singleton.mp hother, hbody]
        rfl
    · rw [List.filterMap_append, List.map_append, List.nodup_append]
      refine ⟨h.names, ?_, ?_⟩
      · cases hstream : g.streamAt id <;> simp [hstream]
      · intro name hname other hother hsame
        obtain ⟨stream, hstream, rfl⟩ := List.mem_map.mp hother
        obtain ⟨_, hsingle, hat⟩ := List.mem_filterMap.mp hstream
        rw [List.mem_singleton.mp hsingle, streamAt, hbody, Option.bind_some] at hat
        exact hnew stream hat (hsame ▸ hname)

end Graph

/-! ## New queues -/

theorem Queue.create_eq {α : Type} (name : String) (capacity : Nat) (blocking : Bool) :
    (create name capacity blocking : Except Panic (Queue α)) =
      if capacity ≤ maxCapacity then .ok (make name capacity blocking) else .error .capacityOverflow := by
  have hone : max capacity 1 ≤ maxCapacity ↔ capacity ≤ maxCapacity :=
    max_le_iff.trans (and_iff_left (by decide))
  simp only [create, make, hone]

/-- The room that a stream asks for. -/
def HostStream.depth (hostQueues : QueueSettings) : HostStream → Nat
  | output _ => hostQueues.size.toNat
  | input _ size _ => size

namespace Device
variable {d : Device} {g : Graph}

/-- The queue of a stream, however much room it asks for. -/
def queueFor (d : Device) : HostStream → Queue Message
  | .output name => .make name d.hostQueues.size.toNat d.hostQueues.blocking
  | .input name size blocking => .make name size blocking

theorem streamQueue_eq (d : Device) (stream : HostStream) : d.streamQueue stream =
    if stream.depth d.hostQueues ≤ Queue.maxCapacity then .ok (d.queueFor stream) else .error .capacityOverflow := by
  cases stream <;> exact Queue.create_eq ..

theorem run_putQueue (d : Device) (queue : Except Panic (Queue Message)) :
    Edit.run d (putQueue queue) = match queue with
      | .ok q => (.ok d.store.size, { d with store := (d.store.insert q).2 })
      | .error p => (.error (.panicked p), d) := by
  cases queue <;> rfl

/-! ## Links -/

/-- What a node is told before it serves a stream. -/
def contextOf (d : Device) (g : Graph) (w : Wiring) (id : NodeId) : Context :=
  w.context id ((g.nodes[id.index]?.map Node.name).getD "") d.pollInterval

/-- One link more. Its input has its queue already, or is to get one now. -/
theorem run_wireLink {w : Wiring} (hstore : d.store = w.store) (hmade : ∀ y ∈ w.cables, ∃ l, g.cable l = .ok y)
    (names : NodeId → String) (pollInterval : Nat) (l : Link) :
    (∃ e, g.cable l = .error e ∧
      Edit.run d (wireLink g (w.bench names pollInterval) l) = (.error (.failed (.graphRejected e.message)), d)) ∨
    (∃ x, g.cable l = .ok x ∧ x.target ∉ w.inputs ∧ ¬x.Fits ∧
      Edit.run d (wireLink g (w.bench names pollInterval) l) = (.error (.panicked .capacityOverflow), d)) ∨
    ∃ x, g.cable l = .ok x ∧ (x.target ∈ w.inputs ∨ x.Fits) ∧
      Edit.run d (wireLink g (w.bench names pollInterval) l) =
        (.ok ((w.add x).bench names pollInterval), { d with store := (w.add x).store }) := by
  cases houtput : g.descriptor l.source with
  | error e =>
    refine .inl ⟨e, by rw [Graph.cable, houtput]; rfl, ?_⟩
    simp only [wireLink, Edit.run_bind, Edit.run_ask, houtput, rejected]
  | ok output => cases hinput : g.descriptor l.target with
    | error e =>
      -- An input that has its queue already would be known.
      have hnew : l.target ∉ w.inputs := fun hold => by
        obtain ⟨y, hy, htarget⟩ := Wiring.mem_inputs.mp hold
        obtain ⟨m, hm⟩ := hmade y hy
        obtain ⟨input, hknown, -⟩ := (Graph.carries_of_cable hm).inputPort
        rw [htarget, hinput] at hknown
        cases hknown
      refine .inl ⟨e, by rw [Graph.cable, houtput, hinput]; rfl, ?_⟩
      simp only [wireLink, inletFor, Wiring.queue?_bench, if_neg hnew, Edit.run_bind, Edit.run_ask, houtput, hinput,
        rejected]
    | ok input =>
      obtain ⟨owner, howner, hcable⟩ := Graph.cable_of_descriptors houtput hinput
      generalize hx : Cable.mk l.source output.key l.target input.key
        (.make (owner.qualified input) input.queueSize input.blocking) = x at hcable
      by_cases hold : l.target ∈ w.inputs
      · have hx' : x.target ∈ w.inputs := hx ▸ hold
        refine .inr (.inr ⟨x, hcable, .inl hx', ?_⟩)
        rw [Wiring.bench_add_of_old hx', Wiring.store_add, if_pos hx', ← hstore, ← hx]
        simp only [wireLink, inletFor, Wiring.queue?_bench, if_pos hold, Edit.run_bind, Edit.run_ask, Edit.run_pure,
          houtput, rejected]
      · have hx' : x.target ∉ w.inputs := hx ▸ hold
        have hfits := (Graph.carries_of_cable hcable).fits_iff hinput
        by_cases hroom : input.queueSize ≤ Queue.maxCapacity
        · refine .inr (.inr ⟨x, hcable, .inr (hfits.mpr hroom), ?_⟩)
          rw [Wiring.bench_add_of_new hx', Wiring.store_add, if_neg hx', ← hstore, ← hx]
          simp only [wireLink, inletFor, Wiring.queue?_bench, if_neg hold, Edit.run_bind, Edit.run_ask, Edit.run_pure,
            houtput, hinput, howner, rejected, run_putQueue, Queue.create_eq, if_pos hroom]
        · refine .inr (.inl ⟨x, hcable, hx', mt hfits.mp hroom, ?_⟩)
          simp only [wireLink, inletFor, Wiring.queue?_bench, if_neg hold, Edit.run_bind, Edit.run_ask,
            houtput, hinput, howner, rejected, run_putQueue, Queue.create_eq, if_neg hroom]

/-- As the links are gone through, the queues of the wiring up to them stand. -/
theorem run_wire (names : NodeId → String) (pollInterval : Nat) (links : List Link) {w : Wiring}
    (hstore : d.store = w.store) (hmade : ∀ y ∈ w.cables, ∃ l, g.cable l = .ok y) :
    (∃ e store, Edit.run d (wire g (w.bench names pollInterval) links) = (.error (.failed e), { d with store }) ∧
      ∃ e, links.mapM g.cable = .error e) ∨
    (∃ store, Edit.run d (wire g (w.bench names pollInterval) links) =
        (.error (.panicked .capacityOverflow), { d with store }) ∧ ∃ l ∈ links, ∃ x, g.cable l = .ok x ∧ ¬x.Fits) ∨
    ∃ cables, links.mapM g.cable = .ok cables ∧
      (∀ l ∈ links, ∀ x, g.cable l = .ok x → x.target ∈ w.inputs ∨ x.Fits) ∧
      Edit.run d (wire g (w.bench names pollInterval) links) =
        (.ok (Wiring.bench ⟨w.cables ++ cables⟩ names pollInterval),
          { d with store := Wiring.store ⟨w.cables ++ cables⟩ }) := by
  induction links generalizing d w with
  | nil =>
    refine .inr (.inr ⟨[], rfl, fun _ h => (nomatch h), ?_⟩)
    rw [List.append_nil, ← hstore]
    rfl
  | cons l rest ih =>
    simp only [wire, Edit.run_bind]
    rcases run_wireLink hstore hmade names pollInterval l with ⟨e, hcable, h⟩ | ⟨x, hcable, -, hlarge, h⟩ |
        ⟨x, hcable, hroom, h⟩ <;>
      rw [h]
    · refine .inl ⟨_, d.store, rfl, e, ?_⟩
      rw [List.mapM_cons, hcable]
      rfl
    · exact .inr (.inl ⟨d.store, rfl, l, List.mem_cons_self, x, hcable, hlarge⟩)
    · have hmap : (l :: rest).mapM g.cable = (rest.mapM g.cable).map (x :: ·) := by
        rw [List.mapM_cons, hcable]
        cases rest.mapM g.cable <;> rfl
      have hmade' : ∀ y ∈ (w.add x).cables, ∃ l, g.cable l = .ok y := by
        intro y hy
        rcases List.mem_append.mp hy with hy | hy
        · exact hmade y hy
        · exact ⟨l, by rw [List.mem_singleton.mp hy, hcable]⟩
      rcases ih (d := { d with store := (w.add x).store }) (w := w.add x) rfl hmade' with
        ⟨e, store, h, e', hrest⟩ | ⟨store, h, m, hm, y, hy⟩ | ⟨cables, hrest, hfit, h⟩
      · exact .inl ⟨e, store, h, e', by rw [hmap, hrest]; rfl⟩
      · exact .inr (.inl ⟨store, h, m, List.mem_cons_of_mem l hm, y, hy⟩)
      · have hcables : (w.add x).cables ++ cables = w.cables ++ x :: cables := by simp [Wiring.add]
        rw [hcables] at h
        refine .inr (.inr ⟨x :: cables, by rw [hmap, hrest]; rfl, List.forall_mem_cons.mpr ⟨?_, fun m hm y hy => ?_⟩, h⟩)
        · rintro y hy
          obtain rfl : x = y := Except.ok.inj (hcable.symm.trans hy)
          exact hroom
        · have hsame (htarget : y.target = x.target) : y.target ∈ w.inputs ∨ y.Fits := by
            have hqueue := (Graph.carries_of_cable hy).queue_eq (Graph.carries_of_cable hcable) htarget
            rwa [htarget, Cable.Fits, hqueue]
          rcases hfit m hm y hy with hold | hfits
          · exact (Wiring.mem_inputs_add.mp hold).elim .inl hsame
          · exact .inr hfits

/-! ## Nodes -/

/-- The thread of a node that is about to run, in the context of the node. One that serves a stream has its queue. -/
inductive Posted (g : Graph) (contexts : NodeId → Context) (served : List Served) : Thread → Prop
  | plain (id : NodeId) (body : Body) (hbody : g.bodyAt id = some body) (hstream : body.hostStream? = none) :
      Posted g contexts served ⟨contexts id, .entering body⟩
  | bridge (id : NodeId) (body : Body) (stream : HostStream) (queue : QueueId) (hbody : g.bodyAt id = some body)
      (hstream : body.hostStream? = some stream) (hserved : ⟨stream, queue⟩ ∈ served) :
      Posted g contexts served ⟨(contexts id).setHost queue, .entering body⟩

theorem Posted.mono {contexts : NodeId → Context} {served more : List Served} {t : Thread}
    (h : Posted g contexts served t) : Posted g contexts (served ++ more) t := by
  cases h with
  | plain id body hbody hstream => exact .plain id body hbody hstream
  | bridge id body stream queue hbody hstream hserved =>
    exact .bridge id body stream queue hbody hstream (List.mem_append_left more hserved)

/-- What a start has come to after some nodes. -/
structure Manned (base : Device) (g : Graph) (contexts : NodeId → Context) (ids : List NodeId) (d : Device)
    (l : Launch) : Prop where
  startable : g.Startable ids
  graph : l.graph = g.without ids
  nodes : l.threads.map Thread.node = ids
  posted : ∀ t ∈ l.threads, Posted g contexts d.served t
  hosts : l.threads.filterMap (fun t => t.context.host) = d.served.map Served.queue
  streams : d.served.map Served.stream = ids.filterMap g.streamAt
  /-- The queues of the streams stand behind those of the links, in the order of the nodes. -/
  queues : d.served.map Served.queue = List.range' base.store.size d.served.length
  rooms : ∀ e ∈ d.served, e.stream.depth base.hostQueues ≤ Queue.maxCapacity
  device : d = { base with
    served := d.served, store := ⟨base.store.queues ++ d.served.map fun e => base.queueFor e.stream⟩ }

variable {base : Device} {contexts : NodeId → Context} {ids : List NodeId} {l : Launch}

theorem manned_nil (base : Device) (hserved : base.served = []) (g : Graph) (contexts : NodeId → Context) :
    Manned base g contexts [] base { graph := g } where
  startable := ⟨List.nodup_nil, fun _ h => (nomatch h), List.nodup_nil⟩
  graph := g.without_nil.symm
  nodes := rfl
  posted _ h := nomatch h
  hosts := by rw [hserved]; rfl
  streams := by rw [hserved]; rfl
  queues := by rw [hserved]; rfl
  rooms _ h := by rw [hserved] at h; cases h
  device := by rw [hserved, List.map_nil, List.append_nil, ← hserved]

theorem Manned.size (h : Manned base g contexts ids d l) : d.store.size = base.store.size + d.served.length := by
  rw [h.device]
  simp [QueueStore.size]

def serving (d : Device) (stream : HostStream) : Device :=
  { d with served := d.served ++ [⟨stream, d.store.size⟩], store := (d.store.insert (d.queueFor stream)).2 }

theorem run_serve (d : Device) (stream : HostStream) : Edit.run d (serve stream) =
    if stream.name ∈ (d.served.map Served.stream).map HostStream.name then
      (.error (.failed (.graphRejected ("stream name '" ++ stream.name ++ "' is used twice"))), d)
    else if stream.depth d.hostQueues ≤ Queue.maxCapacity then (.ok d.store.size, d.serving stream)
    else (.error (.panicked .capacityOverflow), d) := by
  have hcond : (d.served.any fun e => e.stream.name == stream.name) =
      decide (stream.name ∈ (d.served.map Served.stream).map HostStream.name) := by
    rw [Bool.eq_iff_iff]
    simp
  rw [serve, Edit.run_require_bind, hcond]
  by_cases hused : stream.name ∈ (d.served.map Served.stream).map HostStream.name
  · simp only [hused, decide_true, Bool.not_true, if_true]
    rfl
  · simp only [hused, decide_false, Bool.not_false, if_true, if_false]
    rw [Edit.run_get_bind, Edit.run_bind, run_putQueue, streamQueue_eq]
    by_cases hroom : stream.depth d.hostQueues ≤ Queue.maxCapacity
    · simp only [if_pos hroom]
      rfl
    · simp only [if_neg hroom]

section
variable (hcontexts : ∀ id, (contexts id).node = id ∧ (contexts id).host = none)
include hcontexts

theorem Manned.plain (h : Manned base g contexts ids d l) {id : NodeId} {body : Body}
    (hall : g.Startable (ids ++ [id])) (hbody : g.bodyAt id = some body) (hstream : body.hostStream? = none) :
    Manned base g contexts (ids ++ [id]) d
      ⟨g.without (ids ++ [id]), l.threads ++ [⟨contexts id, .entering body⟩]⟩ where
  startable := hall
  graph := rfl
  nodes := by simp [h.nodes, Thread.node, hcontexts]
  posted t ht := by
    rcases List.mem_append.mp ht with ht | ht
    · exact h.posted t ht
    · rw [List.mem_singleton.mp ht]
      exact .plain id body hbody hstream
  hosts := by simp [h.hosts, hcontexts]
  streams := by simp [h.streams, Graph.streamAt, hbody, hstream]
  queues := h.queues
  rooms := h.rooms
  device := h.device

theorem Manned.bridge (h : Manned base g contexts ids d l) {id : NodeId} {body : Body} {stream : HostStream}
    (hall : g.Startable (ids ++ [id])) (hbody : g.bodyAt id = some body) (hstream : body.hostStream? = some stream)
    (hroom : stream.depth base.hostQueues ≤ Queue.maxCapacity) : Manned base g contexts (ids ++ [id]) (d.serving stream)
      ⟨g.without (ids ++ [id]), l.threads ++ [⟨(contexts id).setHost d.store.size, .entering body⟩]⟩ where
  startable := hall
  graph := rfl
  nodes := by simp [h.nodes, Thread.node, Context.setHost, hcontexts]
  posted t ht := by
    rcases List.mem_append.mp ht with ht | ht
    · exact (h.posted t ht).mono
    · rw [List.mem_singleton.mp ht]
      exact .bridge id body stream _ hbody hstream (by simp [serving])
  hosts := by simp [h.hosts, Context.setHost, serving]
  streams := by simp [h.streams, Graph.streamAt, hbody, hstream, serving]
  queues := by
    simp only [serving, List.map_append, List.map_singleton, h.queues, h.size, List.length_append,
      List.length_singleton, List.range'_concat, Nat.one_mul]
  rooms e he := by
    rcases List.mem_append.mp he with he | he
    · exact h.rooms e he
    · rw [List.mem_singleton.mp he]
      exact hroom
  device := by
    have hqueue : d.queueFor stream = base.queueFor stream := by rw [h.device]; rfl
    have hstore : d.store.queues = base.store.queues ++ d.served.map fun e => base.queueFor e.stream := by
      rw [h.device]
    have hsame : d.serving stream = { base with served := (d.serving stream).served, store := (d.serving stream).store } := by
      rw [serving, h.device]
    rw [hsame]
    simp [serving, QueueStore.insert, hqueue, hstore]

/-- One node more: it has its thread now, and its stream, if it serves one. Or it cannot be started with the others, or
there cannot be a queue for its stream, and then nothing has changed. -/
theorem Manned.run_enlist (h : Manned base g contexts ids d l) (id : NodeId) :
    (∃ e, Edit.run d (enlist contexts l id) = (.error (.failed e), d) ∧ ¬g.Startable (ids ++ [id])) ∨
    (Edit.run d (enlist contexts l id) = (.error (.panicked .capacityOverflow), d) ∧
      ∃ stream, g.streamAt id = some stream ∧ ¬stream.depth base.hostQueues ≤ Queue.maxCapacity) ∨
    ∃ next launch, Edit.run d (enlist contexts l id) = (.ok launch, next) ∧
      Manned base g contexts (ids ++ [id]) next launch := by
  have hstart := Graph.startable_concat_iff h.startable id
  cases hgone : (l.graph.takeBody id).1 with
  | none =>
    -- The node is not there, or it has been taken out before.
    refine .inl ⟨.graphRejected (id.text ++ " cannot be started"), ?_, fun hall => ?_⟩
    · rw [enlist]
      generalize l.graph.takeBody id = taken at hgone
      obtain ⟨_, graph⟩ := taken
      cases hgone
      rfl
    · obtain ⟨hid, body, hbody, -⟩ := hstart.mp hall
      rw [h.graph, Graph.takeBody_without hid hbody] at hgone
      cases hgone
  | some body =>
    obtain ⟨hid, hbody⟩ : id ∉ ids ∧ g.bodyAt id = some body := by
      rw [h.graph, Graph.takeBody_fst, Graph.bodyAt_without] at hgone
      split at hgone
      · cases hgone
      · exact ⟨by assumption, hgone⟩
    have htaken : l.graph.takeBody id = (some body, g.without (ids ++ [id])) := by
      rw [h.graph, Graph.takeBody_without hid hbody]
    cases hstream : body.hostStream? with
    | none =>
      have hall := hstart.mpr ⟨hid, body, hbody, by simp [hstream]⟩
      refine .inr (.inr ⟨_, _, ?_, h.plain hcontexts hall hbody hstream⟩)
      simp only [enlist, htaken, hstream, Edit.run_pure]
    | some stream =>
      have hsettings : d.hostQueues = base.hostQueues := by rw [h.device]
      have hserve := run_serve d stream
      rw [h.streams, hsettings] at hserve
      by_cases hused : stream.name ∈ (ids.filterMap g.streamAt).map HostStream.name
      · -- Another stream has the name, so the node cannot be started together with those before it.
        rw [if_pos hused] at hserve
        refine .inl ⟨.graphRejected ("stream name '" ++ stream.name ++ "' is used twice"), ?_, fun hall => ?_⟩
        · simp only [enlist, htaken, hstream, Edit.run_bind, hserve]
        · obtain ⟨-, other, hother, hnew⟩ := hstart.mp hall
          obtain rfl : body = other := Option.some.inj (hbody.symm.trans hother)
          exact hnew stream hstream hused
      · rw [if_neg hused] at hserve
        by_cases hroom : stream.depth base.hostQueues ≤ Queue.maxCapacity
        · rw [if_pos hroom] at hserve
          have hall := hstart.mpr ⟨hid, body, hbody, fun other hother => by
            obtain rfl : stream = other := Option.some.inj (hstream.symm.trans hother)
            exact hused⟩
          refine .inr (.inr ⟨_, _, ?_, h.bridge hcontexts hall hbody hstream hroom⟩)
          simp only [enlist, htaken, hstream, Edit.run_bind, hserve, Edit.run_pure]
        · rw [if_neg hroom] at hserve
          refine .inr (.inl ⟨?_, stream, by rw [Graph.streamAt, hbody, Option.bind_some, hstream], hroom⟩)
          simp only [enlist, htaken, hstream, Edit.run_bind, hserve]

theorem Manned.run_enlistAll (h : Manned base g contexts ids d l) (rest : List NodeId) :
    (∃ e next launch done, Edit.run d (enlistAll contexts l rest) = (.error (.failed e), next) ∧
      Manned base g contexts done next launch ∧ ¬g.Startable (ids ++ rest)) ∨
    (∃ next, Edit.run d (enlistAll contexts l rest) = (.error (.panicked .capacityOverflow), next) ∧
      ∃ id ∈ rest, ∃ stream, g.streamAt id = some stream ∧ ¬stream.depth base.hostQueues ≤ Queue.maxCapacity) ∨
    ∃ next launch, Edit.run d (enlistAll contexts l rest) = (.ok launch, next) ∧
      Manned base g contexts (ids ++ rest) next launch := by
  induction rest generalizing ids d l with
  | nil => exact .inr (.inr ⟨d, l, rfl, by rwa [List.append_nil]⟩)
  | cons id rest ih =>
    have hsplit : ids ++ id :: rest = ids ++ [id] ++ rest := by simp
    rw [hsplit]
    rcases h.run_enlist hcontexts id with ⟨e, hrun, hnot⟩ | ⟨hrun, hlarge⟩ | ⟨next, launch, hrun, hnext⟩
    · refine .inl ⟨e, d, l, ids, ?_, h, fun hall => hnot hall.of_append⟩
      simp only [enlistAll, Edit.run_bind, hrun]
    · refine .inr (.inl ⟨d, ?_, id, List.mem_cons_self, hlarge⟩)
      simp only [enlistAll, Edit.run_bind, hrun]
    · have hall : Edit.run d (enlistAll contexts l (id :: rest)) = Edit.run next (enlistAll contexts launch rest) := by
        simp only [enlistAll, Edit.run_bind, hrun]
      rw [hall]
      rcases ih hnext with hfailed | ⟨last, hrun, other, hother, hlarge⟩ | hdone
      · exact .inl hfailed
      · exact .inr (.inl ⟨last, hrun, other, List.mem_cons_of_mem id hother, hlarge⟩)
      · exact .inr (.inr hdone)

end

/-! ## Starts -/

theorem contextOf_fields (d : Device) (g : Graph) (w : Wiring) (id : NodeId) :
    (d.contextOf g w id).node = id ∧ (d.contextOf g w id).host = none ∧
      (d.contextOf g w id).name = (g.nodes[id.index]?.map Node.name).getD "" := by
  obtain ⟨inputs, hinputs⟩ := Context.attachEach_fields (w.inputEntries id)
    { node := id, name := (g.nodes[id.index]?.map Node.name).getD "", pollInterval := d.pollInterval }
  rw [contextOf, Wiring.context_fields, hinputs]
  exact ⟨rfl, rfl, rfl⟩

theorem start_of_closed (h : d.isClosed = true) (g : Graph) :
    d.start g = (.error (.failed (.deviceUnavailable ("device '" ++ d.name ++ "' is closed"))), d) := by
  rw [start, Edit.run_require_bind, h]
  rfl

theorem start_of_running (hopen : d.isClosed = false) (h : d.running = true) (g : Graph) : d.start g =
    (.error (.failed (.deviceUnavailable ("device '" ++ d.name ++ "' is already running a pipeline"))), d) := by
  rw [start, Edit.run_require_bind, hopen, Edit.run_require_bind, h]
  rfl

/-- A start that only the graph can stand against. -/
theorem start_of_resting (hopen : d.isClosed = false) (hresting : d.running = false) (g : Graph) :
    d.start g = match g.build.1 with
      | .error e => (.error (.failed (.graphRejected e.message)), d)
      | .ok plan => match Edit.run d (wire g.build.2 { contexts := d.bareContext g.build.2 } g.build.2.links) with
        | (.error e, d) => (.error e, d.clearAfter e)
        | (.ok b, next) => match Edit.run next
            (enlistAll b.contexts { graph := g.build.2 } (plan.order.map NodeId.mk)) with
          | (.error e, d) => (.error e, d.clearAfter e)
          | (.ok l, d) => (.ok (), { d with
            graph := some l.graph, running := true, now := 0, threads := d.threads ++ l.threads }) := by
  have hguards : (!d.isClosed) = true ∧ (!d.running) = true := by simp [hopen, hresting]
  rw [start, Edit.run_require_bind, if_pos hguards.1, Edit.run_require_bind, if_pos hguards.2]
  simp only [Edit.run_bind, Edit.run_ask, Edit.run_clearing]
  cases g.build.1 with
  | error e => rfl
  | ok plan =>
    simp only [rejected]
    rcases Edit.run d (wire g.build.2 { contexts := d.bareContext g.build.2 } g.build.2.links) with ⟨e | b, next⟩
    · rfl
    · simp only
      rcases Edit.run next (enlistAll b.contexts { graph := g.build.2 } (plan.order.map NodeId.mk)) with
        ⟨e | l, next⟩ <;> rfl

/-- The queues of these nodes' streams can be made. -/
def StreamsFit (d : Device) (g : Graph) (ids : List NodeId) : Prop :=
  ∀ id ∈ ids, ∀ stream, g.streamAt id = some stream → stream.depth d.hostQueues ≤ Queue.maxCapacity

theorem Manned.streamsFit (h : Manned base g contexts ids d l) : base.StreamsFit g ids := by
  intro id hid stream hstream
  have hmem : stream ∈ d.served.map Served.stream := by
    rw [h.streams]
    exact List.mem_filterMap.mpr ⟨id, hid, hstream⟩
  obtain ⟨e, he, rfl⟩ := List.mem_map.mp hmem
  exact h.rooms e he

/-- What the links of a graph come to on a device where no queue stands. -/
theorem run_wire_links (hstore : d.store = {}) (g : Graph) :
    (∃ e store, Edit.run d (wire g { contexts := d.bareContext g } g.links) = (.error (.failed e), { d with store }) ∧
      ∀ w, g.wiring ≠ .ok w) ∨
    (∃ store, Edit.run d (wire g { contexts := d.bareContext g } g.links) =
      (.error (.panicked .capacityOverflow), { d with store }) ∧ ¬g.InletsFit) ∨
    ∃ w b, g.wiring = .ok w ∧ g.InletsFit ∧ b.contexts = d.contextOf g w ∧
      Edit.run d (wire g { contexts := d.bareContext g } g.links) = (.ok b, { d with store := w.store }) := by
  rcases run_wire (d := d) (g := g) (w := ⟨[]⟩) (fun id => (g.nodes[id.index]?.map Node.name).getD "") d.pollInterval
      g.links hstore (fun _ h => nomatch h) with
    ⟨e, store, hrun, e', hcables⟩ | ⟨store, hrun, l, hl, x, hx, hlarge⟩ | ⟨cables, hcables, hfit, hrun⟩
  · refine .inl ⟨e, store, hrun, fun w hw => ?_⟩
    rw [Graph.wiring, hcables] at hw
    cases hw
  · exact .inr (.inl ⟨store, hrun, fun hfit => hlarge (hfit.cable hl hx)⟩)
  · refine .inr (.inr ⟨⟨cables⟩, _, by rw [Graph.wiring, hcables]; rfl, ?_, rfl, hrun⟩)
    exact Graph.inletsFit_of_cables hcables fun l hl x hx => (hfit l hl x hx).resolve_left List.not_mem_nil

/-- A device on which nothing is in place is left as it was, or the start panics, or all nodes of the plan can be started
and have been. -/
theorem start_cases (hopen : d.isClosed = false) (hresting : d.running = false) (hstore : d.store = {})
    (hserved : d.served = []) (g : Graph) :
    (∃ e, d.start g = (.error (.failed e), d) ∧ ∀ plan w, g.build.1 = .ok plan → g.build.2.wiring = .ok w →
      ¬g.build.2.Startable (plan.order.map NodeId.mk)) ∨
    (∃ next, d.start g = (.error (.panicked .capacityOverflow), next) ∧ ∃ plan, g.build.1 = .ok plan ∧
      ¬(g.build.2.InletsFit ∧ d.StreamsFit g.build.2 (plan.order.map NodeId.mk))) ∨
    ∃ plan w next launch, g.build.1 = .ok plan ∧ g.build.2.wiring = .ok w ∧ g.build.2.InletsFit ∧
      Manned { d with store := w.store } g.build.2 (d.contextOf g.build.2 w) (plan.order.map NodeId.mk) next launch ∧
      d.start g = (.ok (), { next with
        graph := some launch.graph, running := true, now := 0, threads := next.threads ++ launch.threads }) := by
  have hclear (store : QueueStore Message) (served : List Served) : resetWiring { d with store, served } = d := by
    rw [resetWiring, ← hstore, ← hserved]
  rw [start_of_resting hopen hresting]
  cases hplan : g.build.1 with
  | error e => exact .inl ⟨_, rfl, fun _ _ h => nomatch h⟩
  | ok plan =>
    simp only
    rcases run_wire_links hstore g.build.2 with ⟨e, store, hrun, hno⟩ | ⟨store, hrun, hlarge⟩ |
      ⟨w, b, hwiring, hinlets, hcontexts, hrun⟩
    · refine .inl ⟨e, ?_, fun _ w _ hw => absurd hw (hno w)⟩
      simp only [hrun]
      exact congrArg _ (hclear store d.served)
    · refine .inr (.inl ⟨{ d with store }, ?_, plan, rfl, fun hfit => hlarge hfit.1⟩)
      simp only [hrun]
      rfl
    · simp only [hrun, hcontexts]
      have hmanned := manned_nil { d with store := w.store } hserved g.build.2 (d.contextOf g.build.2 w)
      have hfields (id : NodeId) := d.contextOf_fields g.build.2 w id
      rcases hmanned.run_enlistAll (fun id => ⟨(hfields id).1, (hfields id).2.1⟩) (plan.order.map NodeId.mk) with
        ⟨e, next, launch, done, hrun, hdone, hnot⟩ | ⟨next, hrun, id, hid, stream, hstream, hlarge⟩ |
        ⟨next, launch, hrun, hall⟩
      · refine .inl ⟨e, ?_, fun other _ hother _ => ?_⟩
        · simp only [hrun]
          rw [hdone.device]
          exact congrArg _ (hclear _ _)
        · cases hother
          exact hnot
      · refine .inr (.inl ⟨next, ?_, plan, rfl, fun hfit => hlarge (hfit.2 id hid stream hstream)⟩)
        simp only [hrun]
        rfl
      · refine .inr (.inr ⟨plan, w, next, launch, rfl, hwiring, hinlets, hall, ?_⟩)
        simp only [hrun]

end Device

end FrameGraph
