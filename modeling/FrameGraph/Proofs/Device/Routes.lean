import FrameGraph.Proofs.Device.Starting
import FrameGraph.Proofs.Device.Threads
import FrameGraph.Proofs.Process.Working

/-!
# Who uses which queue

* `Graph.SoleLink`: a link that is the only one at both of its ends.
* `Wiring.Leads`: the nodes at its ends are told of its queue, and no others. `Graph.SoleLink.leads` says so.
* `Device.Crewed`: the threads of a device after a start, with their contexts. `Device.crewed_of_started`.
* `Device.Crewed.putter_of_link`, `getter_of_link`, `putter_of_host`, `getter_of_host`: which thread uses which queue.
-/

namespace FrameGraph
set_option autoImplicit false

/-! ## Contexts -/

namespace Context

theorem input?_of_forall {c : Context} {key : String} {queue : QueueId} (hmem : (key, queue) ∈ c.inputs)
    (hall : ∀ other, (key, other) ∈ c.inputs → other = queue) : c.input? key = some queue := by
  have hsome : (c.inputs.find? fun e => e.1 == key).isSome := List.find?_isSome.mpr ⟨_, hmem, by simp⟩
  obtain ⟨e, hfound⟩ := Option.isSome_iff_exists.mp hsome
  have hinput : c.input? key = some e.2 := by rw [input?, hfound, Option.map_some]
  rw [hinput, hall e.2 (mem_inputs_of_input? hinput)]

/-- Attaching puts in an entry, and takes out others of its key only. -/
theorem mem_attachEach {entries : List (String × QueueId)} {c : Context} {e : String × QueueId}
    (h : e ∈ (c.attachEach entries).inputs) : e ∈ c.inputs ∨ e ∈ entries := by
  induction entries using List.reverseRecOn with
  | nil => exact .inl h
  | append_singleton entries last ih =>
    rw [attachEach_concat, attachInput] at h
    rcases List.mem_append.mp h with h | h
    · exact (ih (List.mem_filter.mp h).1).imp_right (List.mem_append_left _)
    · exact .inr (List.mem_append_right _ (by simpa using h))

theorem exists_of_attachEach {entries : List (String × QueueId)} (c : Context) {e : String × QueueId}
    (h : e ∈ entries) : ∃ queue, (e.1, queue) ∈ (c.attachEach entries).inputs := by
  induction entries using List.reverseRecOn with
  | nil => cases h
  | append_singleton entries last ih =>
    rw [attachEach_concat, attachInput]
    by_cases hkey : e.1 = last.1
    · exact ⟨last.2, by simp [hkey]⟩
    · rcases List.mem_append.mp h with h | h
      · obtain ⟨queue, hmem⟩ := ih h
        exact ⟨queue, List.mem_append_left _ (List.mem_filter.mpr ⟨hmem, by simpa using hkey⟩)⟩
      · exact absurd (by rw [List.mem_singleton.mp h]) hkey

end Context

/-! ## Links -/

namespace Graph
variable {g : Graph} {u v : NodeId} {output input : String} {l : Link}

def keyOf (g : Graph) (p : PortId) : Option String :=
  (g.descriptor p).toOption.map Port.key

/-- The only link at an output of one node and at an input of another. -/
structure SoleLink (g : Graph) (u : NodeId) (output : String) (v : NodeId) (input : String) (l : Link) : Prop where
  mem : l ∈ g.links
  source : l.source.node = u ∧ g.keyOf l.source = some output
  target : l.target.node = v ∧ g.keyOf l.target = some input
  out : ∀ other ∈ g.links, other.source.node = u → g.keyOf other.source = some output → other = l
  into : ∀ other ∈ g.links, other.target.node = v → g.keyOf other.target = some input → other = l

instance (g : Graph) (u : NodeId) (output : String) (v : NodeId) (input : String) (l : Link) :
    Decidable (g.SoleLink u output v input l) :=
  decidable_of_iff (l ∈ g.links ∧ (l.source.node = u ∧ g.keyOf l.source = some output) ∧
      (l.target.node = v ∧ g.keyOf l.target = some input) ∧
      (∀ other ∈ g.links, other.source.node = u → g.keyOf other.source = some output → other = l) ∧
      ∀ other ∈ g.links, other.target.node = v → g.keyOf other.target = some input → other = l)
    ⟨fun ⟨mem, source, target, out, into⟩ => ⟨mem, source, target, out, into⟩,
      fun ⟨mem, source, target, out, into⟩ => ⟨mem, source, target, out, into⟩⟩

theorem keyOf_built (g : Graph) (plan : Plan) : (g.built plan).keyOf = g.keyOf := by
  funext p
  simp only [keyOf, descriptor, node, built, List.getElem?_map]
  cases g.nodes[p.node.index]? <;> rfl

theorem SoleLink.built (h : g.SoleLink u output v input l) (plan : Plan) :
    (g.built plan).SoleLink u output v input l where
  mem := h.mem
  source := by
    rw [keyOf_built]
    exact h.source
  target := by
    rw [keyOf_built]
    exact h.target
  out := by
    rw [keyOf_built]
    exact h.out
  into := by
    rw [keyOf_built]
    exact h.into

section
variable {cableOf : Link → Cable} (hcarries : ∀ l ∈ g.links, g.Carries l (cableOf l))
include hcarries

theorem keyOf_source {l : Link} (hl : l ∈ g.links) : g.keyOf l.source = some (cableOf l).outputKey := by
  obtain ⟨port, hport, hkey⟩ := (hcarries l hl).output
  rw [keyOf, hport, hkey]
  rfl

theorem keyOf_target {l : Link} (hl : l ∈ g.links) : g.keyOf l.target = some (cableOf l).inputKey := by
  obtain ⟨port, hport, hkey⟩ := (hcarries l hl).inputPort
  rw [(hcarries l hl).target] at hport
  rw [keyOf, hport, hkey]
  rfl

theorem link_of_mem_inputs {id : NodeId} {name : String} {pollInterval : Nat} {key : String} {queue : QueueId}
    (h : (key, queue) ∈ (Wiring.context ⟨g.links.map cableOf⟩ id name pollInterval).inputs) :
    ∃ l ∈ g.links, l.target.node = id ∧ g.keyOf l.target = some key ∧
      Wiring.queueOf ⟨g.links.map cableOf⟩ l.target = queue := by
  rw [Wiring.context_fields] at h
  rcases Context.mem_attachEach h with h | h
  · cases h
  · obtain ⟨x, hx, hpair⟩ := List.mem_map.mp h
    obtain ⟨hinlet, hnode⟩ := List.mem_filter.mp hx
    obtain ⟨l, hl, rfl⟩ := List.mem_map.mp (Wiring.cables_of_inlets hinlet)
    obtain ⟨rfl, rfl⟩ := Prod.mk.inj hpair
    have htarget := (hcarries l hl).target
    exact ⟨l, hl, by simpa [htarget] using hnode, keyOf_target hcarries hl, by rw [htarget]⟩

theorem link_of_mem_outputs {id : NodeId} {name : String} {pollInterval : Nat} {key : String} {queue : QueueId}
    (h : (key, queue) ∈ (Wiring.context ⟨g.links.map cableOf⟩ id name pollInterval).outputs) :
    ∃ l ∈ g.links, l.source.node = id ∧ g.keyOf l.source = some key ∧
      Wiring.queueOf ⟨g.links.map cableOf⟩ l.target = queue := by
  rw [Wiring.context_fields] at h
  obtain ⟨x, hx, hpair⟩ := List.mem_map.mp h
  obtain ⟨hcable, hnode⟩ := List.mem_filter.mp hx
  obtain ⟨l, hl, rfl⟩ := List.mem_map.mp hcable
  obtain ⟨rfl, rfl⟩ := Prod.mk.inj hpair
  have hsource := (hcarries l hl).source
  exact ⟨l, hl, by simpa [hsource] using hnode, keyOf_source hcarries hl, by rw [(hcarries l hl).target]⟩

theorem queueOf_lt {l : Link} (hl : l ∈ g.links) :
    Wiring.queueOf ⟨g.links.map cableOf⟩ l.target < (Wiring.store ⟨g.links.map cableOf⟩).size := by
  rw [Wiring.size_store]
  exact List.idxOf_lt_length_iff.mpr ((mem_inputs_iff hcarries).mpr ⟨l, hl, rfl⟩)

theorem target_eq_of_queueOf {l m : Link} (hl : l ∈ g.links)
    (h : Wiring.queueOf ⟨g.links.map cableOf⟩ l.target = Wiring.queueOf ⟨g.links.map cableOf⟩ m.target) :
    l.target = m.target :=
  Wiring.queueOf_inj ((mem_inputs_iff hcarries).mpr ⟨l, hl, rfl⟩) h

theorem SoleLink.eq_of_queueOf (h : g.SoleLink u output v input l) {m : Link} (hm : m ∈ g.links)
    (hqueue : Wiring.queueOf ⟨g.links.map cableOf⟩ m.target = Wiring.queueOf ⟨g.links.map cableOf⟩ l.target) : m = l := by
  have htarget := target_eq_of_queueOf hcarries hm hqueue
  exact h.into m hm (htarget ▸ h.target.1) (htarget ▸ h.target.2)

theorem SoleLink.input_eq (h : g.SoleLink u output v input l) (name : String) (pollInterval : Nat) :
    (Wiring.context ⟨g.links.map cableOf⟩ v name pollInterval).input? input =
      some (Wiring.queueOf ⟨g.links.map cableOf⟩ l.target) := by
  have hall {queue : QueueId}
      (hmem : (input, queue) ∈ (Wiring.context ⟨g.links.map cableOf⟩ v name pollInterval).inputs) :
      queue = Wiring.queueOf ⟨g.links.map cableOf⟩ l.target := by
    obtain ⟨m, hm, hnode, hkey, rfl⟩ := link_of_mem_inputs hcarries hmem
    rw [h.into m hm hnode hkey]
  have hentry : ∃ e ∈ Wiring.inputEntries ⟨g.links.map cableOf⟩ v, e.1 = input := by
    have htarget := (mem_inputs_iff hcarries).mpr ⟨l, h.mem, rfl⟩
    rw [← Wiring.map_target_inlets] at htarget
    obtain ⟨x, hx, hxtarget⟩ := List.mem_map.mp htarget
    refine ⟨_, List.mem_map_of_mem (List.mem_filter.mpr ⟨hx, ?_⟩), ?_⟩
    · simpa [hxtarget] using h.target.1
    · obtain ⟨m, hm, rfl⟩ := List.mem_map.mp (Wiring.cables_of_inlets hx)
      have hkey := keyOf_target hcarries hm
      rw [(hcarries m hm).target] at hxtarget
      rw [hxtarget, h.target.2] at hkey
      exact (Option.some.inj hkey).symm
  obtain ⟨e, he, hkey⟩ := hentry
  obtain ⟨queue, hmem⟩ := Context.exists_of_attachEach { node := v, name, pollInterval } he
  have hinputs : (input, queue) ∈ (Wiring.context ⟨g.links.map cableOf⟩ v name pollInterval).inputs := by
    rw [Wiring.context_fields, ← hkey]
    exact hmem
  exact Context.input?_of_forall (hall hinputs ▸ hinputs) fun _ => hall

theorem SoleLink.consumers_eq (h : g.SoleLink u output v input l) (hlinks : g.links.Nodup) (name : String)
    (pollInterval : Nat) : (Wiring.context ⟨g.links.map cableOf⟩ u name pollInterval).consumers output =
      [Wiring.queueOf ⟨g.links.map cableOf⟩ l.target] := by
  have hsame : ∀ m ∈ g.links, ((cableOf m).outputKey == output && (cableOf m).source.node == u) = (m == l) := by
    intro m hm
    rw [Bool.eq_iff_iff]
    simp only [Bool.and_eq_true, beq_iff_eq]
    have hkey := keyOf_source hcarries hm
    rw [(hcarries m hm).source]
    constructor
    · rintro ⟨hout, hnode⟩
      exact h.out m hm hnode (hout ▸ hkey)
    · rintro rfl
      exact ⟨Option.some.inj (hkey.symm.trans h.source.2), h.source.1⟩
  have hone : g.links.filter (fun m => m == l) = [l] := by
    rw [List.filter_beq, List.count_eq_one_of_mem hlinks h.mem]
    rfl
  rw [Wiring.context_fields, Context.consumers]
  simp only [Wiring.outputEntries, List.filter_map, List.map_map, List.filter_filter, Function.comp_def]
  rw [List.filter_congr hsame, hone, List.map_singleton, (hcarries l h.mem).target]

end

end Graph

/-- A queue between an output of one node and an input of another, of which no other node is told. -/
structure Wiring.Leads (w : Wiring) (u : NodeId) (output : String) (v : NodeId) (input : String) (queue : QueueId) :
    Prop where
  consumers : ∀ name pollInterval, (w.context u name pollInterval).consumers output = [queue]
  found : ∀ name pollInterval, (w.context v name pollInterval).input? input = some queue
  writer : ∀ {id name pollInterval key}, (key, queue) ∈ (w.context id name pollInterval).outputs → id = u ∧ key = output
  reader : ∀ {id name pollInterval key}, (key, queue) ∈ (w.context id name pollInterval).inputs → id = v ∧ key = input
  lt : queue < w.store.size

namespace Graph
variable {g : Graph} {w : Wiring} {u v : NodeId} {output input : String} {l : Link}

theorem SoleLink.leads (h : g.SoleLink u output v input l) (hg : g.WellLinked) (hwiring : g.wiring = .ok w) :
    w.Leads u output v input (w.queueOf l.target) := by
  obtain ⟨cableOf, hcables, hcarries⟩ := hg.wiring
  obtain rfl : w = ⟨g.links.map cableOf⟩ := Except.ok.inj (hwiring.symm.trans hcables)
  refine ⟨h.consumers_eq hcarries (List.Nodup.of_map _ hg.distinct), h.input_eq hcarries, fun hmem => ?_, fun hmem => ?_,
    queueOf_lt hcarries h.mem⟩
  · obtain ⟨m, hm, hnode, hkey, hqueue⟩ := link_of_mem_outputs hcarries hmem
    obtain rfl := h.eq_of_queueOf hcarries hm hqueue
    exact ⟨hnode.symm.trans h.source.1, Option.some.inj (hkey.symm.trans h.source.2)⟩
  · obtain ⟨m, hm, hnode, hkey, hqueue⟩ := link_of_mem_inputs hcarries hmem
    obtain rfl := h.eq_of_queueOf hcarries hm hqueue
    exact ⟨hnode.symm.trans h.target.1, Option.some.inj (hkey.symm.trans h.target.2)⟩

theorem WellLinked.lt_size (hg : g.WellLinked) (hwiring : g.wiring = .ok w) {id : NodeId} {name : String}
    {pollInterval : Nat} {key : String} {queue : QueueId}
    (h : (key, queue) ∈ (w.context id name pollInterval).inputs ∨ (key, queue) ∈ (w.context id name pollInterval).outputs) :
    queue < w.store.size := by
  obtain ⟨cableOf, hcables, hcarries⟩ := hg.wiring
  obtain rfl : w = ⟨g.links.map cableOf⟩ := Except.ok.inj (hwiring.symm.trans hcables)
  rcases h with h | h
  · obtain ⟨l, hl, -, -, rfl⟩ := link_of_mem_inputs hcarries h
    exact queueOf_lt hcarries hl
  · obtain ⟨l, hl, -, -, rfl⟩ := link_of_mem_outputs hcarries h
    exact queueOf_lt hcarries hl

end Graph

/-! ## Threads -/

namespace Device
variable {s : Settings} {g : Graph} {w : Wiring} {d : Device} {u v : NodeId} {output input : String} {queue : QueueId}
  {before : List Move} {index other : Nat} {t : Thread}

/-- The threads of a device that runs a graph, with what their nodes are told. -/
structure Crewed (w : Wiring) (d : Device) : Prop where
  fresh : d.Fresh
  nodes : (d.threads.map Thread.node).Nodup
  context : ∀ t ∈ d.threads, ∃ name pollInterval,
    t.context.inputs = (w.context t.node name pollInterval).inputs ∧
    t.context.outputs = (w.context t.node name pollInterval).outputs
  bounded : ∀ t ∈ d.threads, ∀ key queue, (key, queue) ∈ t.context.inputs ∨ (key, queue) ∈ t.context.outputs →
    queue < w.store.size
  /-- No two threads serve a stream with one queue, and these queues stand behind those of the links. -/
  hosts : (d.threads.filterMap fun t => t.context.host).Nodup
  behind : ∀ t ∈ d.threads, ∀ queue, t.context.host = some queue → w.store.size ≤ queue
  serves : ∀ t ∈ d.threads, ∀ body stream, t.phase = .entering body → body.hostStream? = some stream →
    ∃ queue, t.context.host = some queue ∧ ⟨stream, queue⟩ ∈ d.served
  names : (d.served.map fun e => e.stream.name).Nodup
  size : w.store.size ≤ d.store.size
  below : ∀ e ∈ d.served, e.queue < d.store.size
  new : ∀ id < d.store.size, ∃ name capacity blocking, d.store.get? id = some (.make name capacity blocking)

theorem crewed_of_started (hg : g.Assembled) (hwiring : g.build.2.wiring = .ok w)
    (hstart : (ofSettings s).start g = (.ok (), d)) : Crewed w d := by
  have hnew (id : QueueId) (hid : id < d.store.size) :
      ∃ name capacity blocking, d.store.get? id = some (.make name capacity blocking) := by
    have hq : d.store.get? id = some d.store.queues[id] := List.getElem?_eq_getElem hid
    obtain ⟨name, capacity, blocking, hmake⟩ := queue_of_started hg hstart hq
    exact ⟨name, capacity, blocking, hmake ▸ hq⟩
  obtain ⟨plan, other, next, launch, -, hother, hmanned, rfl⟩ := started hstart
  obtain rfl : w = other := Except.ok.inj (hwiring.symm.trans hother)
  -- The queues of streams follow those of the links, one for each served stream.
  have hsize : next.store.size = w.store.size + next.served.length := hmanned.size
  have hfields (id : NodeId) := (ofSettings s).contextOf_fields g.build.2 w id
  have hqueues := hmanned.hosts.trans hmanned.queues
  have hcontext : ∀ t ∈ launch.threads, ∃ name pollInterval,
      t.context.inputs = (w.context t.node name pollInterval).inputs ∧
      t.context.outputs = (w.context t.node name pollInterval).outputs := by
    intro t ht
    cases hmanned.posted t ht with
    | plain id body | bridge id body =>
      exact ⟨_, _, congrArg (fun id => (w.context id _ _).inputs) (hfields id).1.symm,
        congrArg (fun id => (w.context id _ _).outputs) (hfields id).1.symm⟩
  refine ⟨fun t ht => ?_, ?_, hcontext, fun t ht key queue hmem => ?_, ?_, fun t ht queue hqueue => ?_,
    fun t ht body stream hphase hstream => ?_, ?_, ?_, fun e he => ?_, hnew⟩
  · cases hmanned.posted t ht with
    | plain id body | bridge id body => exact ⟨body, rfl⟩
  · change (launch.threads.map Thread.node).Nodup
    rw [hmanned.nodes]
    exact hmanned.startable.nodup
  · obtain ⟨name, pollInterval, hinputs, houtputs⟩ := hcontext t ht
    rw [hinputs, houtputs] at hmem
    exact hg.build.arises.wellLinked.lt_size hwiring hmem
  · change (launch.threads.filterMap fun t => t.context.host).Nodup
    rw [hqueues]
    exact List.nodup_range'
  · have hmem : queue ∈ launch.threads.filterMap fun t => t.context.host := List.mem_filterMap.mpr ⟨t, ht, hqueue⟩
    rw [hqueues, List.mem_range'_1] at hmem
    exact hmem.1
  · cases hmanned.posted t ht with
    | plain id other _ hnone =>
      cases hphase
      rw [hnone] at hstream
      cases hstream
    | bridge id other own queue _ hown hserved =>
      cases hphase
      obtain rfl : own = stream := Option.some.inj (hown.symm.trans hstream)
      exact ⟨queue, rfl, hserved⟩
  · have hnames := hmanned.startable.names
    rw [← hmanned.streams, List.map_map] at hnames
    exact hnames
  · exact Nat.le.intro hsize.symm
  · have hmem : e.queue ∈ next.served.map Served.queue := List.mem_map_of_mem he
    rw [hmanned.queues, List.mem_range'_1] at hmem
    exact Nat.lt_of_lt_of_eq hmem.2 hsize.symm

/-- No two streams have one name, so a stream is found by it. -/
theorem Crewed.find?_served (hd : Crewed w d) {e : Served} (he : e ∈ d.served) {p : Served → Bool} (hself : p e = true)
    (hname : ∀ other, p other = true → other.stream.name = e.stream.name) : d.served.find? p = some e := by
  obtain ⟨found, hfound⟩ := Option.isSome_iff_exists.mp (List.find?_isSome.mpr ⟨e, he, hself⟩)
  have hsame := hname found (List.find?_some hfound)
  rw [hfound, List.inj_on_of_nodup_map hd.names (List.mem_of_find?_eq_some hfound) he hsame]

theorem Crewed.outputQueue?_eq (hd : Crewed w d) {name : String} (h : ⟨.output name, queue⟩ ∈ d.served) :
    d.outputQueue? name = some queue := by
  rw [outputQueue?, hd.find?_served h (by simp) fun other hother => ?_]
  · rfl
  · cases hstream : other.stream with
    | output => simpa [hstream, HostStream.name] using hother
    | input => simp [hstream] at hother

theorem Crewed.inputQueue?_eq (hd : Crewed w d) {name : String} {size : Nat} {blocking : Bool}
    (h : ⟨.input name size blocking, queue⟩ ∈ d.served) : d.inputQueue? name = some queue := by
  rw [inputQueue?, hd.find?_served h (by simp) fun other hother => ?_]
  · rfl
  · cases hstream : other.stream with
    | input => simpa [hstream, HostStream.name] using hother
    | output => simp [hstream] at hother

theorem Crewed.index_eq (hd : Crewed w d) {a b : Thread} (ha : d.threads[index]? = some a) (hb : d.threads[other]? = some b)
    (hnode : b.node = a.node) : other = index := by
  have hlt : other < (d.threads.map Thread.node).length := by simpa using (List.getElem?_eq_some_iff.mp hb).1
  refine (List.getElem?_inj hlt hd.nodes).mp ?_
  rw [List.getElem?_map, List.getElem?_map, ha, hb, Option.map_some, Option.map_some, hnode]

theorem Crewed.index_eq_of_host (hd : Crewed w d) {a b : Thread} (ha : d.threads[index]? = some a)
    (hb : d.threads[other]? = some b) (hhost : a.context.host = some queue) (hhost' : b.context.host = some queue) :
    other = index := by
  have hpairs := List.pairwise_iff_getElem.mp (List.pairwise_filterMap.mp hd.hosts)
  obtain ⟨hi, rfl⟩ := List.getElem?_eq_some_iff.mp ha
  obtain ⟨hj, rfl⟩ := List.getElem?_eq_some_iff.mp hb
  rcases Nat.lt_trichotomy other index with hlt | heq | hlt
  · exact absurd rfl (hpairs other index hj hi hlt queue hhost' queue hhost)
  · exact heq
  · exact absurd rfl (hpairs index other hi hj hlt queue hhost queue hhost')

/-- Into the queue of a sole link only the node at its start puts anything. -/
theorem Crewed.putter_of_link (hd : Crewed w d) (h : w.Leads u output v input queue) (ht : d.threads[index]? = some t)
    (hnode : t.node = u) (hputs : (d.course before).puts queue (.thread other) ≠ []) : other = index := by
  obtain ⟨c, body, hother, place, hmem⟩ := hd.fresh.destinations hputs
  have hin := List.mem_of_getElem? hother
  cases place with
  | host =>
    have hbehind := hd.behind _ hin queue (by simpa [Context.destinations] using hmem)
    exact absurd h.lt (Nat.not_lt.mpr hbehind)
  | port key =>
    obtain ⟨name, pollInterval, -, houtputs⟩ := hd.context _ hin
    have hentry := Context.mem_outputs_of_consumers hmem
    rw [houtputs] at hentry
    exact hd.index_eq ht hother ((h.writer hentry).1.trans hnode.symm)

/-- Out of it only the node at its end takes anything. -/
theorem Crewed.getter_of_link (hd : Crewed w d) (h : w.Leads u output v input queue) (ht : d.threads[index]? = some t)
    (hnode : t.node = v) (htakes : (d.course before).takes queue (.thread other) ≠ []) : other = index := by
  obtain ⟨c, body, hother, place, repeatedly, hlook⟩ := hd.fresh.sources htakes
  have hin := List.mem_of_getElem? hother
  rcases Body.look_mem_agenda hlook with ⟨key, hinput⟩ | hhost
  · obtain ⟨name, pollInterval, hinputs, -⟩ := hd.context _ hin
    have hentry := Context.mem_inputs_of_input? hinput
    rw [hinputs] at hentry
    exact hd.index_eq ht hother ((h.reader hentry).1.trans hnode.symm)
  · exact absurd h.lt (Nat.not_lt.mpr (hd.behind _ hin queue hhost))

/-- The queue of a stream is used by the node that serves the stream, and by no other. -/
theorem Crewed.putter_of_host (hd : Crewed w d) (ht : d.threads[index]? = some t) (hhost : t.context.host = some queue)
    (hputs : (d.course before).puts queue (.thread other) ≠ []) : other = index := by
  obtain ⟨c, body, hother, place, hmem⟩ := hd.fresh.destinations hputs
  have hin := List.mem_of_getElem? hother
  have hbehind := hd.behind t (List.mem_of_getElem? ht) queue hhost
  cases place with
  | host => exact hd.index_eq_of_host ht hother hhost (by simpa [Context.destinations] using hmem)
  | port key =>
    have hlt := hd.bounded _ hin key queue (.inr (Context.mem_outputs_of_consumers hmem))
    exact absurd hlt (Nat.not_lt.mpr hbehind)

theorem Crewed.getter_of_host (hd : Crewed w d) (ht : d.threads[index]? = some t) (hhost : t.context.host = some queue)
    (htakes : (d.course before).takes queue (.thread other) ≠ []) : other = index := by
  obtain ⟨c, body, hother, place, repeatedly, hlook⟩ := hd.fresh.sources htakes
  have hin := List.mem_of_getElem? hother
  have hbehind := hd.behind t (List.mem_of_getElem? ht) queue hhost
  rcases Body.look_mem_agenda hlook with ⟨key, hinput⟩ | hhost'
  · have hlt := hd.bounded _ hin key queue (.inl (Context.mem_inputs_of_input? hinput))
    exact absurd hlt (Nat.not_lt.mpr hbehind)
  · exact hd.index_eq_of_host ht hother hhost hhost'

end Device

end FrameGraph
