import FrameGraph.Proofs.Graph.Keys

/-!
# Handles that stay valid

Whatever happens to a graph, an identifier leads to the same port, a key to the same identifier, and a name to the
same node. Only the queue of a port changes, and only for whoever asks for that.

* `Occurrence.revision_ports`: an edit of a node adds ports at the end, except for the one that sets a queue.
* `Occurrence.descriptor`: the port behind an identifier after an occurrence. `Graph.descriptor_after`: after many.
* `Node.lasting_found`: a key that is found goes on to be found where it was.
* `Graph.Named`: the names lead to the nodes.
* `Graph.handles_stay_valid`: all of it for any two stages of one graph.
-/

namespace FrameGraph
set_option autoImplicit false

/-! ## Ports behind identifiers -/

theorem Occurrence.revision_ports {occurrence : Occurrence} {id : NodeId} {revise : Node → Node}
    (h : occurrence.revision? = some (id, revise)) (n : Node) :
    n.ports <+: (revise n).ports ∨ ∃ p size blocking, occurrence = .operation (.setInputQueue p size blocking) := by
  cases occurrence with
  | operation op =>
    cases op with
    | configure =>
      cases h
      exact .inl ((n.adjust_spec _ _).1 ▸ List.prefix_refl _)
    | mapPort =>
      cases h
      exact .inl (n.mapPort_spec _ _ _ _).1
    | setInputQueue p size blocking => exact .inr ⟨p, size, blocking, rfl⟩
    | requestOutput =>
      cases h
      exact .inl (n.requestOutput_spec _ _).1
    | create | createNamed | addPlugin | inspect | port | portToward | link | unlink | build => cases h
  | adjust =>
    cases h
    exact .inl ((n.adjust_spec _ _).1 ▸ List.prefix_refl _)
  | takeBody | advanceState =>
    cases h
    exact .inl (List.prefix_refl _)

/-- An occurrence leaves the port behind an identifier as it is, unless it sets the queue of just this one. -/
theorem Occurrence.descriptor (occurrence : Occurrence) {g : Graph} {id : PortId} {port : Port}
    (h : g.descriptor id = .ok port) :
    (occurrence.apply g).descriptor id = .ok port ∨ ∃ size blocking,
      occurrence = .operation (.setInputQueue id size blocking) ∧ (g.setInputQueue id size blocking).1 = .ok () := by
  obtain ⟨n, hn, hport⟩ := Graph.descriptor_eq_ok_iff.mp h
  obtain ⟨hlt, -⟩ := List.getElem?_eq_some_iff.mp hn
  rw [Graph.descriptor_eq_ok_iff]
  have heffect := occurrence.nodes_effect g
  generalize (occurrence.apply g).nodes = nodes at heffect
  cases heffect with
  | same => exact .inl ⟨n, hn, hport⟩
  | added => exact .inl ⟨n, by rwa [List.getElem?_append_left hlt], hport⟩
  | linked => exact .inl ⟨{ n with state := n.state.advance .linked }, by rw [List.getElem?_map, hn]; rfl, hport⟩
  | revised owner revise old habout hold =>
    by_cases howner : owner.index = id.node.index
    · obtain rfl : owner = id.node := congrArg NodeId.mk howner
      obtain rfl : n = old := Option.some.inj (hn.symm.trans hold)
      have hnext : (g.nodes.set id.node.index (revise n))[id.node.index]? = some (revise n) :=
        List.getElem?_set_self hlt
      rcases Occurrence.revision_ports habout n with hprefix | ⟨p, size, blocking, rfl⟩
      · obtain ⟨rest, hrest⟩ := hprefix
        obtain ⟨hposition, -⟩ := List.getElem?_eq_some_iff.mp hport
        exact .inl ⟨_, hnext, by rwa [← hrest, List.getElem?_append_left hposition]⟩
      · obtain ⟨hnode, rfl⟩ : p.node = id.node ∧
            (fun n => (Edit.run n (Node.setInputQueue p.position size blocking)).2) = revise := by
          simpa [revision?] using habout
        rcases (n.setInputQueue_spec p.position size blocking).1 with hports | ⟨hok, other, hports⟩
        · exact .inl ⟨_, hnext, by rwa [hports]⟩
        · by_cases hposition : p.position = id.position
          · obtain rfl : p = id := by rw [← p.ofNode_self, hnode, hposition, id.ofNode_self]
            exact .inr ⟨size, blocking, rfl, by rw [Graph.setInputQueue, Graph.run_editNode hn, hok]⟩
          · have hother : p.position.val ≠ id.position.val := fun hsame => hposition (Fin.ext hsame)
            exact .inl ⟨_, hnext, by rwa [hports, List.getElem?_set_ne hother]⟩
    · exact .inl ⟨n, by rwa [List.getElem?_set_ne howner], hport⟩

namespace Graph

theorem descriptor_after (later : List Occurrence) {g : Graph} {id : PortId} {port : Port}
    (h : g.descriptor id = .ok port) :
    ∃ q, (g.after later).descriptor id = .ok q ∧ port.Requeued q ∧
      (q = port ∨ ∃ first rest size blocking, later = first ++ .operation (.setInputQueue id size blocking) :: rest ∧
        ((g.after first).setInputQueue id size blocking).1 = .ok ()) := by
  induction later generalizing g port with
  | nil => exact ⟨port, h, .refl port, .inl rfl⟩
  | cons occurrence rest ih =>
    rcases occurrence.descriptor h with hsame | ⟨size, blocking, rfl, hok⟩
    · obtain ⟨q, hq, hrequeued, hset⟩ := ih hsame
      refine ⟨q, hq, hrequeued, hset.imp_right ?_⟩
      rintro ⟨first, last, size, blocking, rfl, hok⟩
      exact ⟨occurrence :: first, last, size, blocking, rfl, hok⟩
    · obtain ⟨q, hq, hrequeued⟩ := (g.after_onward (.operation (.setInputQueue id size blocking) :: rest)).descriptor h
      exact ⟨q, hq, hrequeued, .inr ⟨[], rest, size, blocking, rfl, hok⟩⟩

end Graph

/-! ## Identifiers behind keys -/

/-- A port is only ever added under a key that leads nowhere. -/
theorem Node.lasting_found (key : String) (j : Nat) : Lasting fun n => n.Indexed ∧ n.find? key = some j where
  revised hnext h := by
    obtain ⟨hindexed, hfound⟩ := h
    refine ⟨hindexed.revised hnext, ?_⟩
    rcases hindexed.revision hnext with ⟨-, hpositions⟩ | ⟨port, hfree, -, hpositions⟩
    · rwa [find?, hpositions]
    · have hother : (key == port.key) = false := by
        refine beq_false_of_ne ?_
        rintro rfl
        rw [hfree] at hfound
        cases hfound
      rw [find?, hpositions, withPort, List.lookup_cons, hother]
      exact hfound
  stripped h := h
  advanced _ h := h

namespace Graph

theorem port_after (before later : List Occurrence) {id : NodeId} {key : String} {p : PortId}
    (h : (({} : Graph).after before).port id key = .ok p) :
    ((({} : Graph).after before).after later).port id key = .ok p := by
  obtain ⟨n, j, hn, hj, rfl⟩ := port_eq_ok_iff.mp h
  obtain ⟨_, -, _, -, haddressed⟩ := addressed before hn
  obtain ⟨m, hm, -, hfound⟩ := keeps_after (fun occurrence _ => (Node.lasting_found key j).keeps occurrence) hn
    ⟨haddressed.indexed, hj⟩
  exact port_eq_ok_iff.mpr ⟨m, j, hm, hfound, rfl⟩

/-! ## Nodes behind names -/

/-- A name leads to the one node that has it. -/
def Named (g : Graph) : Prop :=
  ∀ name id, g.findNode? name = some id ↔ (g.nodes.map Node.name)[id.index]? = some name

theorem named_empty : ({} : Graph).Named := by
  intro name id
  simp [findNode?]

theorem Named.of_same {g next : Graph} (h : g.Named) (hnames : next.names = g.names)
    (hnodes : next.nodes.map Node.name = g.nodes.map Node.name) : next.Named := by
  intro name id
  rw [hnodes, ← h name id, findNode?, findNode?, hnames]

theorem Named.insert {g : Graph} (h : g.Named) {name : String} (hnew : g.findNode? name = none) {n : Node}
    (hname : n.name = name) :
    ({ g with nodes := g.nodes ++ [n], names := (name, ⟨g.nodes.length⟩) :: g.names } : Graph).Named := by
  intro other id
  have hlength : (g.nodes.map Node.name).length = g.nodes.length := List.length_map _
  have hfresh : (g.nodes.map Node.name)[id.index]? ≠ some name := by
    rw [ne_eq, ← h name id, hnew]
    exact nofun
  have hid : (⟨g.nodes.length⟩ : NodeId) = id ↔ id.index = g.nodes.length := by
    obtain ⟨index⟩ := id
    rw [NodeId.mk.injEq, eq_comm]
  rw [findNode?, List.map_append, List.map_singleton, hname, getElem?_concat_eq_some_iff, hlength, List.lookup_cons]
  by_cases hother : other = name
  · subst hother
    simp only [beq_self_eq_true, Option.some_inj, hid, hfresh, false_or, and_true]
  · simp only [beq_false_of_ne hother, hother, and_false, or_false]
    exact h other id

theorem Change.named {g next : Graph} (h : g.Change next) (hg : g.Named) : next.Named := by
  cases h with
  | insert name body n _ hnew hmake => exact hg.insert hnew (by rw [Node.eq_of_make hmake])
  | revise id n next hn hmutable hnext => exact hg.of_same rfl (names_setNode hn (hnext.onward hmutable).name)
  | link | unlink => exact hg.of_same rfl rfl
  | build => exact hg.of_same rfl (by simp [built, Function.comp_def])

end Graph

theorem Occurrence.named (occurrence : Occurrence) {g : Graph} (hg : g.Named) : (occurrence.apply g).Named := by
  cases hcall : occurrence.isCall with
  | true =>
    rcases occurrence.kept hcall g with hsame | hchange
    · rw [hsame]
      exact hg
    · exact hchange.named hg
  | false =>
    cases occurrence with
    | operation | adjust => cases hcall
    | takeBody id =>
      simp only [Occurrence.apply, Graph.takeBody]
      split
      · exact hg
      · rename_i n hn
        exact hg.of_same rfl (Graph.names_setNode hn rfl)
    | advanceState id state =>
      simp only [Occurrence.apply, Graph.advanceState]
      split
      · exact hg
      · rename_i n hn
        exact hg.of_same rfl (Graph.names_setNode hn rfl)

namespace Graph

theorem Named.after {g : Graph} (hg : g.Named) (course : List Occurrence) : (g.after course).Named := by
  induction course generalizing g with
  | nil => exact hg
  | cons occurrence rest ih => exact ih (occurrence.named hg)

theorem Named.nodup {g : Graph} (hg : g.Named) : (g.nodes.map Node.name).Nodup := by
  refine List.pairwise_iff_getElem.mpr fun i j hi hj hlt hsame => ?_
  have hfirst := (hg _ ⟨i⟩).mpr (List.getElem?_eq_getElem hi)
  have hsecond := (hg _ ⟨j⟩).mpr (List.getElem?_eq_getElem hj)
  rw [hsame, hsecond] at hfirst
  exact Nat.ne_of_gt hlt (NodeId.mk.inj (Option.some.inj hfirst))

theorem Named.find_iff {g : Graph} (hg : g.Named) (name : String) (id : NodeId) :
    g.findNode? name = some id ↔ (g.node id).map Node.name = .ok name := by
  rw [hg name id, List.getElem?_map, node]
  cases g.nodes[id.index]? <;> simp [Except.map]

/-! ## Handles -/

theorem length_after (g : Graph) (later : List Occurrence) : g.nodes.length ≤ (g.after later).nodes.length := by
  by_contra hless
  have hlt := Nat.lt_of_not_le hless
  obtain ⟨m, hm, -⟩ := g.after_onward later _ _ (List.getElem?_eq_getElem hlt)
  exact absurd (List.getElem?_eq_some_iff.mp hm).1 (Nat.lt_irrefl _)

/-- In a graph with no more nodes than identifiers can tell apart, what is listed is what the identifiers lead to. -/
theorem lists_iff_descriptor {course : List Occurrence} (hfew : (({} : Graph).after course).nodes.length ≤ 1048576)
    {id : NodeId} {j : Nat} {p : PortId} {port : Port} :
    (({} : Graph).after course).Lists id j p port ↔
      p.node = id ∧ p.position.val = j ∧ (({} : Graph).after course).descriptor p = .ok port := by
  rw [descriptor_eq_ok_iff]
  constructor
  · intro hlists
    have hnode := PortId.ofNode_node_eq_iff (j := j).mpr (Nat.lt_of_lt_of_le hlists.index_lt hfew)
    have hposition := PortId.ofNode_position hlists.position_lt id
    obtain ⟨n, hn, hj, rfl⟩ := lists_iff.mp hlists
    exact ⟨hnode, hposition, n, by rwa [hnode], by rwa [hposition]⟩
  · rintro ⟨rfl, rfl, n, hn, hport⟩
    exact lists_iff.mpr ⟨n, hn, hport, p.ofNode_self.symm⟩

/-- From one stage of a graph to a later one, every port stays behind its identifier with all that it was declared
with, and has another queue only if just this was asked for and granted. Every key goes on to lead to the same
identifier. Names lead to the nodes that have them, so no two nodes share one. While there are no more nodes than
identifiers can tell apart, the identifiers of the listed ports lead to these ports, and a key leads to a port with
this key. -/
theorem handles_stay_valid (before later : List Occurrence) :
    let g := ({} : Graph).after before
    let next := g.after later
    (∀ id port, g.descriptor id = .ok port → ∃ q, next.descriptor id = .ok q ∧
      q.group = port.group ∧ q.name = port.name ∧ q.direction = port.direction ∧ q.types = port.types ∧
      q.fanIn = port.fanIn ∧
      (q.queueSize ≠ port.queueSize ∨ q.blocking ≠ port.blocking → ∃ first rest size blocking,
        later = first ++ .operation (.setInputQueue id size blocking) :: rest ∧
        ((g.after first).setInputQueue id size blocking).1 = .ok ())) ∧
    (∀ id key p, g.port id key = .ok p → next.port id key = .ok p) ∧
    (∀ name id, next.findNode? name = some id ↔ (next.node id).map Node.name = .ok name) ∧
    (next.nodes.map Node.name).Nodup ∧
    (next.nodes.length ≤ 1048576 →
      (∀ stage ∈ [g, next], ∀ id j p port, stage.Lists id j p port ↔
        p.node = id ∧ p.position.val = j ∧ stage.descriptor p = .ok port) ∧
      ∀ id key p, next.port id key = .ok p → ∃ q, next.descriptor p = .ok q ∧ p.node = id ∧ q.key = key) := by
  intro g next
  have hnext : next = ({} : Graph).after (before ++ later) := (after_append _ _ _).symm
  have hnamed : next.Named := (named_empty.after before).after later
  refine ⟨fun id port h => ?_, fun id key p => port_after before later, hnamed.find_iff, hnamed.nodup, fun hfew => ?_⟩
  · obtain ⟨q, hq, ⟨size, blocking, rfl⟩, hset⟩ := descriptor_after later h
    refine ⟨_, hq, rfl, rfl, rfl, rfl, rfl, fun hdiffers => hset.resolve_left fun hsame => ?_⟩
    rw [hsame] at hdiffers
    simp at hdiffers
  · refine ⟨fun stage hstage id j p port => ?_, fun id key p hport => ?_⟩
    · rcases List.mem_cons.mp hstage with rfl | hstage
      · exact lists_iff_descriptor (Nat.le_trans (g.length_after later) hfew)
      · rw [List.mem_singleton.mp hstage, hnext]
        exact lists_iff_descriptor (hnext ▸ hfew)
    · rw [hnext] at hport hfew
      obtain ⟨n, j, hn, hj, rfl⟩ := port_eq_ok_iff.mp hport
      obtain ⟨_, -, _, -, haddressed⟩ := addressed (before ++ later) hn
      have hkey := (haddressed.indexed.find?_eq_some_iff.mp hj).1
      rw [Node.keys_getElem?, Option.map_eq_some_iff] at hkey
      obtain ⟨q, hq, rfl⟩ := hkey
      obtain ⟨hnode, -, hdescriptor⟩ := (lists_iff_descriptor hfew).mp (lists_iff.mpr ⟨n, hn, hq, rfl⟩)
      exact ⟨q, hnext ▸ hdescriptor, hnode, rfl⟩

/-- A network gets another queue behind its first input, and one more input, and there is a new node. -/
theorem handles_stay_valid_requeued :
    let before : List Occurrence := [.operation (.create (.neuralNetwork {}))]
    let later : List Occurrence := [.operation (.mapPort .input ⟨0⟩ "inputs" "more"),
      .operation (.setInputQueue ⟨0, 0⟩ 3 false), .operation (.createNamed "preview" (.xlinkOut { stream := "preview" }))]
    let g := ({} : Graph).after before
    let next := g.after later
    g.port ⟨0⟩ "out" = .ok ⟨0, 1⟩ ∧ next.port ⟨0⟩ "out" = .ok ⟨0, 1⟩ ∧
      (∃ q, next.descriptor ⟨0, 1⟩ = .ok q ∧ q.key = "out") ∧
      (∃ p q, g.descriptor ⟨0, 0⟩ = .ok p ∧ next.descriptor ⟨0, 0⟩ = .ok q ∧ q.name = p.name ∧ q.types = p.types ∧
        ∃ first rest size blocking, later = first ++ .operation (.setInputQueue ⟨0, 0⟩ size blocking) :: rest ∧
          ((g.after first).setInputQueue ⟨0, 0⟩ size blocking).1 = .ok ()) ∧
      next.findNode? "preview" = some ⟨1⟩ := by
  intro before later g next
  obtain ⟨hports, hkeys, hnames, -, hfew⟩ := handles_stay_valid before later
  have hout : g.port ⟨0⟩ "out" = .ok ⟨0, 1⟩ := by rfl
  have hstill := hkeys ⟨0⟩ "out" ⟨0, 1⟩ hout
  obtain ⟨q, hq, -, hkey⟩ := (hfew (by decide +kernel)).2 ⟨0⟩ "out" ⟨0, 1⟩ hstill
  obtain ⟨p, hp, hsize⟩ : ∃ p, g.descriptor ⟨0, 0⟩ = .ok p ∧ p.queueSize = 5 := ⟨_, rfl, rfl⟩
  obtain ⟨r, hr, -, hname, -, htypes, -, hset⟩ := hports ⟨0, 0⟩ p hp
  have hresized : (next.descriptor ⟨0, 0⟩).map Port.queueSize = .ok 3 := by rfl
  rw [show next.descriptor ⟨0, 0⟩ = .ok r from hr] at hresized
  have hdiffers : r.queueSize ≠ p.queueSize := by
    rw [hsize, Except.ok.inj hresized]
    decide
  exact ⟨hout, hstill, ⟨q, hq, hkey⟩, ⟨p, r, hp, hr, hname, htypes, hset (.inl hdiffers)⟩,
    (hnames "preview" ⟨1⟩).mpr (by rfl)⟩

end Graph

end FrameGraph
