import FrameGraph.Proofs.Graph.Outcomes

/-!
# The life of a graph

Until a graph is built all its nodes may change; from then on none may, and no operation finds anything to
do. The nodes only go forward all the while.

* `Node.Onward`: what a node keeps for life, and what only grows. `Graph.after_onward`: every course of
  occurrences takes every node onward.
* `Graph.Consistent`: the plan of a graph and the states of its nodes fit together.
* `Graph.Consistent.after_calls`: calls change nothing once there is a plan.
* `Graph.build_freezes`: both together.
-/

namespace FrameGraph
set_option autoImplicit false

/-! ## Nodes go onward -/

/-- The same port, with possibly another queue behind it. -/
def Port.Requeued (p q : Port) : Prop :=
  ∃ size blocking, q = { p with queueSize := size, blocking }

theorem Port.Requeued.refl (p : Port) : p.Requeued p :=
  ⟨p.queueSize, p.blocking, rfl⟩

theorem Port.Requeued.trans {p q r : Port} (h : p.Requeued q) (h' : q.Requeued r) : p.Requeued r := by
  obtain ⟨_, _, rfl⟩ := h
  obtain ⟨size, blocking, rfl⟩ := h'
  exact ⟨size, blocking, rfl⟩

theorem NodeState.isMutable_iff {s : NodeState} : s.isMutable = true ↔ s.rank < linked.rank := by
  simp [isMutable]

theorem NodeState.not_isMutable_iff {s : NodeState} : s.isMutable = false ↔ linked.rank ≤ s.rank := by
  simp [isMutable]

namespace Node

structure Onward (n next : Node) : Prop where
  name : next.name = n.name
  typeName : next.typeName = n.typeName
  residency : next.residency = n.residency
  maps : next.maps = n.maps
  state : n.state.rank ≤ next.state.rank
  ports : ∀ {i : Nat} {p : Port}, n.ports[i]? = some p → ∃ q, next.ports[i]? = some q ∧ p.Requeued q
  negotiated : n.negotiated <+: next.negotiated

theorem Onward.refl (n : Node) : n.Onward n where
  name := rfl
  typeName := rfl
  residency := rfl
  maps := rfl
  state := Nat.le_refl _
  ports h := ⟨_, h, .refl _⟩
  negotiated := List.prefix_refl _

theorem Onward.trans {n m next : Node} (h : n.Onward m) (h' : m.Onward next) : n.Onward next where
  name := h'.name.trans h.name
  typeName := h'.typeName.trans h.typeName
  residency := h'.residency.trans h.residency
  maps := h'.maps.trans h.maps
  state := Nat.le_trans h.state h'.state
  ports hp := by
    obtain ⟨q, hq, hpq⟩ := h.ports hp
    obtain ⟨r, hr, hqr⟩ := h'.ports hq
    exact ⟨r, hr, hpq.trans hqr⟩
  negotiated := h.negotiated.trans h'.negotiated

theorem withPort_getElem? {n : Node} {port p : Port} {i : Nat} (h : n.ports[i]? = some p) :
    (n.withPort port).ports[i]? = some p := by
  obtain ⟨hi, -⟩ := List.getElem?_eq_some_iff.mp h
  rw [← h]
  exact List.getElem?_append_left hi

theorem Revision.onward {n next : Node} {id : NodeId} (h : n.Revision id next) (hmutable : n.state.isMutable = true) :
    n.Onward next := by
  cases h with
  | body body =>
    -- A mutable node is at most configured already.
    have hstate : n.state.rank ≤ NodeState.configured.rank :=
      Nat.le_of_lt_succ (NodeState.isMutable_iff.mp hmutable)
    exact { Onward.refl n with state := hstate }
  | entry m key => exact { Onward.refl n with ports := fun hp => ⟨_, withPort_getElem? hp, .refl _⟩ }
  | queue position port size blocking hport =>
    refine { Onward.refl n with ports := fun {i} {p} hp => ?_ }
    by_cases hi : position = i
    · subst hi
      obtain rfl : port = p := Option.some.inj (hport.symm.trans hp)
      obtain ⟨hlt, -⟩ := List.getElem?_eq_some_iff.mp hp
      exact ⟨_, List.getElem?_set_self hlt, size, blocking, rfl⟩
    · exact ⟨p, by rwa [List.getElem?_set_ne hi], .refl p⟩
  | request request m key spec =>
    exact { Onward.refl n with
      ports := fun hp => ⟨_, withPort_getElem? hp, .refl _⟩
      negotiated := List.prefix_append _ _ }

theorem onward_advance (n : Node) (state : NodeState) : n.Onward { n with state := n.state.advance state } :=
  { Onward.refl n with state := n.state.rank_le_advance state }

theorem onward_bodiless (n : Node) : n.Onward { n with body := none } :=
  { Onward.refl n with }

theorem Revision.isMutable {n next : Node} {id : NodeId} (h : n.Revision id next) (hmutable : n.state.isMutable = true) :
    next.state.isMutable = true := by
  cases h with
  | body => rfl
  | entry | queue | request => exact hmutable

end Node

namespace Graph

/-- Every node is still in its place, and has gone onward. -/
def Onward (g next : Graph) : Prop :=
  ∀ (i : Nat) (n : Node), g.nodes[i]? = some n → ∃ m, next.nodes[i]? = some m ∧ n.Onward m

theorem Onward.refl (g : Graph) : g.Onward g :=
  fun _ n h => ⟨n, h, .refl n⟩

theorem Onward.trans {g m next : Graph} (h : g.Onward m) (h' : m.Onward next) : g.Onward next := by
  intro i n hn
  obtain ⟨a, ha, hna⟩ := h i n hn
  obtain ⟨b, hb, hab⟩ := h' i a ha
  exact ⟨b, hb, hna.trans hab⟩

theorem onward_setNode {g : Graph} {id : NodeId} {n next : Node} (hn : g.nodes[id.index]? = some n)
    (h : n.Onward next) : g.Onward (g.setNode id next) := by
  intro i m hm
  by_cases hi : id.index = i
  · subst hi
    obtain rfl : n = m := Option.some.inj (hn.symm.trans hm)
    obtain ⟨hlt, -⟩ := List.getElem?_eq_some_iff.mp hm
    exact ⟨next, List.getElem?_set_self hlt, h⟩
  · exact ⟨m, by rwa [setNode, List.getElem?_set_ne hi], .refl m⟩

theorem names_setNode {g : Graph} {id : NodeId} {n next : Node} (hn : g.nodes[id.index]? = some n)
    (hname : next.name = n.name) : (g.setNode id next).nodes.map Node.name = g.nodes.map Node.name := by
  have hsame : g.nodes.set id.index n = g.nodes := congrArg Graph.nodes (setNode_self hn)
  rw [Graph.setNode, List.map_set, hname, ← List.map_set, hsame]

theorem Change.onward {g next : Graph} (h : g.Change next) : g.Onward next := by
  cases h with
  | insert name body n =>
    intro i m hm
    obtain ⟨hi, -⟩ := List.getElem?_eq_some_iff.mp hm
    exact ⟨m, by rw [← hm]; exact List.getElem?_append_left hi, .refl m⟩
  | revise id n next hn hmutable hnext => exact onward_setNode hn (hnext.onward hmutable)
  | link | unlink => exact fun _ m hm => ⟨m, hm, .refl m⟩
  | build plan => exact fun i n hn => ⟨_, by simp [built, hn], n.onward_advance .linked⟩

theorem onward_takeBody (g : Graph) (id : NodeId) : g.Onward (g.takeBody id).2 := by
  unfold takeBody
  split
  · exact .refl g
  · rename_i n hn
    exact onward_setNode hn n.onward_bodiless

theorem onward_advanceState (g : Graph) (id : NodeId) (state : NodeState) : g.Onward (g.advanceState id state) := by
  unfold advanceState
  split
  · exact .refl g
  · rename_i n hn
    exact onward_setNode hn (n.onward_advance state)

end Graph

/-! ## Courses -/

theorem Occurrence.kept {occurrence : Occurrence} (h : occurrence.isCall = true) (g : Graph) :
    g.Kept (occurrence.apply g) := by
  cases occurrence with
  | operation op => exact (op.outcome g).state_mem (.inl rfl) fun _ _ hkept => hkept
  | adjust id kind change => exact (g.adjust_outcome id kind change).state_mem (.inl rfl) fun _ _ hkept => hkept
  | takeBody | advanceState => cases h

theorem Occurrence.onward (occurrence : Occurrence) (g : Graph) : g.Onward (occurrence.apply g) := by
  cases hcall : occurrence.isCall with
  | true =>
    rcases occurrence.kept hcall g with hsame | hchange
    · rw [hsame]
      exact .refl g
    · exact hchange.onward
  | false =>
    cases occurrence with
    | operation | adjust => cases hcall
    | takeBody id => exact g.onward_takeBody id
    | advanceState id state => exact g.onward_advanceState id state

namespace Graph

theorem after_onward (g : Graph) (course : List Occurrence) : g.Onward (g.after course) := by
  induction course generalizing g with
  | nil => exact .refl g
  | cons occurrence rest ih => exact (occurrence.onward g).trans (ih (occurrence.apply g))

theorem Arises.after {g : Graph} (h : g.Arises) {calls : List Occurrence}
    (hcalls : ∀ call ∈ calls, call.isCall = true) : (g.after calls).Arises := by
  induction calls generalizing g with
  | nil => exact h
  | cons call rest ih =>
    obtain ⟨hcall, hrest⟩ := List.forall_mem_cons.mp hcalls
    exact ih (h.step call (.inl hcall)) hrest

theorem Reachable.arises {g : Graph} (h : g.Reachable) : g.Arises := by
  obtain ⟨history, rfl⟩ := h
  have hcalls : ∀ call ∈ history.map Occurrence.operation, call.isCall = true := by simp [Occurrence.isCall]
  have harises := Arises.empty.after hcalls
  rwa [after, List.foldl_map] at harises

/-! ## Plans and states -/

structure Consistent (g : Graph) : Prop where
  mutable_of_open : g.plan = none → ∀ n ∈ g.nodes, n.state.isMutable = true
  linked_of_built : ∀ {plan : Plan}, g.plan = some plan → ∀ n ∈ g.nodes, n.state.isMutable = false
  plan_of_links : ∀ {plan : Plan}, g.plan = some plan → Plan.compile (g.nodes.map Node.name) g.edges = .ok plan

theorem Consistent.open_of_mutable {g : Graph} (h : g.Consistent) {n : Node} (hn : n ∈ g.nodes)
    (hmutable : n.state.isMutable = true) : g.plan = none := by
  cases hplan : g.plan with
  | none => rfl
  | some plan => exact absurd hmutable (by simp [h.linked_of_built hplan n hn])

/-- A graph changes only before it is built. -/
theorem Change.plan_eq_none {g next : Graph} (h : g.Change next) (hg : g.Consistent) : g.plan = none := by
  cases h with
  | insert name body n hopen => exact hopen
  | revise id n next hn hmutable => exact hg.open_of_mutable (List.mem_of_getElem? hn) hmutable
  | link source target producer consumer output input hsource =>
    obtain ⟨hn, hmutable, -⟩ := eq_ok_of_linkEnd hsource
    exact hg.open_of_mutable (List.mem_of_getElem? hn) hmutable
  | unlink l hl hsource =>
    obtain ⟨n, hn, hmutable⟩ := eq_ok_of_requireMutable hsource
    exact hg.open_of_mutable (List.mem_of_getElem? hn) hmutable
  | build plan hopen => exact hopen

/-- A graph that is not built stays consistent as long as its nodes stay mutable. -/
theorem Consistent.of_open {g : Graph} (hopen : g.plan = none) (h : ∀ n ∈ g.nodes, n.state.isMutable = true) :
    g.Consistent where
  mutable_of_open _ := h
  linked_of_built hplan := by rw [hopen] at hplan; cases hplan
  plan_of_links hplan := by rw [hopen] at hplan; cases hplan

theorem Change.consistent {g next : Graph} (h : g.Change next) (hg : g.Consistent) : next.Consistent := by
  have hplan := h.plan_eq_none hg
  have hmutable := hg.mutable_of_open hplan
  cases h with
  | insert name body n _ _ hmake =>
    refine .of_open hplan fun m hm => ?_
    rcases List.mem_append.mp hm with hm | hm
    · exact hmutable m hm
    · rw [List.mem_singleton.mp hm, Node.eq_of_make hmake]
      rfl
  | revise id n next hn hn' hnext =>
    refine .of_open hplan fun m hm => ?_
    rcases List.mem_or_eq_of_mem_set hm with hm | rfl
    · exact hmutable m hm
    · exact hnext.isMutable hn'
  | link | unlink => exact .of_open hplan hmutable
  | build plan _ hcompile =>
    have hnames : (g.built plan).nodes.map Node.name = g.nodes.map Node.name := by
      simp [built, Function.comp_def]
    refine ⟨fun h => ?_, fun _ n hn => ?_, fun h => ?_⟩
    · cases h
    · obtain ⟨m, -, rfl⟩ := List.mem_map.mp hn
      exact NodeState.not_isMutable_iff.mpr (NodeState.le_rank_advance _ _)
    · cases h
      rw [hnames]
      exact hcompile

/-- What a device does with the node of a built graph. -/
theorem Consistent.setNode {g : Graph} (hg : g.Consistent) (hbuilt : g.isBuilt = true) {id : NodeId} {n next : Node}
    (hn : g.nodes[id.index]? = some n) (h : n.Onward next) : (g.setNode id next).Consistent := by
  obtain ⟨plan, hplan⟩ := Option.isSome_iff_exists.mp hbuilt
  have hnames := names_setNode hn h.name
  refine ⟨fun hopen => ?_, fun _ m hm => ?_, fun hplan => ?_⟩
  · rw [Graph.setNode, hplan] at hopen
    cases hopen
  · have hlinked := hg.linked_of_built hplan
    rcases List.mem_or_eq_of_mem_set hm with hm | rfl
    · exact hlinked m hm
    · have hold := NodeState.not_isMutable_iff.mp (hlinked n (List.mem_of_getElem? hn))
      exact NodeState.not_isMutable_iff.mpr (Nat.le_trans hold h.state)
  · rw [hnames]
    exact hg.plan_of_links hplan

theorem Arises.consistent {g : Graph} (h : g.Arises) : g.Consistent := by
  induction h with
  | empty => exact .of_open rfl fun n hn => nomatch hn
  | step _ occurrence hdue ih =>
    rename_i g _
    cases hcall : occurrence.isCall with
    | true =>
      rcases occurrence.kept hcall g with hsame | hchange
      · rw [hsame]
        exact ih
      · exact hchange.consistent ih
    | false =>
      have hbuilt : g.isBuilt = true := hdue.resolve_left (by simp [hcall])
      cases occurrence with
      | operation | adjust => cases hcall
      | takeBody id =>
        simp only [Occurrence.apply, takeBody]
        split
        · exact ih
        · rename_i n hn
          exact ih.setNode hbuilt hn n.onward_bodiless
      | advanceState id state =>
        simp only [Occurrence.apply, advanceState]
        split
        · exact ih
        · rename_i n hn
          exact ih.setNode hbuilt hn (n.onward_advance state)

/-- Calls find nothing to do in a graph that has a plan. -/
theorem Consistent.after_calls {g : Graph} (hg : g.Consistent) {plan : Plan} (hplan : g.plan = some plan)
    {calls : List Occurrence} (hcalls : ∀ c ∈ calls, c.isCall = true) : g.after calls = g := by
  induction calls with
  | nil => rfl
  | cons call rest ih =>
    obtain ⟨hcall, hrest⟩ := List.forall_mem_cons.mp hcalls
    have hsame : call.apply g = g := by
      rcases call.kept hcall g with hsame | hchange
      · exact hsame
      · exact absurd (hchange.plan_eq_none hg) (by simp [hplan])
    rw [after, List.foldl_cons, hsame]
    exact ih hrest

/-- In a consistent graph a built node has nothing to move on to. -/
theorem Consistent.built_eq {g : Graph} (hg : g.Consistent) {plan : Plan} (h : g.plan = some plan) :
    g.built plan = g := by
  have hnodes : (g.nodes.map fun n => { n with state := n.state.advance .linked }) = g.nodes := by
    refine (List.map_congr_left fun n hn => ?_).trans (List.map_id g.nodes)
    have hlinked := NodeState.not_isMutable_iff.mp (hg.linked_of_built h n hn)
    simp [NodeState.advance, Nat.not_lt.mpr hlinked]
  rw [built, hnodes, ← h]

theorem Consistent.build_eq {g : Graph} (hg : g.Consistent) {plan : Plan} (h : g.build.1 = .ok plan) :
    g.build.2 = g.built plan := by
  rcases g.build_outcome.of_ok h with ⟨hplan, hsame⟩ | ⟨-, -, hbuilt⟩
  · rw [hsame, hg.built_eq hplan]
  · exact hbuilt

theorem Arises.build {g : Graph} (h : g.Arises) : g.build.2.Arises := by
  have hnext := h.step (.operation .build) (.inl rfl)
  simpa [Occurrence.apply, Operation.apply] using hnext

theorem build_of_plan {g : Graph} {plan : Plan} (h : g.plan = some plan) : g.build.1 = .ok plan := by
  rw [build, Edit.run_get_bind, Edit.run_change_bind, h]
  rfl

/-- The nodes of a graph that is not built may all change. Once a build has answered with a plan, whatever
is called leaves the graph as it was built, with every node linked at least, and building it again gives the
same plan. No occurrence, be it the doing of a device, takes a node back to an earlier state. -/
theorem build_freezes :
    (∀ g : Graph, g.Arises → g.isBuilt = false → ∀ n ∈ g.nodes, n.state.isMutable = true) ∧
    (∀ (g : Graph) (plan : Plan), g.Arises → g.build.1 = .ok plan →
      ∀ calls : List Occurrence, (∀ call ∈ calls, call.isCall = true) →
        g.build.2.after calls = g.build.2 ∧ g.build.2 = g.built plan ∧
        (∀ n ∈ (g.build.2.after calls).nodes, NodeState.linked.rank ≤ n.state.rank) ∧
        (g.build.2.after calls).build.1 = .ok plan) ∧
    ∀ (g : Graph) (course : List Occurrence) (i : Nat) (n : Node), g.nodes[i]? = some n →
      ∃ m, (g.after course).nodes[i]? = some m ∧ n.state.rank ≤ m.state.rank := by
  refine ⟨fun g hg hopen => ?_, fun g plan hg hbuild calls hcalls => ?_, fun g course i n hn => ?_⟩
  · exact hg.consistent.mutable_of_open (by simpa [isBuilt] using hopen)
  · have hbuilt := hg.consistent.build_eq hbuild
    have hnext := hg.build.consistent
    have hplan : g.build.2.plan = some plan := by rw [hbuilt]; rfl
    have hcalls := hnext.after_calls hplan hcalls
    rw [hcalls]
    exact ⟨rfl, hbuilt, fun n hn => NodeState.not_isMutable_iff.mp (hnext.linked_of_built hplan n hn),
      build_of_plan hplan⟩
  · obtain ⟨m, hm, honward⟩ := g.after_onward course i n hn
    exact ⟨m, hm, honward.state⟩

/-- Two nodes that are linked, built and run: nothing can be added, removed or set any more. -/
theorem build_freezes_pair :
    let g := ({} : Graph).after [
      .operation (.addPlugin "a" { typeName := "Tap", ports := [
        { name := "out", direction := .output, types := [.any] }] }),
      .operation (.addPlugin "b" { typeName := "Sink", ports := [
        { name := "in", direction := .input, types := [.any] }] }),
      .operation (.link ⟨0, 0⟩ ⟨1, 0⟩)]
    let calls : List Occurrence := [.operation (.unlink ⟨0⟩), .operation (.setInputQueue ⟨1, 0⟩ 3 false),
      .operation (.addPlugin "c" { typeName := "Tap", ports := [] }), .adjust ⟨0⟩ .camera id]
    let plan := Plan.ofOrder 2 [(0, 1)] [(0, 1)] [0, 1]
    let run : List Occurrence := [.takeBody ⟨0⟩, .advanceState ⟨0⟩ .stopped, .advanceState ⟨0⟩ .running]
    g.isBuilt = false ∧ (∀ n ∈ g.nodes, n.state.isMutable = true) ∧
      g.build.1 = .ok plan ∧ g.build.2.after calls = g.build.2 ∧ (g.build.2.after calls).build.1 = .ok plan ∧
      ∃ n, (g.build.2.after run).nodes[0]? = some n ∧ NodeState.linked.rank ≤ n.state.rank := by
  intro g calls plan run
  have hg : g.Arises := Arises.empty.after (by simp [Occurrence.isCall])
  obtain ⟨hopen, hfrozen, honward⟩ := build_freezes
  have hbuild : g.build.1 = .ok plan := by rfl
  obtain ⟨hsame, -, -, hagain⟩ := hfrozen g plan hg hbuild calls (by simp [calls, Occurrence.isCall])
  exact ⟨by rfl, hopen g hg (by rfl), hbuild, hsame, hagain, honward g.build.2 run 0 _ (by rfl)⟩

end Graph
end FrameGraph
