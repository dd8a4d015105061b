import FrameGraph.Proofs.Graph.Linking
import Mathlib.Data.List.Induction

/-!
# What becomes of the nodes

An occurrence adds a node at the end, revises one in its place, moves all of them on, or leaves them alone.

* `Node.mapPort_spec` and its like: what the edits of a node do to its ports and its body.
* `Occurrence.brings`: the body of the node that an occurrence adds.
* `Occurrence.revision?`: the node that an occurrence is about, with what it makes of it.
* `Occurrence.nodes_effect`: all that an occurrence does to the nodes.
* `Node.Lasting`: what stays true of a node whatever becomes of it. `Node.Lasting.after`: so it does in any course.
* `Graph.exists_made`: every node was made from a body that some occurrence brought.
-/

namespace FrameGraph
set_option autoImplicit false

/-! ## Edits of a node -/

namespace Node

theorem mapPort_spec (n : Node) (id : NodeId) (direction : Direction) (map key : String) :
    let next := (Edit.run n (mapPort id direction map key)).2
    n.ports <+: next.ports ∧ next.body = n.body := by
  refine (n.mapPort_outcome id direction map key).state_mem (P := fun next => n.ports <+: next.ports ∧
    next.body = n.body) ⟨List.prefix_refl _, rfl⟩ fun _ _ h => ?_
  cases h with
  | found => exact ⟨List.prefix_refl _, rfl⟩
  | entered => exact ⟨List.prefix_append _ _, rfl⟩

/-- A request that is answered anew is told to the body. -/
theorem requestOutput_spec (n : Node) (id : NodeId) (request : Request) :
    let next := (Edit.run n (requestOutput id request)).2
    n.ports <+: next.ports ∧ (next.body = n.body ∨ ∃ key spec, next.body = n.body.map (Body.register key spec)) := by
  refine (n.requestOutput_outcome id request).state_mem (P := fun next => n.ports <+: next.ports ∧
    (next.body = n.body ∨ ∃ key spec, next.body = n.body.map (Body.register key spec)))
    ⟨List.prefix_refl _, .inl rfl⟩ fun _ _ h => ?_
  cases h with
  | known => exact ⟨List.prefix_refl _, .inl rfl⟩
  | made _ key spec => exact ⟨List.prefix_append _ _, .inr ⟨key, spec, rfl⟩⟩

theorem adjust_spec (n : Node) (kind : NodeKind) (change : Body → Body) :
    let next := (Edit.run n (adjust kind change)).2
    next.ports = n.ports ∧ (next.body = n.body ∨
      ∃ body, n.body = some body ∧ body.kind? = some kind ∧ next.body = some (change body)) := by
  refine (n.adjust_outcome kind change).state_mem (P := fun next => next.ports = n.ports ∧ (next.body = n.body ∨
    ∃ body, n.body = some body ∧ body.kind? = some kind ∧ next.body = some (change body))) ⟨rfl, .inl rfl⟩
    fun _ _ h => ?_
  cases h with
  | changed body _ hbody hkind => exact ⟨rfl, .inr ⟨body, hbody, hkind, rfl⟩⟩

/-- One port is replaced, or the attempt fails. -/
theorem setInputQueue_spec (n : Node) (position size : Nat) (blocking : Bool) :
    let outcome := Edit.run n (setInputQueue position size blocking)
    (outcome.2.ports = n.ports ∨ outcome.1 = .ok () ∧ ∃ port, outcome.2.ports = n.ports.set position port) ∧
      outcome.2.body = n.body := by
  have houtcome := n.setInputQueue_outcome position size blocking
  generalize Edit.run n (setInputQueue position size blocking) = outcome at houtcome
  cases houtcome with
  | failed => exact ⟨.inl rfl, rfl⟩
  | done h =>
    cases h with
    | set port => exact ⟨.inr ⟨rfl, _, rfl⟩, rfl⟩

end Node

/-! ## One occurrence -/

namespace Occurrence

def brings : Occurrence → Option Body
  | operation (.create config) | operation (.createNamed _ config) => some config.body
  | operation (.addPlugin _ plugin) => some (.plugin plugin)
  | _ => none

def revision? : Occurrence → Option (NodeId × (Node → Node))
  | operation (.configure id setting) =>
    some (id, fun n => (Edit.run n (Node.adjust setting.kind fun body => body.set setting)).2)
  | operation (.mapPort direction id map key) =>
    some (id, fun n => (Edit.run n (Node.mapPort id direction map key)).2)
  | operation (.setInputQueue id size blocking) =>
    some (id.node, fun n => (Edit.run n (Node.setInputQueue id.position size blocking)).2)
  | operation (.requestOutput id request) => some (id, fun n => (Edit.run n (Node.requestOutput id request)).2)
  | adjust id kind change => some (id, fun n => (Edit.run n (Node.adjust kind change)).2)
  | takeBody id => some (id, fun n => { n with body := none })
  | advanceState id state => some (id, fun n => { n with state := n.state.advance state })
  | _ => none

/-- The nodes after an occurrence in a graph. -/
inductive NodesEffect (g : Graph) (occurrence : Occurrence) : List Node → Prop
  | same : NodesEffect g occurrence g.nodes
  | added (name : String) (body : Body) (n : Node) (hbrings : occurrence.brings = some body)
    (hmake : Node.make ⟨g.nodes.length⟩ name body = .ok n) : NodesEffect g occurrence (g.nodes ++ [n])
  | revised (id : NodeId) (revise : Node → Node) (n : Node) (habout : occurrence.revision? = some (id, revise))
    (hn : g.nodes[id.index]? = some n) : NodesEffect g occurrence (g.nodes.set id.index (revise n))
  | linked : NodesEffect g occurrence (g.nodes.map fun n => { n with state := n.state.advance .linked })

theorem nodesEffect_insert {g : Graph} {occurrence : Occurrence} {body : Body} (h : occurrence.brings = some body)
    (name : String) : NodesEffect g occurrence (g.insert name body).2.nodes := by
  refine (g.insert_outcome name body).state_mem (P := fun next => NodesEffect g occurrence next.nodes) .same
    fun _ next hnext => ?_
  obtain ⟨-, n, hmake, hnodes⟩ := hnext
  rw [hnodes]
  exact .added name body n h hmake

theorem nodesEffect_editNode {ε α : Type} {g : Graph} {occurrence : Occurrence} {id : NodeId} {edit : Edit Node ε α}
    (h : occurrence.revision? = some (id, fun n => (Edit.run n edit).2)) (unknown : ε) :
    NodesEffect g occurrence (Edit.run g (Graph.editNode id unknown edit)).2.nodes := by
  rw [Graph.editNode, Edit.run_get_bind]
  split
  · exact .same
  · rename_i n hn
    exact .revised id _ n h hn

theorem nodes_link (g : Graph) (source target : PortId) : (g.link source target).2.nodes = g.nodes := by
  refine (g.link_outcome source target).state_mem (P := fun next => next.nodes = g.nodes) rfl fun _ _ h => ?_
  rcases h with ⟨rfl, -⟩ | ⟨-, hnodes, -⟩
  · rfl
  · exact hnodes

theorem nodes_unlink (g : Graph) (id : LinkId) : (g.unlink id).2.nodes = g.nodes := by
  refine (g.unlink_outcome id).state_mem (P := fun next => next.nodes = g.nodes) rfl fun _ _ h => ?_
  rcases h with ⟨-, rfl⟩ | ⟨-, -, -, hnodes, -⟩
  · rfl
  · exact hnodes

theorem nodes_effect (occurrence : Occurrence) (g : Graph) :
    NodesEffect g occurrence (occurrence.apply g).nodes := by
  cases occurrence with
  | operation op =>
    cases op <;> simp only [apply, Operation.apply, Verdict.ofBuild_snd, Verdict.ofNegotiation_snd]
    case create => exact nodesEffect_insert rfl _
    case createNamed => exact nodesEffect_insert rfl _
    case addPlugin => exact nodesEffect_insert rfl _
    case configure => exact nodesEffect_editNode rfl _
    case inspect | port | portToward => exact .same
    case mapPort => exact nodesEffect_editNode rfl _
    case setInputQueue => exact nodesEffect_editNode rfl _
    case requestOutput => exact nodesEffect_editNode rfl _
    case link source target => exact nodes_link g source target ▸ .same
    case unlink id => exact nodes_unlink g id ▸ .same
    case build =>
      refine g.build_outcome.state_mem (P := fun next => NodesEffect g _ next.nodes) .same fun plan next h => ?_
      rcases h with ⟨-, rfl⟩ | ⟨-, -, rfl⟩
      · exact .same
      · exact .linked
  | adjust => exact nodesEffect_editNode rfl _
  | takeBody id =>
    simp only [apply, Graph.takeBody]
    split
    · exact .same
    · rename_i n hn
      exact .revised id (fun n => { n with body := none }) n rfl hn
  | advanceState id state =>
    simp only [apply, Graph.advanceState]
    split
    · exact .same
    · rename_i n hn
      exact .revised id (fun n => { n with state := n.state.advance state }) n rfl hn

/-- What an occurrence makes of the node that it is about. -/
theorem revision_cases {occurrence : Occurrence} {id : NodeId} {revise : Node → Node}
    (h : occurrence.revision? = some (id, revise)) (n : Node) :
    revise n = n ∨ n.Revision id (revise n) ∨ revise n = { n with body := none } ∨
      ∃ state, revise n = { n with state := n.state.advance state } := by
  have hkept {ε α : Type} {edit : Edit Node ε α} {R : α → Node → Prop} (houtcome : Edit.Outcome n R (Edit.run n edit))
      (hR : ∀ a next, R a next → n.Kept id next) : (Edit.run n edit).2 = n ∨ n.Revision id (Edit.run n edit).2 :=
    (houtcome.state_mem (P := n.Kept id) (.inl rfl) hR).imp_right And.right
  cases occurrence with
  | operation op =>
    cases op with
    | configure _ setting =>
      cases h
      exact (hkept (n.adjust_outcome _ _) fun _ _ hdone => hdone.kept id).imp_right .inl
    | mapPort direction _ map key =>
      cases h
      exact (hkept (n.mapPort_outcome _ _ _ _) fun _ _ hdone => hdone.kept).imp_right .inl
    | setInputQueue p size blocking =>
      cases h
      exact (hkept (n.setInputQueue_outcome _ _ _) fun _ _ hdone => hdone.kept p.node).imp_right .inl
    | requestOutput _ request =>
      cases h
      exact (hkept (n.requestOutput_outcome _ _) fun _ _ hdone => hdone.kept).imp_right .inl
    | create | createNamed | addPlugin | inspect | port | portToward | link | unlink | build => cases h
  | adjust _ kind change =>
    cases h
    exact (hkept (n.adjust_outcome _ _) fun _ _ hdone => hdone.kept id).imp_right .inl
  | takeBody =>
    cases h
    exact .inr (.inr (.inl rfl))
  | advanceState _ state =>
    cases h
    exact .inr (.inr (.inr ⟨state, rfl⟩))

/-! ## What occurrences keep -/

/-- What is true of a node before it is true of the node after. -/
def Keeps (occurrence : Occurrence) (P : Node → Prop) : Prop :=
  ∀ (g : Graph) (i : Nat) (n : Node), g.nodes[i]? = some n → P n →
    ∃ m, (occurrence.apply g).nodes[i]? = some m ∧ P m

theorem keeps_of_revision {occurrence : Occurrence} {P : Node → Prop}
    (hadvanced : ∀ n state, P n → P { n with state := n.state.advance state })
    (hrevised : ∀ id revise, occurrence.revision? = some (id, revise) → ∀ n, P n → P (revise n)) :
    occurrence.Keeps P := by
  intro g i n hn hP
  have heffect := occurrence.nodes_effect g
  generalize (occurrence.apply g).nodes = nodes at heffect
  obtain ⟨hi, -⟩ := List.getElem?_eq_some_iff.mp hn
  cases heffect with
  | same => exact ⟨n, hn, hP⟩
  | added => exact ⟨n, by rwa [List.getElem?_append_left hi], hP⟩
  | revised id revise old habout hold =>
    by_cases hid : id.index = i
    · subst hid
      obtain rfl : n = old := Option.some.inj (hn.symm.trans hold)
      exact ⟨revise n, List.getElem?_set_self hi, hrevised id revise habout n hP⟩
    · exact ⟨n, by rwa [List.getElem?_set_ne hid], hP⟩
  | linked => exact ⟨_, by rw [List.getElem?_map, hn]; rfl, hadvanced n .linked hP⟩

end Occurrence

/-! ## What lasts -/

namespace Node

structure Lasting (P : Node → Prop) : Prop where
  revised : ∀ {n next : Node} {id : NodeId}, n.Revision id next → P n → P next
  stripped : ∀ {n : Node}, P n → P { n with body := none }
  advanced : ∀ {n : Node} (state : NodeState), P n → P { n with state := n.state.advance state }

theorem Lasting.keeps {P : Node → Prop} (h : Lasting P) (occurrence : Occurrence) : occurrence.Keeps P := by
  refine Occurrence.keeps_of_revision (fun _ state => h.advanced state) fun id revise habout n hP => ?_
  rcases Occurrence.revision_cases habout n with hsame | hrevision | hstripped | ⟨state, hadvanced⟩
  · rwa [hsame]
  · exact h.revised hrevision hP
  · rw [hstripped]
    exact h.stripped hP
  · rw [hadvanced]
    exact h.advanced state hP

end Node

namespace Graph

theorem keeps_after {P : Node → Prop} {course : List Occurrence} (h : ∀ occurrence ∈ course, occurrence.Keeps P)
    {g : Graph} {i : Nat} {n : Node} (hn : g.nodes[i]? = some n) (hP : P n) :
    ∃ m, (g.after course).nodes[i]? = some m ∧ P m := by
  induction course generalizing g n with
  | nil => exact ⟨n, hn, hP⟩
  | cons occurrence rest ih =>
    obtain ⟨hfirst, hrest⟩ := List.forall_mem_cons.mp h
    obtain ⟨m, hm, hP⟩ := hfirst g i n hn hP
    exact ih hrest hm hP

theorem after_concat (g : Graph) (course : List Occurrence) (occurrence : Occurrence) :
    g.after (course ++ [occurrence]) = occurrence.apply (g.after course) :=
  after_append g course [occurrence]

/-- A node was made from a body that an occurrence brought, and what every occurrence keeps is true of it if it was
true then. -/
theorem exists_made (course : List Occurrence) {i : Nat} {n : Node}
    (hn : (({} : Graph).after course).nodes[i]? = some n) :
    ∃ occurrence ∈ course, ∃ name body first, occurrence.brings = some body ∧ Node.make ⟨i⟩ name body = .ok first ∧
      ∀ P : Node → Prop, (∀ later ∈ course, later.Keeps P) → P first → P n := by
  induction course using List.reverseRecOn generalizing n with
  | nil => cases hn
  | append_singleton earlier last ih =>
    rw [after_concat] at hn
    cases hold : (({} : Graph).after earlier).nodes[i]? with
    | some old =>
      obtain ⟨occurrence, hmem, name, body, first, hbrings, hmake, hkept⟩ := ih hold
      refine ⟨occurrence, List.mem_append_left _ hmem, name, body, first, hbrings, hmake, fun P hkeeps hP => ?_⟩
      have hP := hkept P (fun later hlater => hkeeps later (List.mem_append_left _ hlater)) hP
      obtain ⟨m, hm, hP⟩ := hkeeps last (by simp) _ i old hold hP
      obtain rfl : m = n := Option.some.inj (hm.symm.trans hn)
      exact hP
    | none =>
      have hbehind := List.getElem?_eq_none_iff.mp hold
      have heffect := last.nodes_effect (({} : Graph).after earlier)
      generalize (last.apply (({} : Graph).after earlier)).nodes = nodes at heffect hn
      cases heffect with
      | same =>
        rw [hold] at hn
        cases hn
      | added name body new hbrings hmake =>
        -- The only place behind the old nodes is that of the new one.
        rw [List.getElem?_append_right hbehind] at hn
        obtain ⟨hi, rfl⟩ := List.getElem?_eq_some_iff.mp hn
        obtain rfl : i = (({} : Graph).after earlier).nodes.length := by
          simp only [List.length_singleton] at hi
          omega
        exact ⟨last, by simp, name, body, _, hbrings, by simpa using hmake, fun P _ hP => hP⟩
      | revised id revise other _ hother =>
        rw [List.getElem?_eq_none_iff.mpr (by simpa using hbehind)] at hn
        cases hn
      | linked =>
        rw [List.getElem?_map, hold] at hn
        cases hn

/-- What lasts, and is true of every new node, is true of all nodes. -/
theorem forall_nodes_of_lasting {P : Node → Prop} (hP : Node.Lasting P)
    (hmake : ∀ {id name body n}, Node.make id name body = .ok n → P n) (course : List Occurrence) {i : Nat} {n : Node}
    (hn : (({} : Graph).after course).nodes[i]? = some n) : P n := by
  obtain ⟨_, -, _, _, _, -, hmade, hlasts⟩ := exists_made course hn
  exact hlasts P (fun later _ => hP.keeps later) (hmake hmade)

end Graph

/-! ## Room for ports -/

namespace Node

theorem length_le_of_make {id : NodeId} {name : String} {body : Body} {n : Node} (h : make id name body = .ok n) :
    n.ports.length ≤ maxPortsPerNode := by
  rcases make_cases id name body with ⟨hroom, -⟩ | ⟨-, hmake⟩
  · rwa [eq_of_make h]
  · rw [hmake] at h
    cases h

theorem lasting_room : Lasting fun n => n.ports.length ≤ maxPortsPerNode where
  revised hnext h := by
    cases hnext with
    | body => exact h
    | entry m key _ _ hroom => simpa [withPort] using Nat.succ_le_of_lt hroom
    | queue => simpa using h
    | request _ _ _ _ _ _ _ _ hroom => simpa [withPort] using Nat.succ_le_of_lt hroom
  stripped h := h
  advanced _ h := h

end Node

/-- No node has more ports than a port identifier can tell apart. -/
theorem Graph.ports_length_le (course : List Occurrence) {i : Nat} {n : Node}
    (hn : (({} : Graph).after course).nodes[i]? = some n) : n.ports.length ≤ maxPortsPerNode :=
  forall_nodes_of_lasting Node.lasting_room Node.length_le_of_make course hn

end FrameGraph
