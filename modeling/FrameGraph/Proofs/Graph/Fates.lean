import FrameGraph.Proofs.Graph.Keys

/-!
# What an occurrence makes of one node

* `Occurrence.adjustment?`: the change of a body that an occurrence asks for.
* `Node.Fate`: all that can become of a node, with what the occurrence asks for.
* `Occurrence.fate`: a node after an occurrence is one of before, after its fate, or a new one.
* `Graph.induct_nodes`: what is true of new nodes, and of every node after its fate, is true of all nodes.
-/

namespace FrameGraph
set_option autoImplicit false

def Occurrence.adjustment? : Occurrence → Option (NodeId × NodeKind × (Body → Body))
  | operation (.configure id setting) => some (id, setting.kind, fun body => body.set setting)
  | adjust id kind change => some (id, kind, change)
  | _ => none

namespace Node

/-- What can become of the node with a number in an occurrence. -/
inductive Fate (occurrence : Occurrence) (id : NodeId) (n : Node) : Node → Prop
  | same : Fate occurrence id n n
  | advanced (state : NodeState) : Fate occurrence id n { n with state := n.state.advance state }
  | stripped : Fate occurrence id n { n with body := none }
  | adjusted (kind : NodeKind) (change : Body → Body) (body : Body)
    (habout : occurrence.adjustment? = some (id, kind, change)) (hbody : n.body = some body)
    (hkind : body.kind? = some kind) :
    Fate occurrence id n { n with body := some (change body), state := .configured }
  | entered (m : PortMap) (key : String) (habout : occurrence = .operation (.mapPort m.direction id m.name key))
    (hmap : m ∈ n.maps) (hfree : n.find? (portKey (some m.name) key) = none)
    (hroom : n.ports.length < maxPortsPerNode) : Fate occurrence id n (n.withPort (m.entry key))
  | requeued (position : Nat) (port : Port) (size : Nat) (blocking : Bool) (hport : n.ports[position]? = some port) :
    Fate occurrence id n { n with ports := n.ports.set position { port with queueSize := size, blocking } }
  | answered (request : Request) (m : PortMap) (key : String) (spec : OutputSpec)
    (habout : occurrence = .operation (.requestOutput id request)) (hmap : n.outputMap? = some m)
    (hkey : n.keyFor m.name request = .ok key) (hspec : n.resolve request = .ok spec)
    (hroom : n.ports.length < maxPortsPerNode) :
    Fate occurrence id n { n.withPort (n.outputPort m key spec) with
      body := n.body.map (Body.register key spec)
      negotiated := n.negotiated ++ [⟨request, key, .ofNode id n.ports.length⟩] }

/-! ## One edit -/

theorem adjust_fate {occurrence : Occurrence} {id : NodeId} {kind : NodeKind} {change : Body → Body}
    (habout : occurrence.adjustment? = some (id, kind, change)) (n : Node) :
    n.Fate occurrence id (Edit.run n (adjust kind change)).2 := by
  refine (n.adjust_outcome kind change).state_mem .same fun _ _ h => ?_
  cases h with
  | changed body _ hbody hkind => exact .adjusted kind change body habout hbody hkind

theorem mapPort_fate (n : Node) (id : NodeId) (direction : Direction) (map key : String) :
    n.Fate (.operation (.mapPort direction id map key)) id (Edit.run n (mapPort id direction map key)).2 := by
  refine (n.mapPort_outcome id direction map key).state_mem .same fun _ _ h => ?_
  cases h with
  | found => exact .same
  | entered m _ hmap hname hdirection hfree hroom =>
    subst hname hdirection
    exact .entered m key rfl hmap hfree hroom

theorem setInputQueue_fate (occurrence : Occurrence) (n : Node) (id : NodeId) (position size : Nat) (blocking : Bool) :
    n.Fate occurrence id (Edit.run n (setInputQueue position size blocking)).2 := by
  refine (n.setInputQueue_outcome position size blocking).state_mem .same fun _ _ h => ?_
  cases h with
  | set port _ hport => exact .requeued position port size blocking hport

theorem requestOutput_fate (n : Node) (id : NodeId) (request : Request) :
    n.Fate (.operation (.requestOutput id request)) id (Edit.run n (requestOutput id request)).2 := by
  refine (n.requestOutput_outcome id request).state_mem .same fun _ _ h => ?_
  cases h with
  | known => exact .same
  | made m key spec _ _ hmap hkey hspec hroom => exact .answered request m key spec rfl hmap hkey hspec hroom

end Node

/-! ## One occurrence -/

namespace Occurrence

theorem fate_of_revision {occurrence : Occurrence} {id : NodeId} {revise : Node → Node}
    (h : occurrence.revision? = some (id, revise)) (n : Node) : n.Fate occurrence id (revise n) := by
  cases occurrence with
  | operation op =>
    cases op with
    | configure _ setting =>
      cases h
      exact n.adjust_fate rfl
    | mapPort direction _ map key =>
      cases h
      exact n.mapPort_fate id direction map key
    | setInputQueue port size blocking =>
      cases h
      exact n.setInputQueue_fate _ port.node port.position size blocking
    | requestOutput _ request =>
      cases h
      exact n.requestOutput_fate id request
    | create | createNamed | addPlugin | inspect | port | portToward | link | unlink | build => cases h
  | adjust _ kind change =>
    cases h
    exact n.adjust_fate rfl
  | takeBody =>
    cases h
    exact .stripped
  | advanceState _ state =>
    cases h
    exact .advanced state

theorem fate {occurrence : Occurrence} {g : Graph} {id : NodeId} {m : Node}
    (hm : (occurrence.apply g).nodes[id.index]? = some m) :
    (∃ n, g.nodes[id.index]? = some n ∧ n.Fate occurrence id m) ∨
      g.nodes[id.index]? = none ∧ ∃ name body, occurrence.brings = some body ∧ Node.make id name body = .ok m := by
  have heffect := occurrence.nodes_effect g
  generalize (occurrence.apply g).nodes = nodes at heffect hm
  cases heffect with
  | same => exact .inl ⟨m, hm, .same⟩
  | added name body n hbrings hmake =>
    by_cases hold : id.index < g.nodes.length
    · rw [List.getElem?_append_left hold] at hm
      exact .inl ⟨m, hm, .same⟩
    · -- The only place behind the old nodes is that of the new one.
      have hbehind := Nat.le_of_not_lt hold
      rw [List.getElem?_append_right hbehind] at hm
      obtain ⟨hi, rfl⟩ := List.getElem?_eq_some_iff.mp hm
      obtain ⟨index⟩ := id
      obtain rfl : index = g.nodes.length := by
        simp only [List.length_singleton] at hi hbehind
        omega
      exact .inr ⟨List.getElem?_eq_none_iff.mpr hbehind, name, body, hbrings, by simpa using hmake⟩
  | revised other revise n habout hn =>
    by_cases hid : other.index = id.index
    · obtain rfl : other = id := congrArg NodeId.mk hid
      obtain ⟨hi, -⟩ := List.getElem?_eq_some_iff.mp hn
      obtain rfl : revise n = m := Option.some.inj ((List.getElem?_set_self hi).symm.trans hm)
      exact .inl ⟨n, hn, fate_of_revision habout n⟩
    · rw [List.getElem?_set_ne hid] at hm
      exact .inl ⟨m, hm, .same⟩
  | linked =>
    rw [List.getElem?_map, Option.map_eq_some_iff] at hm
    obtain ⟨n, hn, rfl⟩ := hm
    exact .inl ⟨n, hn, .advanced .linked⟩

end Occurrence

/-! ## Courses -/

/-- A property of the node with an identifier and of the course that it has been through. It is true of all nodes if it
is true of new ones, and stays true whatever occurs. -/
theorem Graph.induct_nodes {P : List Occurrence → NodeId → Node → Prop}
    (hmake : ∀ {course : List Occurrence} {last : Occurrence} {id : NodeId} {name : String} {body : Body} {n : Node},
      last.brings = some body → Node.make id name body = .ok n → P (course ++ [last]) id n)
    (hfate : ∀ {course : List Occurrence} {last : Occurrence} {id : NodeId} {n next : Node},
      (({} : Graph).after course).nodes[id.index]? = some n →
      (({} : Graph).after (course ++ [last])).nodes[id.index]? = some next →
      n.Fate last id next → P course id n → P (course ++ [last]) id next)
    (course : List Occurrence) {id : NodeId} {n : Node} (hn : (({} : Graph).after course).nodes[id.index]? = some n) :
    P course id n := by
  induction course using List.reverseRecOn generalizing n with
  | nil => cases hn
  | append_singleton course last ih =>
    have hlast := hn
    rw [after_concat] at hlast
    rcases last.fate hlast with ⟨old, hold, hbecomes⟩ | ⟨-, name, body, hbrings, hmade⟩
    · exact hfate hold hn hbecomes (ih hold)
    · exact hmake hbrings hmade

end FrameGraph
