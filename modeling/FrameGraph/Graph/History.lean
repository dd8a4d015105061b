import FrameGraph.Graph.Build
import FrameGraph.Graph.Links
import FrameGraph.Graph.Requests

/-!
# Histories of a graph

The operations on a graph as data, so that a history of a graph is a list of them.

* `Operation.apply`: one operation, with the kind of its answer.
* `Graph.run`: the graph after a history.
* `Graph.Reachable`: the graphs that histories lead to from the empty one.
* `Occurrence`: whatever may happen to a graph, before and after it has been built.
* `Graph.Arises`: the graphs that come to be through occurrences. A device lays hands on built graphs only.
* `Graph.Assembled`: the graphs as they are handed to a device.
-/

namespace FrameGraph
set_option autoImplicit false

inductive Operation where
  | create (config : NodeConfig)
  | createNamed (name : String) (config : NodeConfig)
  | addPlugin (name : String) (plugin : Plugin)
  | configure (id : NodeId) (setting : Setting)
  | inspect (id : NodeId) (kind : NodeKind)
  | port (id : NodeId) (key : String)
  | portToward (direction : Direction) (id : NodeId) (key : String)
  | mapPort (direction : Direction) (id : NodeId) (map key : String)
  | setInputQueue (id : PortId) (size : Nat) (blocking : Bool)
  | requestOutput (id : NodeId) (request : Request)
  | link (source target : PortId)
  | unlink (id : LinkId)
  | build

inductive Answer where
  | node (id : NodeId)
  | body (body : Body)
  | port (id : PortId)
  | link (id : LinkId)
  | flag (b : Bool)
  | plan (plan : Plan)
  | done

/-- An answer, or what stands against it. -/
abbrev Verdict := Except PipelineError Answer

variable {α : Type}

def Verdict.ofBuild (answer : α → Answer) : Except BuildError α × Graph → Verdict × Graph
  | (.ok a, g) => (.ok (answer a), g)
  | (.error e, g) => (.error (.build e), g)

@[simp] theorem Verdict.ofBuild_snd (answer : α → Answer) (outcome : Except BuildError α × Graph) :
    (Verdict.ofBuild answer outcome).2 = outcome.2 := by
  obtain ⟨result, g⟩ := outcome
  cases result <;> rfl

def Verdict.ofNegotiation (answer : α → Answer) :
    Except NegotiationError α × Graph → Verdict × Graph
  | (.ok a, g) => (.ok (answer a), g)
  | (.error e, g) => (.error (.negotiation e), g)

@[simp] theorem Verdict.ofNegotiation_snd (answer : α → Answer) (outcome : Except NegotiationError α × Graph) :
    (Verdict.ofNegotiation answer outcome).2 = outcome.2 := by
  obtain ⟨result, g⟩ := outcome
  cases result <;> rfl

def Operation.apply (op : Operation) (g : Graph) : Verdict × Graph :=
  match op with
  | .create config => Verdict.ofBuild .node (g.create config)
  | .createNamed name config => Verdict.ofBuild .node (g.createNamed name config)
  | .addPlugin name plugin => Verdict.ofBuild .node (g.addPlugin name plugin)
  | .configure id setting => Verdict.ofBuild .body (g.configure id setting)
  | .inspect id kind => Verdict.ofBuild .body (g.inspect id kind, g)
  | .port id key => Verdict.ofBuild .port (g.port id key, g)
  | .portToward direction id key => Verdict.ofBuild .port (g.portToward direction id key, g)
  | .mapPort direction id map key => Verdict.ofBuild .port (g.mapPort direction id map key)
  | .setInputQueue id size blocking => Verdict.ofBuild (fun _ => .done) (g.setInputQueue id size blocking)
  | .requestOutput id request => Verdict.ofNegotiation .port (g.requestOutput id request)
  | .link source target => Verdict.ofBuild .link (g.link source target)
  | .unlink id => Verdict.ofBuild .flag (g.unlink id)
  | .build => Verdict.ofBuild .plan g.build

namespace Graph

def run (g : Graph) (history : List Operation) : Graph :=
  history.foldl (fun g op => (op.apply g).2) g

def Reachable (g : Graph) : Prop :=
  ∃ history, run {} history = g

end Graph

/-! ## Occurrences -/

inductive Occurrence where
  | operation (op : Operation)
  /-- Any change of the body of a built-in node, not of one setting alone. -/
  | adjust (id : NodeId) (kind : NodeKind) (change : Body → Body)
  /-- A device takes the body of a node out to run it. -/
  | takeBody (id : NodeId)
  | advanceState (id : NodeId) (state : NodeState)

namespace Occurrence

/-- Whether it is a call of whoever puts the graph together, and not the doing of a device. -/
def isCall : Occurrence → Bool
  | operation _ | adjust .. => true
  | takeBody _ | advanceState .. => false

def apply (g : Graph) : Occurrence → Graph
  | operation op => (op.apply g).2
  | adjust id kind change => (g.adjust id kind change).2
  | takeBody id => (g.takeBody id).2
  | advanceState id state => g.advanceState id state

end Occurrence

namespace Graph

def after (g : Graph) (course : List Occurrence) : Graph :=
  course.foldl Occurrence.apply g

inductive Arises : Graph → Prop
  | empty : Arises {}
  | step {g : Graph} (h : Arises g) (occurrence : Occurrence) (due : occurrence.isCall = true ∨ g.isBuilt = true) :
    Arises (occurrence.apply g)

/-- Calls have put the graph together, and no device has laid hands on it yet. -/
def Assembled (g : Graph) : Prop :=
  ∃ calls : List Occurrence, (∀ c ∈ calls, c.isCall = true) ∧ ({} : Graph).after calls = g

end Graph

end FrameGraph
