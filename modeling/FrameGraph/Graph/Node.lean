import FrameGraph.Edit
import FrameGraph.Error
import FrameGraph.Node.Body
import FrameGraph.Node.State

/-!
# Nodes of a graph

A node has a name, a body, a state and its ports. The ports stand in the order in which they came into
being; the fixed ones come first, and the entries of maps are added as they are asked for.

* `Node.addPort`: adds a port at the end, as long as there is room.
* `Node.make`: a node from its body.
* `Node.find?`: the position of the port with a key. Of several ports with one key it is the last.
-/

namespace FrameGraph
set_option autoImplicit false

structure Negotiated where
  request : Request
  /-- The key of the output in the map of outputs. -/
  key : String
  port : PortId
deriving DecidableEq

structure Node where
  name : String
  typeName : String
  residency : Residency
  state : NodeState := .constructed
  /-- None once the node has been taken out to run. -/
  body : Option Body := none
  ports : List Port := []
  /-- The position of every port by its key, the latest first. -/
  positions : List (String × Nat) := []
  maps : List PortMap := []
  negotiated : List Negotiated := []

namespace Node
variable {ε : Type}

def find? (n : Node) (key : String) : Option Nat :=
  n.positions.lookup key

def addPort (id : NodeId) (port : Port) (noRoom : ε) : Edit Node ε PortId := do
  match PortId.make? id (← get).ports.length with
  | none => throw noRoom
  | some portId =>
    Edit.change fun n => { n with positions := (port.key, portId.position.val) :: n.positions }
    Edit.change fun n => { n with ports := n.ports ++ [port] }
    return portId

def initialPorts (body : Body) : List Port :=
  body.ports ++ body.maps.flatMap PortMap.initialEntries

def addPorts (id : NodeId) (noRoom : ε) : List Port → Edit Node ε Unit
  | [] => pure ()
  | port :: rest => do
    let _ ← addPort id port noRoom
    addPorts id noRoom rest

def make (id : NodeId) (name : String) (body : Body) : Except BuildError Node :=
  let blank : Node := { name, typeName := body.typeName, residency := body.residency }
  match Edit.run blank (addPorts id (.portLimitReached name) (initialPorts body)) with
  | (.ok (), n) => .ok { n with maps := body.maps, body := some body }
  | (.error e, _) => .error e

def requireMutable (n : Node) : Except BuildError Unit :=
  if n.state.isMutable then .ok () else .error (.alreadyLinked n.name)

def port (n : Node) (position : Nat) : Except BuildError Port :=
  match n.ports[position]? with
  | some port => .ok port
  | none => .error (.unknownPort n.name ("#" ++ toString position))

/-- The name of a port together with that of its node. -/
def qualified (n : Node) (port : Port) : String :=
  n.name ++ "." ++ port.key

def requireDirection (n : Node) (port : Port) (expected : Direction) : Except BuildError Unit :=
  if port.direction = expected then .ok ()
  else .error (.directionMismatch (n.qualified port) expected)

/-- The body, if the node is of the expected kind and has not been taken out. -/
def bodyOf (n : Node) (expected : NodeKind) : Except BuildError Body :=
  match n.body with
  | some body =>
    if body.kind? = some expected then .ok body else .error (.wrongNodeKind n.name expected)
  | none => .error (.wrongNodeKind n.name expected)

def adjust (kind : NodeKind) (change : Body → Body) : Edit Node BuildError Body := do
  Edit.ask requireMutable
  let body ← Edit.ask fun n => n.bodyOf kind
  Edit.change fun n => { n with body := some (change body) }
  Edit.change fun n => { n with state := .configured }
  return change body

end Node

end FrameGraph
