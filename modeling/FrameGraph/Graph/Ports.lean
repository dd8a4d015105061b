import FrameGraph.Graph.Basic

/-!
# Ports of a graph

* `Graph.port`, `Graph.portToward`: look-up by key, of any or of one direction.
* `Graph.mapPort`: the entry of a map, which is made when it does not exist yet.
* `Graph.setInputQueue`: the depth and the policy of the queue behind an input.
-/

namespace FrameGraph
set_option autoImplicit false

namespace Node

def mapEntry (n : Node) (direction : Direction) (map key : String) : Except BuildError Port :=
  match n.maps.find? fun m => m.name == map && m.direction == direction with
  | some m => .ok (m.entry key)
  | none => .error (.unknownPort n.name (portKey (some map) key))

def mapPort (id : NodeId) (direction : Direction) (map key : String) : Edit Node BuildError PortId := do
  match (← get).find? (portKey (some map) key) with
  | some position =>
    let port ← Edit.ask fun n => n.port position
    Edit.ask fun n => n.requireDirection port direction
    return .ofNode id position
  | none =>
    Edit.ask requireMutable
    let entry ← Edit.ask fun n => n.mapEntry direction map key
    addPort id entry (.portLimitReached (← get).name)

def requireSize (n : Node) (port : Port) (size : Nat) : Except BuildError Unit :=
  if size = 0 then .error (.invalidQueueSize (n.qualified port)) else .ok ()

def setInputQueue (position : Nat) (size : Nat) (blocking : Bool) : Edit Node BuildError Unit := do
  Edit.ask requireMutable
  let port ← Edit.ask fun n => n.port position
  Edit.ask fun n => n.requireDirection port .input
  Edit.ask fun n => n.requireSize port size
  Edit.change fun n => { n with ports := n.ports.set position { port with queueSize := size, blocking } }

end Node

namespace Graph

def port (g : Graph) (id : NodeId) (key : String) : Except BuildError PortId := do
  let n ← g.node id
  match n.find? key with
  | some position => return .ofNode id position
  | none => throw (.unknownPort n.name key)

def descriptor (g : Graph) (id : PortId) : Except BuildError Port := do
  (← g.node id.node).port id.position

def portToward (g : Graph) (direction : Direction) (id : NodeId) (key : String) :
    Except BuildError PortId := do
  let portId ← g.port id key
  let n ← g.node id
  let port ← n.port portId.position
  n.requireDirection port direction
  return portId

def output (g : Graph) : NodeId → String → Except BuildError PortId :=
  g.portToward .output

def input (g : Graph) : NodeId → String → Except BuildError PortId :=
  g.portToward .input

def ports (g : Graph) (id : NodeId) : Except BuildError (List (PortId × Port)) := do
  let n ← g.node id
  return n.ports.zipIdx.map fun (port, position) => (.ofNode id position, port)

def mapPort (g : Graph) (direction : Direction) (id : NodeId) (map key : String) :
    Except BuildError PortId × Graph :=
  Edit.run g (editNode id (.unknownNode id) (Node.mapPort id direction map key))

def inputMap (g : Graph) : NodeId → String → String → Except BuildError PortId × Graph :=
  g.mapPort .input

def outputMap (g : Graph) : NodeId → String → String → Except BuildError PortId × Graph :=
  g.mapPort .output

def setInputQueue (g : Graph) (id : PortId) (size : Nat) (blocking : Bool) :
    Except BuildError Unit × Graph :=
  Edit.run g (editNode id.node (.unknownNode id.node) (Node.setInputQueue id.position size blocking))

end Graph

end FrameGraph
