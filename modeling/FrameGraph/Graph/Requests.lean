import FrameGraph.Graph.Basic

/-!
# Requesting outputs

A request that a node has answered before gets the same port again. A new one is resolved by the body of
the node, and becomes an entry of the node's first map of outputs.

* `Node.answered?`: the earlier answer to a request.
* `Node.freshKey`: the smallest number that is free as a key of a map. A node has at most `maxPortsPerNode` ports, so it
  is not above that.
* `Graph.requestOutput`: the port that serves a request.
-/

namespace FrameGraph
set_option autoImplicit false

namespace Node

/-- The same profile, under the name that is asked for if one is. -/
def answered? (n : Node) (request : Request) : Option Negotiated :=
  n.negotiated.find? fun e =>
    e.request.sameProfile request && request.name.all fun name => name == e.key

def outputMap? (n : Node) : Option PortMap :=
  n.maps.find? fun m => m.direction == .output

def freshKey (n : Node) (map : String) : String :=
  match (List.range (n.ports.length + 1)).find? fun i =>
    (n.find? (portKey (some map) (toString i))).isNone with
  | some i => toString i
  | none => ""

/-- The key under which a request is answered. -/
def keyFor (n : Node) (map : String) (request : Request) : Except NegotiationError String :=
  match request.name with
  | none => .ok (n.freshKey map)
  | some name =>
    if (n.find? (portKey (some map) name)).isSome then .error (.duplicateOutputName name) else .ok name

/-- The port for an output. It is made by the first map with the name of the map of outputs. -/
def outputPort (n : Node) (map : PortMap) (key : String) (spec : OutputSpec) : Port :=
  let m := (n.maps.find? fun m => m.name == map.name).getD map
  { m.entry key with types := [.exactly spec.kind] }

/-- What the node commits to; nothing once its body has been taken out. -/
def resolve (n : Node) (request : Request) : Except NegotiationError OutputSpec :=
  match n.body with
  | some body => body.resolve request
  | none => .error (.noCompatibleKind request.kind)

def requestable (n : Node) : Except NegotiationError Unit :=
  if n.state.isMutable then .ok () else .error (.alreadyLinked n.name)

/-- The map in which requested outputs are entered. -/
def requestMap (n : Node) (request : Request) : Except NegotiationError PortMap :=
  match n.outputMap? with
  | some map => .ok map
  | none => .error (.noCompatibleKind request.kind)

def requestOutput (id : NodeId) (request : Request) : Edit Node NegotiationError PortId := do
  Edit.ask requestable
  match (← get).answered? request with
  | some earlier => return earlier.port
  | none =>
    let map ← Edit.ask fun n => n.requestMap request
    let key ← Edit.ask fun n => n.keyFor map.name request
    let spec ← Edit.ask fun n => n.resolve request
    let n ← get
    let port ← addPort id (n.outputPort map key spec) (.portLimitReached n.name)
    Edit.change fun n => { n with body := n.body.map (Body.register key spec) }
    Edit.change fun n => { n with negotiated := n.negotiated ++ [⟨request, key, port⟩] }
    return port

end Node

namespace Graph

def requestOutput (g : Graph) (id : NodeId) (request : Request) :
    Except NegotiationError PortId × Graph :=
  Edit.run g (editNode id (.unknownNode id) (Node.requestOutput id request))

end Graph

end FrameGraph
