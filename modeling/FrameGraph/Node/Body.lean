import FrameGraph.Negotiation
import FrameGraph.Node.Bridge
import FrameGraph.Node.Camera
import FrameGraph.Node.NeuralNetwork
import FrameGraph.Node.Producer
import FrameGraph.Node.StreamSync
import FrameGraph.NodeKind

/-!
# What a node is

The body of a node is one of the built-in kinds or a plugin. It says which ports the node has, where it
runs, what it can be asked for and which stream of the host it serves.

* `NodeConfig.body`: a built-in node from its settings.
* `Body.set`: changes a setting, if it is one of this kind of node.
* `Body.resolve`: what the body commits to when it is asked for an output.
* `Body.register`: tells the body of an output that was negotiated.
-/

namespace FrameGraph
set_option autoImplicit false

/-- A node that is defined outside of the library, by what the graph asks of it. It is told of every output that was
negotiated with it, and what it makes of that is its own affair. -/
structure Plugin where
  typeName : String
  ports : List Port
  maps : List PortMap := []
  residency : Residency := .host
  /-- Its answer to a request, by the outputs that it has been told of. -/
  capability : List (String × OutputSpec) → Request → Except NegotiationError OutputSpec :=
    fun _ request => .error (.noCompatibleKind request.kind)
  /-- The stream that it serves, by the outputs that it has been told of. -/
  hostStream : List (String × OutputSpec) → Option HostStream := fun _ => none
  /-- The outputs that it has been told of, with their keys. -/
  registered : List (String × OutputSpec) := []
  /-- The reason for which it fails as soon as it runs; none runs until it is told to stop. -/
  failure : Option String := none

namespace Plugin

/-- A plugin that answers by the rule for sources, whatever it has been told of. -/
def offering (source : Source) (p : Plugin) : Plugin :=
  { p with capability := fun _ => source.resolve }

def register (key : String) (spec : OutputSpec) (p : Plugin) : Plugin :=
  { p with registered := p.registered ++ [(key, spec)] }

end Plugin

inductive Body where
  | camera (camera : Camera)
  | neuralNetwork (config : NeuralNetworkConfig)
  | streamSync (config : StreamSyncConfig)
  | xlinkIn (config : XLinkInConfig)
  | xlinkOut (config : XLinkOutConfig)
  | producer (config : ProducerConfig)
  | plugin (plugin : Plugin)

inductive NodeConfig where
  | camera (config : CameraConfig)
  | neuralNetwork (config : NeuralNetworkConfig)
  | streamSync (config : StreamSyncConfig)
  | xlinkIn (config : XLinkInConfig)
  | xlinkOut (config : XLinkOutConfig)
  | producer (config : ProducerConfig)
deriving DecidableEq

namespace NodeConfig

def kind : NodeConfig → NodeKind
  | camera _ => .camera
  | neuralNetwork _ => .neuralNetwork
  | streamSync _ => .streamSync
  | xlinkIn _ => .xlinkIn
  | xlinkOut _ => .xlinkOut
  | producer _ => .producer

def body : NodeConfig → Body
  | camera c => .camera { config := c }
  | neuralNetwork c => .neuralNetwork c
  | streamSync c => .streamSync c
  | xlinkIn c => .xlinkIn c
  | xlinkOut c => .xlinkOut c
  | producer c => .producer c

end NodeConfig

inductive Setting where
  /-- No change, of a node of the given kind. -/
  | keep (kind : NodeKind)
  | camera (s : CameraSetting)
  | neuralNetwork (s : NeuralNetworkSetting)
  | streamSync (s : StreamSyncSetting)
  | xlinkIn (s : XLinkInSetting)
  | xlinkOut (s : XLinkOutSetting)
  | producer (s : ProducerSetting)
deriving DecidableEq

def Setting.kind : Setting → NodeKind
  | keep kind => kind
  | camera _ => .camera
  | neuralNetwork _ => .neuralNetwork
  | streamSync _ => .streamSync
  | xlinkIn _ => .xlinkIn
  | xlinkOut _ => .xlinkOut
  | producer _ => .producer

namespace Body

def kind? : Body → Option NodeKind
  | camera _ => some .camera
  | neuralNetwork _ => some .neuralNetwork
  | streamSync _ => some .streamSync
  | xlinkIn _ => some .xlinkIn
  | xlinkOut _ => some .xlinkOut
  | producer _ => some .producer
  | plugin _ => none

def typeName (b : Body) : String :=
  match b with
  | plugin p => p.typeName
  | b => (b.kind?.map NodeKind.name).getD ""

def ports : Body → List Port
  | camera _ => Camera.ports
  | neuralNetwork _ => NeuralNetwork.ports
  | streamSync _ => []
  | xlinkIn _ => XLinkInConfig.ports
  | xlinkOut _ => XLinkOutConfig.ports
  | producer _ => ProducerConfig.ports
  | plugin p => p.ports

def maps : Body → List PortMap
  | camera _ => Camera.maps
  | neuralNetwork _ => NeuralNetwork.maps
  | streamSync c => StreamSync.maps c
  | plugin p => p.maps
  | _ => []

def residency : Body → Residency
  | producer _ => .host
  | plugin p => p.residency
  | _ => .device

/-- What the body commits to when it is asked for an output. -/
def resolve (request : Request) : Body → Except NegotiationError OutputSpec
  | camera c => c.source.resolve request
  | plugin p => p.capability p.registered request
  | _ => .error (.noCompatibleKind request.kind)

def register (key : String) (spec : OutputSpec) : Body → Body
  | camera c => camera (c.register key spec)
  | plugin p => plugin (p.register key spec)
  | b => b

def hostStream? : Body → Option HostStream
  | xlinkIn c => some c.hostStream
  | xlinkOut c => some c.hostStream
  | plugin p => p.hostStream p.registered
  | _ => none

/-- The body with a setting changed; unchanged when the setting is of another kind of node. -/
def set (s : Setting) (b : Body) : Body :=
  match s, b with
  | .camera s, camera c => camera { c with config := c.config.set s }
  | .neuralNetwork s, neuralNetwork c => neuralNetwork (c.set s)
  | .streamSync s, streamSync c => streamSync (c.set s)
  | .xlinkIn s, xlinkIn c => xlinkIn (c.set s)
  | .xlinkOut s, xlinkOut c => xlinkOut (c.set s)
  | .producer s, producer c => producer (c.set s)
  | _, b => b

end Body

end FrameGraph
