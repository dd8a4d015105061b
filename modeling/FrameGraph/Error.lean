import FrameGraph.Capability
import FrameGraph.Identifier
import FrameGraph.NodeKind
import FrameGraph.Number.Layout
import FrameGraph.Port
import FrameGraph.Text.Quoted

/-!
# Errors

Errors are split by the phase that reports them: `BuildError` while a graph is put together,
`NegotiationError` while an output is requested, `RuntimeError` while the graph runs. A
`PipelineError` is one of the three; an `Error` is what the library reports as a whole, with the
context that was added on the way. Each type has one function `message` with its wording.
-/

namespace FrameGraph
set_option autoImplicit false
open Number Text

inductive BuildError where
  | typeMismatch (output input : String) (produced accepted : List Kind)
  | alreadyLinked (node : String)
  | cyclicDependency (nodes : List String)
  | unknownNode (id : NodeId)
  | unknownPort (node port : String)
  | directionMismatch (port : String) (expected : Direction)
  | inputAlreadyLinked (input : String)
  | duplicateNodeName (name : String)
  | invalidQueueSize (port : String)
  | portLimitReached (node : String)
  | wrongNodeKind (node : String) (expected : NodeKind)
deriving DecidableEq

namespace BuildError

def kindList (kinds : List Kind) : String :=
  bracketed (kinds.map Kind.name)

def message : BuildError → String
  | typeMismatch output input produced accepted =>
    "Type mismatch: " ++ output ++ " produces " ++ kindList produced ++ ", " ++ input ++
      " accepts " ++ kindList accepted
  | alreadyLinked node =>
    "Node '" ++ node ++ "' is already linked; the graph can no longer change"
  | cyclicDependency nodes =>
    "Cycle detected in pipeline graph through nodes " ++ bracketed (nodes.map quote)
  | unknownNode id => "Unknown " ++ id.text
  | unknownPort node port => "Node '" ++ node ++ "' has no port '" ++ port ++ "'"
  | directionMismatch port expected =>
    "Port '" ++ port ++ "' is not an " ++ expected.name ++ " port"
  | inputAlreadyLinked input => "Input '" ++ input ++ "' already has an upstream link"
  | duplicateNodeName name => "A node named '" ++ name ++ "' already exists"
  | invalidQueueSize port => "Queue size for '" ++ port ++ "' must be at least 1"
  | portLimitReached node => "Node '" ++ node ++ "' cannot hold more ports"
  | wrongNodeKind node expected => "Node " ++ node ++ " is not a " ++ expected.name

end BuildError

inductive Axis where
  | width
  | height
deriving DecidableEq, Repr

def Axis.name : Axis → String
  | width => "width"
  | height => "height"

inductive NegotiationError where
  | noCompatibleKind (requested : Kind)
  | scaleOutOfBounds (axis : Axis) (input requested : UInt32)
  | unsupportedResidency (requested available : Residency)
  | unsupportedFrameRate (requested max : Single)
  | duplicateOutputName (name : String)
  | alreadyLinked (node : String)
  | portLimitReached (node : String)
  | unknownNode (id : NodeId)
deriving DecidableEq

def NegotiationError.message : NegotiationError → String
  | noCompatibleKind requested => "Node cannot produce " ++ requested.name
  | scaleOutOfBounds axis input requested =>
    "Requested " ++ axis.name ++ " " ++ toString requested.toNat ++ " is not reachable from " ++
      toString input.toNat ++ " with the scaler bounds"
  | unsupportedResidency requested available =>
    "Node produces on " ++ available.name ++ ", " ++ requested.name ++ " residency requested"
  | unsupportedFrameRate requested max =>
    "Requested " ++ requested.text .plain ++ " fps exceeds the source rate of " ++
      max.text .plain ++ " fps"
  | duplicateOutputName name =>
    "Dynamic output '" ++ name ++ "' already exists for a different request"
  | alreadyLinked node =>
    "Node '" ++ node ++ "' is already linked; no new outputs can be requested"
  | portLimitReached node => "Node '" ++ node ++ "' cannot hold more ports"
  | unknownNode id => "Unknown " ++ id.text

inductive RuntimeError where
  | deviceUnavailable (reason : String)
  | graphRejected (reason : String)
  | queueClosed (queue : String)
  | unknownStream (name : String)
  | invalidQueueSize (queue : String)
  | nodeFailed (node reason : String)
deriving DecidableEq

namespace RuntimeError

def message : RuntimeError → String
  | deviceUnavailable reason => "Device unavailable: " ++ reason
  | graphRejected reason => "Graph rejected: " ++ reason
  | queueClosed queue => "Queue '" ++ queue ++ "' is closed"
  | unknownStream name => "No stream named '" ++ name ++ "'"
  | invalidQueueSize queue => "Queue size for '" ++ queue ++ "' must be at least 1"
  | nodeFailed node reason => "Node '" ++ node ++ "' failed: " ++ reason

/-- Whether the error only says that a queue was torn down. -/
def isClosed : RuntimeError → Bool
  | queueClosed _ => true
  | _ => false

end RuntimeError

inductive PipelineError where
  | build (error : BuildError)
  | negotiation (error : NegotiationError)
  | runtime (error : RuntimeError)
deriving DecidableEq

def PipelineError.message : PipelineError → String
  | build error => error.message
  | negotiation error => error.message
  | runtime error => error.message

inductive Error where
  | config (reason : String)
  | io (reason : String)
  | serialization (reason : String)
  | pipeline (error : PipelineError)
  | withContext (context : String) (inner : Error)
deriving DecidableEq

namespace Error

def message : Error → String
  | config reason => "Configuration error: " ++ reason
  | io reason => "IO error: " ++ reason
  | serialization reason => "Serialization error: " ++ reason
  | pipeline error => error.message
  | withContext context inner => context ++ ": " ++ inner.message

/-- The pipeline error below all added context. -/
def pipelineError? : Error → Option PipelineError
  | pipeline error => some error
  | withContext _ inner => inner.pipelineError?
  | _ => none

/-- Wraps an error in contexts, the first one innermost. -/
def inContexts (error : Error) (contexts : List String) : Error :=
  contexts.foldl (fun inner context => withContext context inner) error

end Error

end FrameGraph
