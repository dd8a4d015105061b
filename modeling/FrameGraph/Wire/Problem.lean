import FrameGraph.Data.Datum
import FrameGraph.Error

/-!
# Errors as data

An error goes out as the word for its kind together with its message, and a result either as that or
as its value under `ok`.
-/

namespace FrameGraph.Wire
set_option autoImplicit false
open Data

def problem (kind message : String) : Datum :=
  .record [("error", .text kind), ("message", .text message)]

def ok (d : Datum) : Datum :=
  .record [("ok", d)]

end FrameGraph.Wire

namespace FrameGraph
set_option autoImplicit false
open Data Wire

variable {α : Type}

namespace BuildError

def kindName : BuildError → String
  | typeMismatch .. => "TypeMismatch"
  | alreadyLinked .. => "AlreadyLinked"
  | cyclicDependency .. => "CyclicDependency"
  | unknownNode .. => "UnknownNode"
  | unknownPort .. => "UnknownPort"
  | directionMismatch .. => "DirectionMismatch"
  | inputAlreadyLinked .. => "InputAlreadyLinked"
  | duplicateNodeName .. => "DuplicateNodeName"
  | invalidQueueSize .. => "InvalidQueueSize"
  | portLimitReached .. => "PortLimitReached"
  | wrongNodeKind .. => "WrongNodeKind"

def datum (f : α → Datum) : Except BuildError α → Datum
  | .ok a => ok (f a)
  | .error e => problem e.kindName e.message

end BuildError

namespace NegotiationError

def kindName : NegotiationError → String
  | noCompatibleKind .. => "NoCompatibleKind"
  | scaleOutOfBounds .. => "ScaleOutOfBounds"
  | unsupportedResidency .. => "UnsupportedResidency"
  | unsupportedFrameRate .. => "UnsupportedFrameRate"
  | duplicateOutputName .. => "DuplicateOutputName"
  | alreadyLinked .. => "AlreadyLinked"
  | portLimitReached .. => "PortLimitReached"
  | unknownNode .. => "UnknownNode"

def datum (f : α → Datum) : Except NegotiationError α → Datum
  | .ok a => ok (f a)
  | .error e => problem e.kindName e.message

end NegotiationError

namespace RuntimeError

def kindName : RuntimeError → String
  | deviceUnavailable .. => "DeviceUnavailable"
  | graphRejected .. => "GraphRejected"
  | queueClosed .. => "QueueClosed"
  | unknownStream .. => "UnknownStream"
  | invalidQueueSize .. => "InvalidQueueSize"
  | nodeFailed .. => "NodeFailed"

def datum (f : α → Datum) : Except RuntimeError α → Datum
  | .ok a => ok (f a)
  | .error e => problem e.kindName e.message

end RuntimeError

namespace PipelineError

def kindName : PipelineError → String
  | build e => e.kindName
  | negotiation e => e.kindName
  | runtime e => e.kindName

def layerName : PipelineError → String
  | build _ => "Build"
  | negotiation _ => "Negotiation"
  | runtime _ => "Runtime"

/-- Whether the error only says that a queue was torn down, of those of running graphs. -/
def isClosed? : PipelineError → Option Bool
  | runtime e => some e.isClosed
  | _ => none

end PipelineError

def Error.kindName : Error → String
  | config _ => "Config"
  | io _ => "Io"
  | serialization _ => "Serialization"
  | pipeline _ => "Pipeline"
  | withContext .. => "WithContext"

end FrameGraph
