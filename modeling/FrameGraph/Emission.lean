import FrameGraph.Message

/-!
# Messages on their way in and out of a node

A message enters a node at an input or from the stream of the host that the node serves, and it leaves at
an output or towards that stream.
-/

namespace FrameGraph
set_option autoImplicit false

inductive Place where
  /-- The port with this key. -/
  | port (key : String)
  /-- The stream of the host. -/
  | host
deriving DecidableEq, Repr

structure Emission where
  place : Place
  message : Message
deriving DecidableEq

namespace Emission

def onPort (key : String) (message : Message) : Emission :=
  ⟨.port key, message⟩

def toHost (message : Message) : Emission :=
  ⟨.host, message⟩

end Emission

end FrameGraph
