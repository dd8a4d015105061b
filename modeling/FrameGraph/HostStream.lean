/-!
# Streams of the host

A bridge node connects the graph with a named stream of the host.
-/

namespace FrameGraph
set_option autoImplicit false

inductive HostStream where
  /-- From the graph to the host. -/
  | output (name : String)
  /-- From the host to the graph, through a queue of the given depth. -/
  | input (name : String) (queueSize : Nat) (blocking : Bool)
deriving DecidableEq, Repr

def HostStream.name : HostStream → String
  | output name => name
  | input name _ _ => name

end FrameGraph
