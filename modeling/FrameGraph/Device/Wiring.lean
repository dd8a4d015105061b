import FrameGraph.Context
import FrameGraph.Graph.Ports

/-!
# Wiring

Before a graph runs, one queue is put behind every input that is linked, and the nodes are told of the
queues behind their ports. The graph knows its ports by node and position, and a node knows its own by
their keys.

* `Bench`: what is wired already, as the links are gone through.
* `Bench.attachInput`, `Bench.attachOutput`: one port more has its queue.
-/

namespace FrameGraph
set_option autoImplicit false

structure Bench where
  /-- The queues that stand already, by their inputs. -/
  placed : List (PortId × QueueId) := []
  /-- What every node has been told so far. -/
  contexts : NodeId → Context

namespace Bench

def update (b : Bench) (id : NodeId) (f : Context → Context) : Bench :=
  { b with contexts := fun other => if id = other then f (b.contexts other) else b.contexts other }

def queue? (b : Bench) (input : PortId) : Option QueueId :=
  b.placed.lookup input

def attachInput (b : Bench) (input : PortId) (key : String) (queue : QueueId) : Bench :=
  { b.update input.node fun c => c.attachInput key queue with placed := b.placed ++ [(input, queue)] }

def attachOutput (b : Bench) (output : PortId) (key : String) (queue : QueueId) : Bench :=
  b.update output.node fun c => c.attachOutput key queue

end Bench

end FrameGraph
