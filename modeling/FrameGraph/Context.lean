import FrameGraph.Emission
import FrameGraph.Identifier
import FrameGraph.Queue.Store

/-!
# The surroundings of a running node

A context tells a node which queues stand behind its ports. An input has one queue; an output hands a copy
of every message to each of the queues that are attached to it, in the order in which they were attached.

* `Context.attachInput`, `Context.attachOutput`: connects a port with a queue.
* `Context.deliveries`: the single hand-overs that an emission consists of.
* `Context.send`: makes them all, as far as none has to wait or fails.
-/

namespace FrameGraph
set_option autoImplicit false

structure Context where
  node : NodeId
  name : String
  /-- Nanoseconds that a node waits before it looks again. -/
  pollInterval : Nat
  /-- At most one queue for every input. -/
  inputs : List (String × QueueId) := []
  /-- In the order in which they were attached. -/
  outputs : List (String × QueueId) := []
  /-- The queue of the stream of the host that the node serves. -/
  host : Option QueueId := none
deriving DecidableEq

/-- One message on its way into one queue. -/
structure Delivery where
  place : Place
  queue : QueueId
  message : Message
deriving DecidableEq

namespace Context

/-! ## Attaching queues -/

/-- A queue that is attached to an input takes the place of an earlier one. -/
def attachInput (c : Context) (key : String) (queue : QueueId) : Context :=
  { c with inputs := c.inputs.filter (fun entry => entry.1 != key) ++ [(key, queue)] }

def attachOutput (c : Context) (key : String) (queue : QueueId) : Context :=
  { c with outputs := c.outputs ++ [(key, queue)] }

def setHost (c : Context) (queue : QueueId) : Context :=
  { c with host := some queue }

/-! ## Looking queues up -/

def input? (c : Context) (key : String) : Option QueueId :=
  (c.inputs.find? fun entry => entry.1 == key).map Prod.snd

def consumers (c : Context) (key : String) : List QueueId :=
  (c.outputs.filter fun entry => entry.1 == key).map Prod.snd

def isLinked (c : Context) (key : String) : Bool :=
  c.outputs.any fun entry => entry.1 == key

def hostQueue (c : Context) : Except RuntimeError QueueId :=
  match c.host with
  | some queue => .ok queue
  | none => .error (.unknownStream c.name)

/-- The queues that take in what is sent at a place. -/
def destinations (c : Context) : Place → List QueueId
  | .port key => c.consumers key
  | .host => c.host.toList

/-! ## Sending -/

def deliveries (c : Context) (e : Emission) : List Delivery :=
  (c.destinations e.place).map fun queue => ⟨e.place, queue, e.message⟩

/-- The deliveries up to the first one that fails or has to wait. -/
def deliverAll : List Delivery → QueueStore Message → Attempt Unit × QueueStore Message
  | [], s => (.done (.ok ()), s)
  | d :: rest, s => match s.offer d.queue d.message with
    | (.done (.ok ()), s) => deliverAll rest s
    | stopped => stopped

/-- Sends a message on an output; on one that is not linked this does nothing. -/
def send (c : Context) (key : String) (message : Message) (s : QueueStore Message) :
    Attempt Unit × QueueStore Message :=
  deliverAll (c.deliveries (.onPort key message)) s

end Context

end FrameGraph
