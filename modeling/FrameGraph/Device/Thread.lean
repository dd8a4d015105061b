import FrameGraph.Process

/-!
# Threads of a device

A device runs every node on a thread of its own, and tells those who listen when a node starts, fails and
stops.

* `DeviceEvent`: what a device tells.
* `Phase` and `Thread`: how far a thread has come.
-/

namespace FrameGraph
set_option autoImplicit false

inductive DeviceEvent where
  | started (node : NodeId) (name : String)
  | failed (node : NodeId) (name : String) (error : RuntimeError)
  | stopped (node : NodeId) (name : String)
  /-- The device is closed, and all its threads are gone. -/
  | closed
deriving DecidableEq

namespace DeviceEvent

def isFailure : DeviceEvent → Bool
  | failed .. => true
  | _ => false

end DeviceEvent

inductive Phase where
  /-- Marks its node as running. -/
  | entering (body : Body)
  /-- Tells that its node has started. -/
  | announcing (body : Body)
  | working (process : Process)
  /-- Tells that its node has failed. -/
  | failing (error : RuntimeError)
  /-- Marks its node as stopped. -/
  | stopping
  /-- Tells that its node has stopped. -/
  | leaving
  | gone

namespace Phase

/-- A run that panics at its beginning takes its thread with it, and nobody is told. -/
def begun : Except Panic Process → Phase
  | .ok process => working process
  | .error _ => gone

/-- What follows on the end of a run. A closed queue is no failure once the device shuts down, because
that is how the nodes that wait are woken. -/
def afterRun (running : Bool) : Except RuntimeError Unit → Phase
  | .ok () => stopping
  | .error e => if e.isClosed && !running then stopping else failing e

def isGone : Phase → Bool
  | gone => true
  | _ => false

def process? : Phase → Option Process
  | working p => some p
  | _ => none

end Phase

structure Thread where
  context : Context
  phase : Phase

namespace Thread

def node (t : Thread) : NodeId :=
  t.context.node

def name (t : Thread) : String :=
  t.context.name

end Thread

end FrameGraph
