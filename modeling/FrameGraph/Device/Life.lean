import FrameGraph.Device
import FrameGraph.Queue.Waiting

/-!
# The life of a device

While a device runs, its threads, the host, listeners and time itself act in any order, and closing is one more party
among them. A `Move` says who acts; any list of moves is a possible course of events.

* `Device.stepThread`: one step of a thread.
* `Device.teardown`: one step of closing. It tells the threads to stop, closes the queues one by one, waits
  until all threads are gone, and says at last that the device is closed.
* `Device.move` and `Device.course`: one move, and the device after a list of moves.
-/

namespace FrameGraph
set_option autoImplicit false

inductive Move where
  /-- The thread at this place takes a step. -/
  | thread (index : Nat)
  /-- Closing takes a step; the number says which queue is next where any one may be. -/
  | teardown (pick : Nat)
  /-- The host makes a call on a queue. -/
  | call (queue : QueueId) (call : Call Message)
  /-- A listener reads the oldest event. -/
  | listen
  /-- Time passes, in nanoseconds. -/
  | elapse (nanos : Nat)

namespace Device

/-! ## What the threads share -/

/-- An event for which there is no room is lost. -/
def publish (d : Device) (event : DeviceEvent) : Device :=
  if d.events.length < d.eventCapacity then { d with events := d.events ++ [event] } else d

def advanceState (d : Device) (node : NodeId) (state : NodeState) : Device :=
  { d with graph := d.graph.map fun g => g.advanceState node state }

/-! ## Threads -/

/-- One step in a phase: whether it had an effect, the next phase, and the device after it. -/
def stepPhase (d : Device) (node : NodeId) (name : String) (context : Context) :
    Phase → Bool × Phase × Device
  | .entering body => (true, .announcing body, d.advanceState node .running)
  | .announcing body => (true, .begun (Process.start body context d.now), d.publish (.started node name))
  | .working p => match p.result with
    | some result => (true, .afterRun d.running result, d)
    | none =>
      let (deed, p, store) := p.step d.now d.running d.store
      (deed.isEffect, .working p, { d with store })
  | .failing error => (true, .stopping, d.publish (.failed node name error))
  | .stopping => (true, .leaving, d.advanceState node .stopped)
  | .leaving => (true, .gone, d.publish (.stopped node name))
  | .gone => (false, .gone, d)

/-- A place without a thread does nothing. -/
def stepThread (d : Device) (index : Nat) : Bool × Device :=
  match d.threads[index]? with
  | none => (false, d)
  | some t =>
    let (effect, phase, d) := d.stepPhase t.node t.name t.context t.phase
    (effect, { d with threads := d.threads.set index { t with phase } })

/-! ## Closing -/

/-- Marks all nodes as stopped, and tells that the device is closed. -/
def finishClosing (d : Device) : Device :=
  let graph := d.graph.map fun g => g.nodeIds.foldl (fun g id => g.advanceState id .stopped) g
  { d with graph, threads := [], closing := .finished }.publish .closed

def teardown (d : Device) (pick : Nat) : Device :=
  match d.closing with
  | .notBegun => { d with running := false, closing := .closingQueues (List.range d.store.size) }
  | .closingQueues left => match left[pick % left.length]? with
    | some next => { d with store := d.store.close next, closing := .closingQueues (left.erase next) }
    | none => { d with closing := .joining }
  | .joining => if d.threads.all fun t => t.phase.isGone then d.finishClosing else d
  | .finished => d

/-! ## Courses of events -/

def call (d : Device) (queue : QueueId) (call : Call Message) : Reply Message × Device :=
  let (reply, store) := d.store.modify queue .waits fun q => q.perform call
  (reply, { d with store })

def listen (d : Device) : Device :=
  { d with events := d.events.tail }

def elapse (d : Device) (nanos : Nat) : Device :=
  { d with now := d.now + nanos }

def move (d : Device) : Move → Device
  | .thread index => (d.stepThread index).2
  | .teardown pick => d.teardown pick
  | .call queue call => (d.call queue call).2
  | .listen => d.listen
  | .elapse nanos => d.elapse nanos

def course (d : Device) (moves : List Move) : Device :=
  moves.foldl move d

end Device

end FrameGraph
