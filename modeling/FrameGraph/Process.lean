import FrameGraph.Process.Work

/-!
# Running nodes

A process is a node that runs. It goes over its agenda in passes: it takes messages and looks at the
clock, and whatever it sends for one of them is delivered before it looks further. It ends at the start
of a pass when it is told to stop or has nothing left to do, and at once when a queue that it uses is
closed.

* `Process.start`: a node at the beginning of its run, unless it panics there.
* `Process.step`: one smallest step, so that processes may take turns at every point. `Deed` says what
  the step came to.
-/

namespace FrameGraph
set_option autoImplicit false

inductive Deed where
  /-- A message was taken from a queue. -/
  | took (place : Place) (queue : QueueId) (message : Message)
  /-- Something was due by the clock. -/
  | ticked
  | delivered (delivery : Delivery)
  /-- The process ended in this step. -/
  | ended (result : Except RuntimeError Unit)
  /-- Nothing was found where the process looked, or a new pass began. -/
  | looked
  /-- A queue is full, and the delivery has to wait. -/
  | blocked
  /-- The process had ended before. -/
  | rested

/-- Whether a step did something that others or later steps can notice. -/
def Deed.isEffect : Deed → Bool
  | looked | blocked | rested => false
  | _ => true

structure Process where
  context : Context
  work : Work
  agenda : Agenda
  /-- What is left to do in this pass. -/
  todo : Agenda := []
  /-- What is sent and not delivered yet. -/
  outbox : List Delivery := []
  /-- How the run ended, once it has. -/
  result : Option (Except RuntimeError Unit) := none

namespace Process

def ofBeginning (context : Context) : Beginning → Process
  | .ended result => { context, work := .idle, agenda := [], result := some result }
  | .working work agenda => { context, work, agenda }

def start (body : Body) (context : Context) (now : Nat) : Except Panic Process :=
  (body.begin context now).map (ofBeginning context)

/-- Ends the run. What is not delivered yet is lost. -/
def finish (p : Process) (result : Except RuntimeError Unit) : Process :=
  { p with todo := [], outbox := [], result := some result }

/-- The process with its work after a message or a tick, and with what it sends for it. -/
def respond (p : Process) (emissions : List Emission) (work : Work) : Process :=
  { p with work, outbox := emissions.flatMap p.context.deliveries }

/-- The process when a delivery has been made, and these are left. -/
def handedOver (p : Process) (now : Nat) (rest : List Delivery) : Process :=
  { p with outbox := rest, work := if rest.isEmpty then p.work.handedOver now else p.work }

def deliver (p : Process) (now : Nat) (d : Delivery) (rest : List Delivery) (store : QueueStore Message) :
    Deed × Process × QueueStore Message :=
  match store.offer d.queue d.message with
  | (.wait, store) => (.blocked, p, store)
  | (.done (.ok ()), store) => (.delivered d, p.handedOver now rest, store)
  | (.done (.error e), store) => (.ended (.error e), p.finish (.error e), store)

def look (p : Process) (now : Nat) (place : Place) (queue : QueueId) (repeatedly : Bool) (rest : Agenda)
    (store : QueueStore Message) : Deed × Process × QueueStore Message :=
  match store.tryTake queue with
  | (.error e, store) => (.ended (.error e), p.finish (.error e), store)
  | (.ok none, store) => (.looked, { p with todo := rest }, store)
  | (.ok (some m), store) =>
    let (emissions, work) := p.work.receive now place m
    let p := if repeatedly then p else { p with todo := rest }
    (.took place queue m, p.respond emissions work, store)

def lookAtClock (p : Process) (now : Nat) (rest : Agenda) : Deed × Process :=
  let p := { p with todo := rest }
  match p.work.tick? now with
  | none => (.looked, p)
  | some (emissions, work) => (.ticked, p.respond emissions work)

def beginPass (p : Process) (running : Bool) : Deed × Process :=
  if !running || p.work.isDone then (.ended (.ok ()), p.finish (.ok ()))
  else (.looked, { p with todo := p.agenda })

/-- One step at a time of the clock, among the queues that all processes share. -/
def step (p : Process) (now : Nat) (running : Bool) (store : QueueStore Message) :
    Deed × Process × QueueStore Message :=
  match p.result, p.outbox, p.todo with
  | some _, _, _ => (.rested, p, store)
  | none, d :: rest, _ => p.deliver now d rest store
  | none, [], .look place queue repeatedly :: rest => p.look now place queue repeatedly rest store
  | none, [], .clock :: rest =>
    let (deed, p) := p.lookAtClock now rest
    (deed, p, store)
  | none, [], [] =>
    let (deed, p) := p.beginPass running
    (deed, p, store)

def due? (p : Process) : Option Nat :=
  if p.result.isSome || p.work.isDone then none
  else if p.agenda.contains .clock then p.work.due? else none

/-- Steps after which a process that does nothing has looked everywhere. -/
def patience (p : Process) : Nat :=
  p.agenda.length + 1

end Process

end FrameGraph
