import FrameGraph.Queue

/-!
# Callers that wait on a queue

A caller whose attempt has to wait falls asleep, a sender until there is room, a receiver until
there is an item. Calls that change the queue wake one sleeper or all of them; a caller that was
woken makes its attempt again at any later moment, and falls asleep again if it still has to wait.
A receiver with a deadline may also leave by it.

* `Call` and `Reply`: the calls of a queue as data, and what they come to; `Queue.perform`.
* `Call.signals`: whom a call wakes.
* `Room`: a queue with its sleeping and its woken callers.
* `Room.step`: one event in a room. `Event` says which caller acts, and a number says which of the
  sleepers is woken where any one may be.
-/

namespace FrameGraph
set_option autoImplicit false
variable {α : Type}

/-! ## Calls and replies -/

inductive Call (α : Type) where
  | send (item : α)
  | trySend (item : α)
  | get
  | getTimeout
  | tryGet
  | tryGetAll
  | resize (capacity : Nat)
  | setBlocking (blocking : Bool)
  | close

inductive Reply (α : Type) where
  | sent (result : Except RuntimeError Unit)
  | accepted (result : Except RuntimeError Bool)
  | got (result : Except RuntimeError α)
  | found (result : Except RuntimeError (Option α))
  | drained (result : Except RuntimeError (List α))
  | resized (result : Except RuntimeError Unit)
  | done
  | waits

def Queue.perform (q : Queue α) : Call α → Reply α × Queue α
  | .send item => match q.offer item with
    | (.done result, q) => (.sent result, q)
    | (.wait, q) => (.waits, q)
  | .trySend item => match q.trySend item with
    | (result, q) => (.accepted result, q)
  | .get => match q.take with
    | (.done result, q) => (.got result, q)
    | (.wait, q) => (.waits, q)
  | .getTimeout => match q.take with
    | (.done result, q) => (.found (result.map some), q)
    | (.wait, q) => (.waits, q)
  | .tryGet => match q.tryTake with
    | (result, q) => (.found result, q)
  | .tryGetAll => match q.drain with
    | (result, q) => (.drained result, q)
  | .resize capacity => match q.resize capacity with
    | (result, q) => (.resized result, q)
  | .setBlocking blocking => (.done, q.setBlocking blocking)
  | .close => (.done, q.close)

/-! ## Waking -/

inductive Wake where
  | nobody
  | one
  | everyone
deriving DecidableEq, Repr

structure Signals where
  receivers : Wake := .nobody
  senders : Wake := .nobody
deriving DecidableEq, Repr

/-- Whom a call wakes, by what it came to. Closing wakes all, but only the first time. -/
def Call.signals (wasClosed : Bool) : Call α → Reply α → Signals
  | _, .sent (.ok _) => { receivers := .one }
  | _, .accepted (.ok true) => { receivers := .one }
  | _, .got (.ok _) => { senders := .one }
  | _, .found (.ok (some _)) => { senders := .one }
  | _, .drained (.ok (_ :: _)) => { senders := .everyone }
  | _, .resized (.ok _) => { senders := .everyone }
  | .setBlocking _, _ => { senders := .everyone }
  | .close, _ => if wasClosed then {} else { receivers := .everyone, senders := .everyone }
  | _, _ => {}

/-- The sleepers that stay asleep, and those that are woken. -/
def Wake.split {β : Type} (pick : Nat) : Wake → List β → List β × List β
  | .nobody, sleepers => (sleepers, [])
  | .everyone, sleepers => ([], sleepers)
  | .one, sleepers =>
    let i := pick % sleepers.length
    (sleepers.eraseIdx i, sleepers[i]?.toList)

/-! ## The waiting room -/

structure Receiver where
  /-- Whether it may leave by a deadline. -/
  timed : Bool
deriving DecidableEq, Repr

def Receiver.call : Receiver → Call α
  | ⟨true⟩ => .getTimeout
  | ⟨false⟩ => .get

structure Room (α : Type) where
  queue : Queue α
  /-- The items of senders that sleep. -/
  sleepingSenders : List α := []
  sleepingReceivers : List Receiver := []
  /-- The items of senders that were woken and have not tried again yet. -/
  wokenSenders : List α := []
  wokenReceivers : List Receiver := []

inductive Event (α : Type) where
  /-- A new caller makes a call. -/
  | call (call : Call α)
  /-- The woken sender at this place tries again. -/
  | resumeSender (index : Nat)
  /-- The woken receiver at this place tries again. -/
  | resumeReceiver (index : Nat)
  /-- The deadline of the sleeping receiver at this place passes. -/
  | expire (index : Nat)

namespace Room

def ofQueue (queue : Queue α) : Room α :=
  { queue }

def sleep (r : Room α) : Call α → Room α
  | .send item => { r with sleepingSenders := r.sleepingSenders ++ [item] }
  | .get => { r with sleepingReceivers := r.sleepingReceivers ++ [⟨false⟩] }
  | .getTimeout => { r with sleepingReceivers := r.sleepingReceivers ++ [⟨true⟩] }
  | _ => r

def wake (r : Room α) (pick : Nat) (signals : Signals) : Room α :=
  let (sleepingReceivers, receivers) := signals.receivers.split pick r.sleepingReceivers
  let (sleepingSenders, senders) := signals.senders.split pick r.sleepingSenders
  { r with
    sleepingReceivers
    sleepingSenders
    wokenReceivers := r.wokenReceivers ++ receivers
    wokenSenders := r.wokenSenders ++ senders }

/-- One attempt of a call: it acts on the queue, and then sleeps or wakes others. -/
def attempt (r : Room α) (pick : Nat) (call : Call α) : Reply α × Room α :=
  let (reply, queue) := r.queue.perform call
  let next := { r with queue }
  match reply with
  | .waits => (.waits, next.sleep call)
  | reply => (reply, next.wake pick (call.signals r.queue.closed reply))

/-- One event. A place at which nobody stands leaves the room as it is. -/
def step (r : Room α) (pick : Nat) : Event α → Reply α × Room α
  | .call call => r.attempt pick call
  | .resumeSender i => match r.wokenSenders[i]? with
    | none => (.done, r)
    | some item =>
      { r with wokenSenders := r.wokenSenders.eraseIdx i }.attempt pick (.send item)
  | .resumeReceiver i => match r.wokenReceivers[i]? with
    | none => (.done, r)
    | some receiver =>
      { r with wokenReceivers := r.wokenReceivers.eraseIdx i }.attempt pick receiver.call
  | .expire i => match r.sleepingReceivers[i]? with
    | some ⟨true⟩ =>
      { r with sleepingReceivers := r.sleepingReceivers.eraseIdx i }.attempt pick .tryGet
    | _ => (.done, r)

/-- What a call came to, and what it brought about for the caller that it woke. -/
structure Exchange (α : Type) where
  reply : Reply α
  woken : Option (Reply α) := none

/-- The retry of the first caller that was woken, if there is one. -/
def resume (r : Room α) : Option (Reply α × Room α) :=
  if !r.wokenSenders.isEmpty then some (r.step 0 (.resumeSender 0))
  else if !r.wokenReceivers.isEmpty then some (r.step 0 (.resumeReceiver 0))
  else none

/-- A call while nobody else acts: a receiver with a deadline leaves by it, and the caller that was
woken tries again at once. A retry that still has to wait is not reported. -/
def exchange (r : Room α) (call : Call α) : Exchange α × Room α :=
  let (reply, next) := r.step 0 (.call call)
  match call, reply with
  | .getTimeout, .waits =>
    let (reply, next) := next.step 0 (.expire r.sleepingReceivers.length)
    (⟨reply, none⟩, next)
  | _, _ => match next.resume with
    | none => (⟨reply, none⟩, next)
    | some (.waits, next) => (⟨reply, none⟩, next)
    | some (woken, next) => (⟨reply, some woken⟩, next)

inductive Reachable : Room α → Prop where
  | start (name : String) (capacity : Nat) (blocking : Bool) :
      Reachable (ofQueue (Queue.make name capacity blocking))
  | step {r : Room α} (h : Reachable r) (pick : Nat) (event : Event α) :
      Reachable (r.step pick event).2

end Room

end FrameGraph
