import FrameGraph.Error
import FrameGraph.Panic

/-!
# Bounded queues

One queue stands behind every linked input and every stream of the host. A full blocking queue makes
its senders wait, a full non-blocking one drops its oldest item. Closing is final: it discards what
is buffered, and from then on every call fails.

* `Queue.create`: a new queue, unless it is to have more room than can be addressed.
* `Queue.offer` and `Queue.take`: one attempt to send or to receive. `Attempt.wait` says that the
  caller has to wait and that nothing has changed.
* `Queue.trySend`, `Queue.tryTake`, `Queue.drain`: the calls that never wait.
* `Queue.resize`, `Queue.setBlocking`, `Queue.close`: changes of the queue itself.
-/

namespace FrameGraph
set_option autoImplicit false

structure Queue (α : Type) where
  name : String
  capacity : Nat
  blocking : Bool
  buffer : List α := []
  closed : Bool := false
  /-- Items that were dropped to make room so far. -/
  dropped : Nat := 0
deriving DecidableEq

/-- What one attempt of a call that may wait comes to. -/
inductive Attempt (β : Type) where
  | done (result : Except RuntimeError β)
  | wait

namespace Queue
variable {α : Type}

/-- A new queue has room for at least one item. -/
def make (name : String) (capacity : Nat) (blocking : Bool) : Queue α :=
  { name, capacity := max capacity 1, blocking }

/-- The most items that a new queue can have room for: eight bytes are set aside for each of them, and no
more than `2 ^ 63 - 1` bytes at once. -/
def maxCapacity : Nat := 9223372036854775807 / 8

/-- The room of a new queue is set aside at once. -/
def create (name : String) (capacity : Nat) (blocking : Bool) : Except Panic (Queue α) :=
  let q := make name capacity blocking
  if q.capacity ≤ maxCapacity then .ok q else .error .capacityOverflow

def closedError (q : Queue α) : RuntimeError :=
  .queueClosed q.name

def full (q : Queue α) : Bool :=
  decide (q.capacity ≤ q.buffer.length)

def push (q : Queue α) (item : α) : Queue α :=
  { q with buffer := q.buffer ++ [item] }

def dropOldest (q : Queue α) : Queue α :=
  { q with buffer := q.buffer.tail, dropped := q.dropped + 1 }

/-! ## Calls that may wait -/

def offer (q : Queue α) (item : α) : Attempt Unit × Queue α :=
  if q.closed then (.done (.error q.closedError), q)
  else if !q.full then (.done (.ok ()), q.push item)
  else if !q.blocking then (.done (.ok ()), q.dropOldest.push item)
  else (.wait, q)

def take (q : Queue α) : Attempt α × Queue α :=
  if q.closed then (.done (.error q.closedError), q)
  else match q.buffer with
    | [] => (.wait, q)
    | item :: rest => (.done (.ok item), { q with buffer := rest })

/-! ## Calls that never wait -/

/-- Answers whether the item was taken in. -/
def trySend (q : Queue α) (item : α) : Except RuntimeError Bool × Queue α :=
  if q.closed then (.error q.closedError, q)
  else if q.full then
    if q.blocking then (.ok false, q) else (.ok true, q.dropOldest.push item)
  else (.ok true, q.push item)

def tryTake (q : Queue α) : Except RuntimeError (Option α) × Queue α :=
  if q.closed then (.error q.closedError, q)
  else match q.buffer with
    | [] => (.ok none, q)
    | item :: rest => (.ok (some item), { q with buffer := rest })

def drain (q : Queue α) : Except RuntimeError (List α) × Queue α :=
  if q.closed then (.error q.closedError, q)
  else (.ok q.buffer, { q with buffer := [] })

/-! ## Changes of the queue -/

/-- Shrinking drops the oldest surplus. -/
def resize (q : Queue α) (capacity : Nat) : Except RuntimeError Unit × Queue α :=
  if capacity = 0 then (.error (.invalidQueueSize q.name), q)
  else
    let surplus := q.buffer.length - capacity
    (.ok (), { q with
      capacity
      buffer := q.buffer.drop surplus
      dropped := q.dropped + surplus })

def setBlocking (q : Queue α) (blocking : Bool) : Queue α :=
  { q with blocking }

def close (q : Queue α) : Queue α :=
  { q with closed := true, buffer := [] }

/-! ## Reports -/

def report (q : Queue α) : String :=
  "MessageQueue \x7b name: " ++ Text.quote q.name ++ ", len: " ++ toString q.buffer.length ++
    ", max_size: " ++ toString q.capacity ++ ", blocking: " ++ toString q.blocking ++
    ", closed: " ++ toString q.closed ++ " \x7d"

end Queue

end FrameGraph
