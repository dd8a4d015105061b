import FrameGraph.Proofs.Queue.Calls

/-!
# Callers that do not wait

A caller that may wait has companions that give up instead, at once or when a deadline passes. In a room with any
callers they come to the same wherever the first one does not have to wait, and otherwise they change nothing.

* `Room.getWithin`: a receiver with a deadline, while nobody else acts. `Room.getWithin_eq_tryGet` says that it is as
  one that gives up at once.
* `Queue.tryTakeEach`: one item after the other until nothing is left. `Queue.drain_eq_tryTakeEach` says that a drain
  takes the same items.
* `Room.trying_agrees`: all the calls that do not wait, against those that may.
-/

namespace FrameGraph
set_option autoImplicit false
variable {α : Type}

/-! ## One item after the other -/

namespace Queue

theorem length_of_tryTake {q next : Queue α} {item : α} (h : q.tryTake = (.ok (some item), next)) :
    next.buffer.length < q.buffer.length := by
  rw [tryTake_eq] at h
  rcases q.take_cases with ⟨_, ht⟩ | ⟨_, _, ht⟩ | ⟨_, first, rest, hbuffer, ht⟩ <;>
    simp only [ht, Except.map, Prod.mk.injEq, Except.ok.injEq, reduceCtorEq, false_and] at h
  rw [← h.2, hbuffer]
  exact Nat.lt_succ_self _

/-- Ends at the first attempt that finds nothing or fails. -/
def tryTakeEach (q : Queue α) : Except RuntimeError (List α) × Queue α :=
  match hq : q.tryTake with
  | (.error e, next) => (.error e, next)
  | (.ok none, next) => (.ok [], next)
  | (.ok (some item), next) =>
    have := length_of_tryTake hq
    let (items, last) := next.tryTakeEach
    (items.map (item :: ·), last)
termination_by q.buffer.length

theorem tryTakeEach_eq (q : Queue α) : q.tryTakeEach = match q.tryTake with
    | (.error e, next) => (.error e, next)
    | (.ok none, next) => (.ok [], next)
    | (.ok (some item), next) => (next.tryTakeEach.1.map (item :: ·), next.tryTakeEach.2) := by
  rw [tryTakeEach]
  split <;> simp only [*]

theorem drain_eq_tryTakeEach (q : Queue α) : q.drain = q.tryTakeEach := by
  obtain ⟨name, capacity, blocking, buffer, closed, dropped⟩ := q
  induction buffer with
  | nil =>
    rw [tryTakeEach_eq]
    cases closed <;> rfl
  | cons item rest ih =>
    rw [tryTakeEach_eq]
    cases closed with
    | true => rfl
    | false =>
      simp only [tryTake, Bool.false_eq_true, if_false, ← ih]
      rfl

end Queue

/-! ## Giving up -/

namespace Room

theorem wake_nobody (r : Room α) (pick : Nat) : r.wake pick {} = r := by
  simp [wake, Wake.split]

theorem attempt_trySend (r : Room α) (pick : Nat) (item : α) :
    r.attempt pick (.trySend item) = match r.attempt pick (.send item) with
      | (.sent result, after) => (.accepted (result.map fun _ => true), after)
      | (.waits, _) => (.accepted (.ok false), r)
      | other => other := by
  rcases r.queue.offer_cases item with ⟨_, h⟩ | ⟨_, _, h⟩ | ⟨_, _, _, h⟩ | ⟨_, _, _, h⟩ <;>
    simp only [attempt, Queue.perform, Queue.trySend_eq, h, Except.map, Call.signals, wake_nobody]

theorem attempt_tryGet (r : Room α) (pick : Nat) :
    r.attempt pick .tryGet = match r.attempt pick .get with
      | (.got result, after) => (.found (result.map some), after)
      | (.waits, _) => (.found (.ok none), r)
      | other => other := by
  rcases r.queue.take_cases with ⟨_, h⟩ | ⟨_, _, h⟩ | ⟨_, first, rest, _, h⟩ <;>
    simp only [attempt, Queue.perform, Queue.tryTake_eq, h, Except.map, Call.signals, wake_nobody]

/-- A receiver with a deadline, which passes before anybody else acts. -/
def getWithin (r : Room α) (pick : Nat) : Reply α × Room α :=
  match r.attempt pick .getTimeout with
  | (.waits, next) => next.step pick (.expire r.sleepingReceivers.length)
  | done => done

/-- The call of a queue on which nobody else acts is this one. -/
theorem reply_exchange_getTimeout (r : Room α) : (r.exchange .getTimeout).1.reply = (r.getWithin 0).1 := by
  unfold exchange getWithin
  simp only [step]
  rcases hattempt : r.attempt 0 .getTimeout with ⟨reply, next⟩
  cases reply <;> simp only <;> split <;> rfl

/-- The receiver that has just fallen asleep leaves by its deadline. -/
theorem expire_last (r : Room α) (pick : Nat) :
    ({ r with sleepingReceivers := r.sleepingReceivers ++ [⟨true⟩] } : Room α).step pick
      (.expire r.sleepingReceivers.length) = r.attempt pick .tryGet := by
  simp [step, List.eraseIdx_append_of_length_le]

theorem getWithin_eq_tryGet (r : Room α) (pick : Nat) : r.getWithin pick = r.attempt pick .tryGet := by
  have hlast := r.expire_last pick
  rcases r.queue.take_cases with ⟨_, h⟩ | ⟨_, _, h⟩ | ⟨_, first, rest, _, h⟩ <;>
    simp only [getWithin, attempt, Queue.perform, h, Except.map, Call.signals, sleep, hlast] <;>
    simp only [Queue.tryTake_eq, h, Except.map]

/-- A call that does not wait comes to what the one that may wait comes to, with all that this brings about for the
others, and where that one has to wait it says so and changes nothing. So does a receiver with a deadline while nobody
else acts. A drain gives out what one receiver after the other would get, until there is nothing left. -/
theorem trying_agrees (r : Room α) (pick : Nat) :
    (∀ item, r.attempt pick (.trySend item) = match r.attempt pick (.send item) with
      | (.sent result, after) => (.accepted (result.map fun _ => true), after)
      | (.waits, _) => (.accepted (.ok false), r)
      | other => other) ∧
    (r.attempt pick .tryGet = match r.attempt pick .get with
      | (.got result, after) => (.found (result.map some), after)
      | (.waits, _) => (.found (.ok none), r)
      | other => other) ∧
    r.getWithin pick = r.attempt pick .tryGet ∧
    (r.attempt pick .tryGetAll).1 = .drained r.queue.tryTakeEach.1 ∧
    (r.attempt pick .tryGetAll).2.queue = r.queue.tryTakeEach.2 := by
  have hdrain : r.queue.perform .tryGetAll = (.drained r.queue.tryTakeEach.1, r.queue.tryTakeEach.2) := by
    rw [← Queue.drain_eq_tryTakeEach]
    rfl
  refine ⟨r.attempt_trySend pick, r.attempt_tryGet pick, r.getWithin_eq_tryGet pick, ?_, ?_⟩
  · simp only [attempt, hdrain]
  · simp only [attempt, hdrain, wake]

/-- Three callers at a full queue that blocks. -/
example :
    let full : Room Nat := .ofQueue { name := "q", capacity := 2, blocking := true, buffer := [1, 2] }
    full.attempt 0 (.send 3) = (.waits, { full with sleepingSenders := [3] }) ∧
      full.attempt 0 (.trySend 3) = (.accepted (.ok false), full) ∧ (full.getWithin 0).1 = .found (.ok (some 1)) :=
  ⟨rfl, rfl, rfl⟩

end Room

end FrameGraph
