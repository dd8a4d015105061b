import FrameGraph.Queue.Waiting

/-!
# What one attempt does to a queue

* `Queue.offer_cases`, `Queue.take_cases`: all outcomes of an attempt to send or to receive.
* `Queue.trySend_eq`, `Queue.tryTake_eq`, `Queue.perform_queue`: the calls that never wait do the same.
* `Queue.Change`: the ways in which an attempt changes a queue, with the items that go in and out.
  `Queue.perform_change` says that there are no others.
* `Queue.dropped_perform`, `Queue.closed_perform`: when items are dropped, and when a queue is closed.
-/

namespace FrameGraph
set_option autoImplicit false
variable {α : Type}

namespace Queue

/-! ## Calls one by one -/

theorem offer_cases (q : Queue α) (item : α) :
    (q.closed = true ∧ q.offer item = (.done (.error q.closedError), q)) ∨
    (q.closed = false ∧ q.buffer.length < q.capacity ∧ q.offer item = (.done (.ok ()), q.push item)) ∨
    (q.closed = false ∧ q.capacity ≤ q.buffer.length ∧ q.blocking = false ∧
      q.offer item = (.done (.ok ()), q.dropOldest.push item)) ∨
    (q.closed = false ∧ q.capacity ≤ q.buffer.length ∧ q.blocking = true ∧
      q.offer item = (.wait, q)) := by
  cases hclosed : q.closed with
  | true => exact .inl ⟨rfl, by simp [offer, hclosed]⟩
  | false =>
    by_cases hfull : q.capacity ≤ q.buffer.length
    · cases hblocking : q.blocking with
      | false => exact .inr (.inr (.inl ⟨rfl, hfull, rfl, by simp [offer, hclosed, full, hfull, hblocking]⟩))
      | true => exact .inr (.inr (.inr ⟨rfl, hfull, rfl, by simp [offer, hclosed, full, hfull, hblocking]⟩))
    · exact .inr (.inl ⟨rfl, by omega, by simp [offer, hclosed, full, hfull]⟩)

theorem take_cases (q : Queue α) :
    (q.closed = true ∧ q.take = (.done (.error q.closedError), q)) ∨
    (q.closed = false ∧ q.buffer = [] ∧ q.take = (.wait, q)) ∨
    (q.closed = false ∧ ∃ item rest, q.buffer = item :: rest ∧
      q.take = (.done (.ok item), { q with buffer := rest })) := by
  cases hclosed : q.closed with
  | true => exact .inl ⟨rfl, by simp [take, hclosed]⟩
  | false =>
    cases hbuffer : q.buffer with
    | nil => exact .inr (.inl ⟨rfl, rfl, by simp [take, hclosed, hbuffer]⟩)
    | cons item rest => exact .inr (.inr ⟨rfl, item, rest, rfl, by simp [take, hclosed, hbuffer]⟩)

theorem drain_cases (q : Queue α) :
    (q.closed = true ∧ q.drain = (.error q.closedError, q)) ∨
    (q.closed = false ∧ q.drain = (.ok q.buffer, { q with buffer := [] })) := by
  cases hclosed : q.closed with
  | true => exact .inl ⟨rfl, by simp [drain, hclosed]⟩
  | false => exact .inr ⟨rfl, by simp [drain, hclosed]⟩

/-- `trySend` is `offer`, with `false` for an attempt that would have to wait. -/
theorem trySend_eq (q : Queue α) (item : α) :
    q.trySend item = match q.offer item with
      | (.done result, next) => (result.map fun _ => true, next)
      | (.wait, next) => (.ok false, next) := by
  cases hclosed : q.closed <;> cases hfull : q.full <;> cases hblocking : q.blocking <;>
    simp [trySend, offer, hclosed, hfull, hblocking, Except.map]

/-- `tryTake` is `take`, with `none` for an attempt that would have to wait. -/
theorem tryTake_eq (q : Queue α) :
    q.tryTake = match q.take with
      | (.done result, next) => (result.map some, next)
      | (.wait, next) => (.ok none, next) := by
  cases hclosed : q.closed <;> cases hbuffer : q.buffer <;>
    simp [tryTake, take, hclosed, hbuffer, Except.map]

/-- A call that may wait and the one that never does leave the same queue. -/
theorem perform_queue (q : Queue α) (call : Call α) :
    (q.perform call).2 = match call with
      | .send item | .trySend item => (q.offer item).2
      | .get | .getTimeout | .tryGet => q.take.2
      | .tryGetAll => q.drain.2
      | .resize capacity => (q.resize capacity).2
      | .setBlocking blocking => q.setBlocking blocking
      | .close => q.close := by
  cases call with
  | send item | trySend item =>
    rcases h : q.offer item with ⟨_ | _, next⟩ <;> simp only [perform, trySend_eq, h]
  | get | getTimeout | tryGet =>
    rcases h : q.take with ⟨_ | _, next⟩ <;> simp only [perform, tryTake_eq, h]
  | tryGetAll | resize | setBlocking | close => rfl

end Queue

/-! ## Items that go in and out -/

def Call.taken : Call α → Reply α → List α
  | .send item, .sent (.ok _) => [item]
  | .trySend item, .accepted (.ok true) => [item]
  | _, _ => []

def Reply.given : Reply α → List α
  | .got (.ok item) => [item]
  | .found (.ok (some item)) => [item]
  | .drained (.ok items) => items
  | _ => []

/-- Whether a call is there to send or to receive. -/
def Call.carries : Call α → Bool
  | .resize _ | .setBlocking _ | .close => false
  | _ => true

def Reply.error? : Reply α → Option RuntimeError
  | .sent (.error e) | .accepted (.error e) | .got (.error e) | .found (.error e)
  | .drained (.error e) | .resized (.error e) => some e
  | _ => none

namespace Queue

/-- How an attempt changes a queue: `Change q taken given next`. -/
inductive Change (q : Queue α) : List α → List α → Queue α → Prop where
  | nothing : Change q [] [] q
  | takesIn (item : α) (hopen : q.closed = false) (hroom : q.buffer.length < q.capacity) :
      Change q [item] [] (q.push item)
  | takesInDropping (item : α) (hopen : q.closed = false) (hfull : q.capacity ≤ q.buffer.length)
      (hblocking : q.blocking = false) : Change q [item] [] (q.dropOldest.push item)
  | givesOne (item : α) (rest : List α) (hopen : q.closed = false) (hbuffer : q.buffer = item :: rest) :
      Change q [] [item] { q with buffer := rest }
  | givesAll (hopen : q.closed = false) : Change q [] q.buffer { q with buffer := [] }
  | resizes (capacity : Nat) (hpos : capacity ≠ 0) :
      Change q [] [] { q with
        capacity
        buffer := q.buffer.drop (q.buffer.length - capacity)
        dropped := q.dropped + (q.buffer.length - capacity) }
  | switches (blocking : Bool) : Change q [] [] (q.setBlocking blocking)
  | closes : Change q [] [] q.close

theorem perform_change (q : Queue α) (call : Call α) :
    q.Change (call.taken (q.perform call).1) (q.perform call).1.given (q.perform call).2 := by
  cases call with
  | send item | trySend item =>
    rcases q.offer_cases item with ⟨_, h⟩ | ⟨hopen, hroom, h⟩ | ⟨hopen, hfull, hblocking, h⟩ |
      ⟨_, _, _, h⟩ <;>
      simp only [perform, trySend_eq, h, Except.map]
    · exact .nothing
    · exact .takesIn item hopen hroom
    · exact .takesInDropping item hopen hfull hblocking
    · exact .nothing
  | get | getTimeout | tryGet =>
    rcases q.take_cases with ⟨_, h⟩ | ⟨_, _, h⟩ | ⟨hopen, item, rest, hbuffer, h⟩ <;>
      simp only [perform, tryTake_eq, h, Except.map]
    · exact .nothing
    · exact .nothing
    · exact .givesOne item rest hopen hbuffer
  | tryGetAll =>
    rcases q.drain_cases with ⟨_, h⟩ | ⟨hopen, h⟩ <;> simp only [perform, h]
    · exact .nothing
    · exact .givesAll hopen
  | resize capacity =>
    by_cases hpos : capacity = 0 <;> simp only [perform, resize, hpos]
    · exact .nothing
    · exact .resizes capacity hpos
  | setBlocking blocking => exact .switches blocking
  | close => exact .closes

theorem Change.bounded {q next : Queue α} {taken given : List α} (h : q.Change taken given next)
    (hpos : 1 ≤ q.capacity) (hbound : q.buffer.length ≤ q.capacity) :
    1 ≤ next.capacity ∧ next.buffer.length ≤ next.capacity := by
  cases h with
  | nothing => exact ⟨hpos, hbound⟩
  | takesIn item _ hroom =>
    refine ⟨hpos, ?_⟩
    simp only [push, List.length_append, List.length_singleton]
    omega
  | takesInDropping item _ hfull _ =>
    refine ⟨hpos, ?_⟩
    simp only [push, dropOldest, List.length_append, List.length_tail, List.length_singleton]
    omega
  | givesOne item rest _ hbuffer =>
    refine ⟨hpos, ?_⟩
    rw [hbuffer, List.length_cons] at hbound
    exact Nat.le_of_succ_le hbound
  | givesAll => exact ⟨hpos, Nat.zero_le _⟩
  | resizes capacity hne =>
    refine ⟨Nat.one_le_iff_ne_zero.mpr hne, ?_⟩
    simp only [List.length_drop]
    omega
  | switches => exact ⟨hpos, hbound⟩
  | closes => exact ⟨hpos, Nat.zero_le _⟩

/-- While a queue stays open, items leave it only at the front. Each of them is given out or counted. -/
theorem Change.front {q next : Queue α} {taken given : List α} (h : q.Change taken given next)
    (hpos : 1 ≤ q.capacity) (hopen : next.closed = false) :
    q.closed = false ∧ ∃ gone, q.buffer ++ taken = gone ++ next.buffer ∧
      q.dropped + gone.length = next.dropped + given.length ∧ given.Sublist gone := by
  cases h with
  | nothing => exact ⟨hopen, [], by simp⟩
  | takesIn item hq _ => exact ⟨hq, [], by simp [push]⟩
  | takesInDropping item hq hfull _ =>
    obtain ⟨first, rest, hbuffer⟩ := List.exists_cons_of_length_pos (Nat.le_trans hpos hfull)
    exact ⟨hq, [first], by simp [push, dropOldest, hbuffer]⟩
  | givesOne item rest hq hbuffer => exact ⟨hq, [item], by simp [hbuffer]⟩
  | givesAll hq => exact ⟨hq, q.buffer, by simp⟩
  | resizes capacity _ =>
    refine ⟨hopen, q.buffer.take (q.buffer.length - capacity), ?_, ?_, List.nil_sublist _⟩
    · simp
    · simp only [List.length_take, List.length_nil]
      omega
  | switches => exact ⟨hopen, [], by simp [setBlocking]⟩
  | closes => cases hopen

/-- A closed queue stays as it is; at most its settings change. -/
theorem Change.of_closed {q next : Queue α} {taken given : List α} (h : q.Change taken given next)
    (hclosed : q.closed = true) (hempty : q.buffer = []) :
    taken = [] ∧ given = [] ∧ next.closed = true ∧ next.buffer = [] ∧ next.dropped = q.dropped := by
  cases h with
  | nothing => exact ⟨rfl, rfl, hclosed, hempty, rfl⟩
  | takesIn _ hopen | takesInDropping _ hopen | givesOne _ _ hopen | givesAll hopen =>
    rw [hclosed] at hopen
    cases hopen
  | resizes => exact ⟨rfl, rfl, hclosed, by simp [hempty], by simp [hempty]⟩
  | switches => exact ⟨rfl, rfl, hclosed, hempty, rfl⟩
  | closes => exact ⟨rfl, rfl, rfl, rfl, rfl⟩

theorem Change.stays_closed {q next : Queue α} {taken given : List α} (h : q.Change taken given next)
    (hclosed : q.closed = true) : next.closed = true := by
  cases h <;> first | exact hclosed | rfl

theorem Change.closed_of_taken {q next : Queue α} {item : α} {given : List α} (h : q.Change [item] given next) :
    next.closed = q.closed := by
  cases h <;> rfl

theorem Change.of_closing {q next : Queue α} {taken given : List α} (h : q.Change taken given next)
    (hopen : q.closed = false) (hclosed : next.closed = true) :
    taken = [] ∧ given = [] ∧ next.buffer = [] := by
  cases h with
  | closes => exact ⟨rfl, rfl, rfl⟩
  | _ =>
    simp only [push, dropOldest, setBlocking, hopen] at hclosed
    cases hclosed

/-- The items that a call drops: one for an item that is taken in by a full queue that does not block, and
the surplus when the queue shrinks. -/
def losses (q : Queue α) : Call α → Nat
  | .send _ | .trySend _ => if !q.closed && q.full && !q.blocking then 1 else 0
  | .resize capacity => if capacity = 0 then 0 else q.buffer.length - capacity
  | _ => 0

theorem dropped_perform (q : Queue α) (call : Call α) :
    (q.perform call).2.dropped = q.dropped + q.losses call := by
  rw [perform_queue]
  cases call with
  | send item | trySend item =>
    rcases q.offer_cases item with ⟨hclosed, h⟩ | ⟨_, hroom, h⟩ | ⟨hopen, hfull, hblocking, h⟩ |
      ⟨_, _, hblocking, h⟩
    · simp [h, losses, hclosed]
    · simp [h, losses, full, push, Nat.not_le.mpr hroom]
    · simp [h, losses, full, push, dropOldest, hopen, hfull, hblocking]
    · simp [h, losses, hblocking]
  | get | getTimeout | tryGet =>
    rcases q.take_cases with ⟨_, h⟩ | ⟨_, _, h⟩ | ⟨_, item, rest, _, h⟩ <;> simp [h, losses]
  | tryGetAll => rcases q.drain_cases with ⟨_, h⟩ | ⟨_, h⟩ <;> simp [h, losses]
  | resize capacity => by_cases hpos : capacity = 0 <;> simp [resize, losses, hpos]
  | setBlocking blocking => rfl
  | close => rfl

theorem Change.name_eq {q next : Queue α} {taken given : List α} (h : q.Change taken given next) :
    next.name = q.name := by
  cases h <;> rfl

theorem losses_eq_zero {q : Queue α} {call : Call α} (hblocking : q.blocking = true)
    (hbound : q.buffer.length ≤ q.capacity) (hgrow : q.capacity ≤ (q.perform call).2.capacity) :
    q.losses call = 0 := by
  cases call with
  | send | trySend => simp [losses, hblocking]
  | resize capacity =>
    by_cases hpos : capacity = 0
    · simp [losses, hpos]
    · simp only [perform, resize, if_neg hpos] at hgrow
      simp only [losses, if_neg hpos]
      omega
  | get | getTimeout | tryGet | tryGetAll | setBlocking | close => rfl

theorem closed_perform (q : Queue α) (call : Call α) :
    (q.perform call).2.closed = true ↔ q.closed = true ∨ call = .close := by
  rw [perform_queue]
  cases call with
  | send item | trySend item =>
    rcases q.offer_cases item with ⟨_, h⟩ | ⟨_, _, h⟩ | ⟨_, _, _, h⟩ | ⟨_, _, _, h⟩ <;>
      simp [h, push, dropOldest]
  | get | getTimeout | tryGet =>
    rcases q.take_cases with ⟨_, h⟩ | ⟨_, _, h⟩ | ⟨_, item, rest, _, h⟩ <;> simp [h]
  | tryGetAll => rcases q.drain_cases with ⟨_, h⟩ | ⟨_, h⟩ <;> simp [h]
  | resize capacity => by_cases hpos : capacity = 0 <;> simp [resize, hpos]
  | setBlocking blocking => simp [setBlocking]
  | close => simp [close]

/-- An attempt that has to wait changes nothing: a full queue blocks it, or an empty one. -/
theorem waits_cases {q : Queue α} {call : Call α} (h : (q.perform call).1 = .waits) :
    (q.perform call).2 = q ∧ q.closed = false ∧
      ((∃ item, call = .send item ∧ q.capacity ≤ q.buffer.length ∧ q.blocking = true) ∨
        ((call = .get ∨ call = .getTimeout) ∧ q.buffer = [])) := by
  cases call with
  | send item =>
    rcases q.offer_cases item with ⟨_, ho⟩ | ⟨_, _, ho⟩ | ⟨_, _, _, ho⟩ | ⟨hopen, hfull, hblocking, ho⟩ <;>
      simp only [perform, ho, reduceCtorEq] at h ⊢
    exact ⟨trivial, hopen, .inl ⟨item, rfl, hfull, hblocking⟩⟩
  | get | getTimeout =>
    rcases q.take_cases with ⟨_, ht⟩ | ⟨hopen, hempty, ht⟩ | ⟨_, item, rest, _, ht⟩ <;>
      simp only [perform, ht, reduceCtorEq] at h ⊢
    exact ⟨trivial, hopen, .inr ⟨by simp, hempty⟩⟩
  | trySend | tryGet | tryGetAll | resize | setBlocking | close => cases h

theorem perform_of_closed {q : Queue α} (hclosed : q.closed = true) {call : Call α}
    (hcall : call.carries = true) :
    (q.perform call).1.error? = some (.queueClosed q.name) ∧ (q.perform call).2 = q := by
  cases call with
  | send item => simp [perform, offer, hclosed, Reply.error?, closedError]
  | trySend item => simp [perform, trySend, hclosed, Reply.error?, closedError]
  | get | getTimeout => simp [perform, take, hclosed, Reply.error?, closedError, Except.map]
  | tryGet => simp [perform, tryTake, hclosed, Reply.error?, closedError]
  | tryGetAll => simp [perform, drain, hclosed, Reply.error?, closedError]
  | resize | setBlocking | close => cases hcall

end Queue

end FrameGraph
