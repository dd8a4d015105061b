import FrameGraph.Proofs.Queue.Calls

/-!
# First in, first out, and nothing unaccounted

The traffic of a queue is the queue with the callers that it has suspended; each of them may try again at
any time. Noted besides is which items the queue has taken in and which it has given out.

* `Traffic.Balanced`: as long as the queue is open, it holds the newest of the items that it took in.
  What is missing was given out, in order, or is counted as dropped.
* `Traffic.Balanced.step`: one move keeps this, and so does a run.
* `Traffic.Balanced.closed_run`, `Traffic.Balanced.dropped_run`: what is left of a closed queue.
-/

namespace FrameGraph
set_option autoImplicit false
variable {α : Type}

structure Traffic (α : Type) where
  queue : Queue α
  suspended : List (Call α) := []
  accepted : List α := []
  delivered : List α := []

/-- A caller makes a call, the suspended caller at a place tries again, or its deadline passes. -/
inductive Traffic.Move (α : Type) where
  | call (call : Call α)
  | resume (index : Nat)
  | expire (index : Nat)

namespace Traffic

def start (name : String) (capacity : Nat) (blocking : Bool) : Traffic α :=
  { queue := Queue.make name capacity blocking }

/-- The call that a move makes, if it makes one. -/
def attempted (s : Traffic α) : Move α → Option (Call α)
  | .call call => some call
  | .resume i => s.suspended[i]?
  | .expire i => match s.suspended[i]? with
    | some .getTimeout => some .tryGet
    | _ => none

/-- The callers that stay suspended while a move is made. -/
def others (s : Traffic α) : Move α → List (Call α)
  | .call _ => s.suspended
  | .resume i | .expire i => s.suspended.eraseIdx i

def attempt (s : Traffic α) (call : Call α) : Traffic α :=
  let (reply, queue) := s.queue.perform call
  { queue
    suspended := match reply with
      | .waits => s.suspended ++ [call]
      | _ => s.suspended
    accepted := s.accepted ++ call.taken reply
    delivered := s.delivered ++ reply.given }

def step (s : Traffic α) (m : Move α) : Traffic α :=
  match s.attempted m with
  | none => s
  | some call => { s with suspended := s.others m }.attempt call

def run (s : Traffic α) (moves : List (Move α)) : Traffic α :=
  moves.foldl step s

/-! ## The invariant -/

/-- What the items that came in, went out and were dropped have to do with those in the buffer. -/
structure Balanced (s : Traffic α) : Prop where
  capacity_pos : 1 ≤ s.queue.capacity
  bounded : s.queue.buffer.length ≤ s.queue.capacity
  /-- The items that have left an open queue come first, and those that were given out are among them. -/
  split : s.queue.closed = false → ∃ left, s.accepted = left ++ s.queue.buffer ∧
    left.length = s.delivered.length + s.queue.dropped ∧ s.delivered.Sublist left
  delivered : s.delivered.Sublist s.accepted
  empty : s.queue.closed = true → s.queue.buffer = []
  waiting : ∀ call ∈ s.suspended, call.carries = true

theorem Balanced.start (name : String) (capacity : Nat) (blocking : Bool) :
    Balanced (Traffic.start name capacity blocking : Traffic α) := by
  refine ⟨Nat.le_max_right _ _, Nat.zero_le _, fun _ => ⟨[], rfl, rfl, List.Sublist.refl _⟩,
    List.Sublist.refl _, fun _ => rfl, ?_⟩
  intro call hcall
  cases hcall

theorem Balanced.attempt_split {s : Traffic α} (h : Balanced s) (call : Call α)
    (hopen : (s.attempt call).queue.closed = false) :
    ∃ left, (s.attempt call).accepted = left ++ (s.attempt call).queue.buffer ∧
      left.length = (s.attempt call).delivered.length + (s.attempt call).queue.dropped ∧
      (s.attempt call).delivered.Sublist left := by
  obtain ⟨hbefore, gone, hfront, hlen, hgiven⟩ :=
    (s.queue.perform_change call).front h.capacity_pos hopen
  obtain ⟨left, haccepted, hleft, hdelivered⟩ := h.split hbefore
  refine ⟨left ++ gone, ?_, ?_, hdelivered.append hgiven⟩
  · simp only [Traffic.attempt, haccepted, List.append_assoc, hfront]
  · simp only [Traffic.attempt, List.length_append] at hlen ⊢
    omega

theorem Balanced.attempt_closed {s : Traffic α} (h : Balanced s) (call : Call α)
    (hclosed : (s.attempt call).queue.closed = true) :
    (s.attempt call).accepted = s.accepted ∧ (s.attempt call).delivered = s.delivered ∧
      (s.attempt call).queue.buffer = [] := by
  have hchange := s.queue.perform_change call
  cases hbefore : s.queue.closed with
  | true =>
    obtain ⟨htaken, hgiven, -, hempty, -⟩ := hchange.of_closed hbefore (h.empty hbefore)
    exact ⟨by simp [Traffic.attempt, htaken], by simp [Traffic.attempt, hgiven], hempty⟩
  | false =>
    obtain ⟨htaken, hgiven, hempty⟩ := hchange.of_closing hbefore hclosed
    exact ⟨by simp [Traffic.attempt, htaken], by simp [Traffic.attempt, hgiven], hempty⟩

theorem Balanced.attempt {s : Traffic α} (h : Balanced s) (call : Call α) : Balanced (s.attempt call) := by
  obtain ⟨hpos, hbound⟩ := (s.queue.perform_change call).bounded h.capacity_pos h.bounded
  refine ⟨hpos, hbound, h.attempt_split call, ?_, fun hclosed => (h.attempt_closed call hclosed).2.2, ?_⟩
  · cases hnext : (s.attempt call).queue.closed with
    | false =>
      obtain ⟨left, haccepted, -, hdelivered⟩ := h.attempt_split call hnext
      rw [haccepted]
      exact hdelivered.trans (List.sublist_append_left _ _)
    | true =>
      obtain ⟨haccepted, hdelivered, -⟩ := h.attempt_closed call hnext
      rw [haccepted, hdelivered]
      exact h.delivered
  · intro other hother
    simp only [Traffic.attempt] at hother
    split at hother
    · rename_i hwaits
      rcases List.mem_append.mp hother with hother | hother
      · exact h.waiting other hother
      · rw [List.mem_singleton.mp hother]
        obtain ⟨-, -, ⟨item, rfl, -⟩ | ⟨rfl | rfl, -⟩⟩ := Queue.waits_cases hwaits <;> rfl
    · exact h.waiting other hother

theorem Balanced.others {s : Traffic α} (h : Balanced s) (m : Move α) :
    Balanced { s with suspended := s.others m } := by
  refine ⟨h.capacity_pos, h.bounded, h.split, h.delivered, h.empty, ?_⟩
  intro call hcall
  cases m with
  | call => exact h.waiting call hcall
  | resume i | expire i => exact h.waiting call (List.mem_of_mem_eraseIdx hcall)

theorem Balanced.step {s : Traffic α} (h : Balanced s) (m : Move α) : Balanced (s.step m) := by
  unfold Traffic.step
  split
  · exact h
  · exact (h.others m).attempt _

theorem Balanced.run {s : Traffic α} (h : Balanced s) (moves : List (Move α)) : Balanced (s.run moves) := by
  induction moves generalizing s with
  | nil => exact h
  | cons m rest ih => exact ih (h.step m)

/-! ## Drops and the end -/

theorem dropped_step (s : Traffic α) (m : Move α) :
    (s.step m).queue.dropped = s.queue.dropped + (s.attempted m).elim 0 s.queue.losses := by
  unfold step
  cases s.attempted m with
  | none => rfl
  | some call => exact s.queue.dropped_perform call

theorem name_step (s : Traffic α) (m : Move α) : (s.step m).queue.name = s.queue.name := by
  unfold step
  cases s.attempted m with
  | none => rfl
  | some call => exact (s.queue.perform_change call).name_eq

theorem Balanced.closed_step {s : Traffic α} (h : Balanced s) (m : Move α) :
    (s.step m).queue.closed = true ↔ s.queue.closed = true ∨ m = .call .close := by
  have hclose : s.attempted m = some .close ↔ m = .call .close := by
    cases m with
    | call call => simp [attempted]
    | resume i =>
      -- A caller that closes the queue is never suspended.
      simp only [attempted, reduceCtorEq, iff_false]
      intro hi
      exact absurd (h.waiting _ (List.mem_of_getElem? hi)) (by simp [Call.carries])
    | expire i =>
      simp only [attempted, reduceCtorEq, iff_false]
      split <;> simp
  unfold Traffic.step
  cases hcall : s.attempted m with
  | none =>
    rw [hcall] at hclose
    simpa using fun hm => absurd (hclose.mpr hm) (by simp)
  | some call =>
    rw [hcall, Option.some_inj] at hclose
    rw [← hclose]
    exact s.queue.closed_perform call

theorem Balanced.closed_run {s : Traffic α} (h : Balanced s) (moves : List (Move α)) :
    (s.run moves).queue.closed = true ↔ s.queue.closed = true ∨ .call .close ∈ moves := by
  induction moves generalizing s with
  | nil => simp [Traffic.run]
  | cons m rest ih =>
    have hrest := ih (h.step m)
    rw [h.closed_step m] at hrest
    rw [Traffic.run, List.foldl_cons, ← Traffic.run, hrest, List.mem_cons, or_assoc, @eq_comm _ m]

theorem name_run (s : Traffic α) (moves : List (Move α)) : (s.run moves).queue.name = s.queue.name := by
  induction moves generalizing s with
  | nil => rfl
  | cons m rest ih => exact (ih (s.step m)).trans (s.name_step m)

theorem Balanced.dropped_run {s : Traffic α} (h : Balanced s) (hclosed : s.queue.closed = true)
    (moves : List (Move α)) : (s.run moves).queue.dropped = s.queue.dropped := by
  induction moves generalizing s with
  | nil => rfl
  | cons m rest ih =>
    have hstep : (s.step m).queue.dropped = s.queue.dropped := by
      unfold Traffic.step
      cases s.attempted m with
      | none => rfl
      | some call => exact ((s.queue.perform_change call).of_closed hclosed (h.empty hclosed)).2.2.2.2
    rw [← hstep]
    exact ih (h.step m) ((h.closed_step m).mpr (.inl hclosed))

/-- The queue blocks before every move, and no move makes it smaller. -/
def Unforced (s : Traffic α) (moves : List (Move α)) : Prop :=
  ∀ i < moves.length, (s.run (moves.take i)).queue.blocking = true ∧
    (s.run (moves.take i)).queue.capacity ≤ (s.run (moves.take (i + 1))).queue.capacity

theorem Balanced.dropped_of_unforced {s : Traffic α} (h : Balanced s) {moves : List (Move α)}
    (hunforced : s.Unforced moves) : (s.run moves).queue.dropped = s.queue.dropped := by
  induction moves generalizing s with
  | nil => rfl
  | cons m rest ih =>
    obtain ⟨hblocking, hgrow⟩ := hunforced 0 (Nat.succ_pos _)
    have hrest : (s.step m).Unforced rest := by
      intro i hi
      exact hunforced (i + 1) (Nat.succ_lt_succ hi)
    have hnone : (s.attempted m).elim 0 s.queue.losses = 0 := by
      change s.queue.capacity ≤ (s.step m).queue.capacity at hgrow
      unfold Traffic.step at hgrow
      cases hcall : s.attempted m with
      | none => rfl
      | some call =>
        rw [hcall] at hgrow
        exact Queue.losses_eq_zero hblocking h.bounded hgrow
    have hstep := s.dropped_step m
    rw [hnone] at hstep
    exact (ih (h.step m) hrest).trans hstep

/-- The buffer of an open queue is a suffix of what was taken in, callers get a subsequence of that, and all
that is missing was dropped: by a call to a full queue that does not block, or by a shrinking one. A queue
that blocks and does not shrink loses nothing. A closed queue stays empty and refuses every call. -/
theorem fifo_and_accounted (name : String) (capacity : Nat) (blocking : Bool) (moves : List (Move α)) :
    let s := (Traffic.start name capacity blocking).run moves
    (1 ≤ s.queue.capacity ∧ s.queue.buffer.length ≤ s.queue.capacity) ∧
    (.call .close ∉ moves → s.queue.buffer <:+ s.accepted ∧
      s.accepted.length = s.delivered.length + s.queue.dropped + s.queue.buffer.length) ∧
    s.delivered.Sublist s.accepted ∧
    (∀ m, (s.step m).queue.dropped = s.queue.dropped + (s.attempted m).elim 0 s.queue.losses) ∧
    (.call .close ∉ moves → (Traffic.start name capacity blocking).Unforced moves →
      s.queue.dropped = 0 ∧ s.accepted = s.delivered ++ s.queue.buffer) ∧
    (∀ later, let t := (s.step (.call .close)).run later
      t.queue.closed = true ∧ t.queue.buffer = [] ∧ t.queue.dropped = s.queue.dropped ∧
      ∀ call : Call α, call.carries = true →
        (t.queue.perform call).1.error? = some (.queueClosed name)) := by
  intro s
  have hstart : Balanced (Traffic.start name capacity blocking : Traffic α) :=
    Balanced.start name capacity blocking
  have h : Balanced s := hstart.run moves
  have hopen : .call .close ∉ moves → s.queue.closed = false := by
    intro hno
    rw [← Bool.not_eq_true, hstart.closed_run moves]
    simpa [Traffic.start, Queue.make] using hno
  refine ⟨⟨h.capacity_pos, h.bounded⟩, ?_, h.delivered, s.dropped_step, ?_, ?_⟩
  · intro hno
    obtain ⟨left, haccepted, hleft, -⟩ := h.split (hopen hno)
    exact ⟨⟨left, haccepted.symm⟩, by rw [haccepted, List.length_append, hleft]⟩
  · intro hno hunforced
    have hdropped : s.queue.dropped = 0 := hstart.dropped_of_unforced hunforced
    obtain ⟨left, haccepted, hleft, hdelivered⟩ := h.split (hopen hno)
    rw [hdropped, Nat.add_zero] at hleft
    exact ⟨hdropped, by rw [haccepted, hdelivered.eq_of_length hleft.symm]⟩
  · intro later t
    have hclosing := h.step (.call .close)
    have hclosed : (s.step (.call .close)).queue.closed = true := (h.closed_step _).mpr (.inr rfl)
    have hstill : t.queue.closed = true := (hclosing.closed_run later).mpr (.inl hclosed)
    refine ⟨hstill, (hclosing.run later).empty hstill, hclosing.dropped_run hclosed later, ?_⟩
    intro call hcall
    have hname : t.queue.name = name :=
      (name_run _ later).trans ((name_step s _).trans (name_run _ moves))
    rw [(Queue.perform_of_closed hstill hcall).1, hname]

/-- A sender waits until a receiver has made room, and the queue is closed later. -/
theorem fifo_and_accounted_suspended_sender :
    let moves : List (Move Nat) :=
      [.call (.send 1), .call (.send 2), .call (.send 3), .call .get, .resume 0]
    let s := (Traffic.start "rgb" 2 true).run moves
    .call .close ∉ moves ∧ (Traffic.start "rgb" 2 true).Unforced moves ∧
      s.queue.buffer <:+ s.accepted ∧ s.accepted = s.delivered ++ s.queue.buffer ∧
      s.accepted = [1, 2, 3] ∧ s.delivered = [1] ∧
      Call.carries (.get : Call Nat) = true ∧
      (((s.step (.call .close)).run [.call (.send 4)]).queue.perform .get).1.error? =
        some (.queueClosed "rgb") := by
  intro moves s
  have hno : .call .close ∉ moves := by simp [moves]
  have hunforced : (Traffic.start "rgb" 2 true).Unforced moves := by
    unfold Unforced
    decide
  obtain ⟨-, hsuffix, -, -, hlossless, hclosed⟩ := fifo_and_accounted "rgb" 2 true moves
  exact ⟨hno, hunforced, (hsuffix hno).1, (hlossless hno hunforced).2, by decide, by decide, rfl,
    (hclosed [.call (.send 4)]).2.2.2 .get rfl⟩

end Traffic

end FrameGraph
