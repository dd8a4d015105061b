import FrameGraph.Proofs.Queue.Calls
import Mathlib.Tactic.ByContra

/-!
# No wake-up is lost

In a room, callers sleep until the queue wakes them. Whoever sleeps has a reason: the queue is full or
empty but for places and items that belong to callers who are awake already and have not tried again yet.

* `Room.Alert`: this, as an invariant, with room for a caller that is trying right now.
* `Queue.Enough`: a call wakes as many callers as it gives places or items. `Queue.enough` says so of
  every call.
* `Room.Alert.attempt`, `Room.Alert.step`: one attempt and one event keep the invariant.
-/

namespace FrameGraph
set_option autoImplicit false
variable {α : Type}

/-! ## Waking -/

/-- The sleepers that a signal is sure to wake. -/
def Wake.count : Wake → Nat
  | .one => 1
  | _ => 0

/-- Where somebody is still asleep, not all were woken, but as many as there were signals. -/
theorem Wake.split_spec {β : Type} {w : Wake} {pick : Nat} {sleepers : List β}
    (h : (w.split pick sleepers).1 ≠ []) :
    w ≠ .everyone ∧ sleepers ≠ [] ∧ (w.split pick sleepers).2.length = w.count := by
  cases w with
  | nobody => exact ⟨by simp, h, rfl⟩
  | everyone => exact absurd rfl h
  | one =>
    have hne : sleepers ≠ [] := by
      rintro rfl
      exact h rfl
    have hlt : pick % sleepers.length < sleepers.length := Nat.mod_lt _ (List.length_pos_iff.mpr hne)
    refine ⟨by simp, hne, ?_⟩
    simp [Wake.split, Wake.count, List.getElem?_eq_getElem hlt]

/-- How many places the caller may have been woken for. -/
def Call.sending : Call α → Nat
  | .send _ => 1
  | _ => 0

def Call.receiving : Call α → Nat
  | .get | .getTimeout => 1
  | _ => 0

namespace Queue

/-- The signals wake as many senders as places become free and as many receivers as items come in, besides
the `a` places and the `b` items that the caller takes for itself. -/
structure Enough (q next : Queue α) (signals : Signals) (a b : Nat) : Prop where
  senders : q.closed = false → q.blocking = true → signals.senders = .everyone ∨
    next.closed = false ∧ next.blocking = true ∧
      next.capacity + (q.buffer.length + a) ≤ q.capacity + next.buffer.length + signals.senders.count
  receivers : q.closed = false → signals.receivers = .everyone ∨
    next.closed = false ∧ next.buffer.length + b ≤ q.buffer.length + signals.receivers.count

theorem Enough.of_closed {q next : Queue α} {signals : Signals} {a b : Nat} (h : q.closed = true) :
    Enough q next signals a b := by
  refine ⟨fun hopen => ?_, fun hopen => ?_⟩ <;> rw [h] at hopen <;> cases hopen

theorem Enough.of_same {q : Queue α} {signals : Signals} : Enough q q signals 0 0 :=
  ⟨fun hopen hblocking => .inr ⟨hopen, hblocking, by omega⟩, fun hopen => .inr ⟨hopen, by omega⟩⟩

theorem Enough.of_push {q : Queue α} {item : α} {a : Nat} (ha : a ≤ 1) :
    Enough q (q.push item) { receivers := .one } a 0 := by
  refine ⟨fun hopen hblocking => .inr ⟨hopen, hblocking, ?_⟩, fun hopen => .inr ⟨hopen, ?_⟩⟩
  · simp only [push, List.length_append, List.length_singleton]
    omega
  · simp [push, Wake.count]

theorem Enough.of_dropping {q : Queue α} {item : α} {a : Nat} (h : q.blocking = false) :
    Enough q (q.dropOldest.push item) { receivers := .one } a 0 := by
  refine ⟨fun _ hblocking => ?_, fun hopen => .inr ⟨hopen, ?_⟩⟩
  · -- No sender sleeps here, so none has to be woken.
    rw [h] at hblocking
    cases hblocking
  · simp only [push, dropOldest, List.length_append, List.length_tail, List.length_singleton, Wake.count]
    omega

theorem Enough.of_take {q : Queue α} {item : α} {rest : List α} {b : Nat} (h : q.buffer = item :: rest)
    (hb : b ≤ 1) : Enough q { q with buffer := rest } { senders := .one } 0 b := by
  refine ⟨fun hopen hblocking => .inr ⟨hopen, hblocking, ?_⟩, fun hopen => .inr ⟨hopen, ?_⟩⟩
  · simp only [h, List.length_cons, Wake.count]
    omega
  · simp only [h, List.length_cons]
    omega

theorem Enough.of_everyone {q next : Queue α} {a : Nat} (hclosed : next.closed = q.closed)
    (hbuffer : next.buffer.length ≤ q.buffer.length) : Enough q next { senders := .everyone } a 0 :=
  ⟨fun _ _ => .inl rfl, fun hopen => .inr ⟨hclosed.trans hopen, hbuffer⟩⟩

theorem enough (q : Queue α) {call : Call α} (hdone : (q.perform call).1 ≠ .waits) :
    Enough q (q.perform call).2 (call.signals q.closed (q.perform call).1) call.sending call.receiving := by
  cases call with
  | send item =>
    rcases q.offer_cases item with ⟨hclosed, h⟩ | ⟨_, _, h⟩ | ⟨_, _, hblocking, h⟩ | ⟨_, _, _, h⟩ <;>
      simp only [perform, h] at hdone ⊢
    · exact .of_closed hclosed
    · exact .of_push (Nat.le_refl 1)
    · exact .of_dropping hblocking
    · exact absurd rfl hdone
  | trySend item =>
    rcases q.offer_cases item with ⟨hclosed, h⟩ | ⟨_, _, h⟩ | ⟨_, _, hblocking, h⟩ | ⟨_, _, _, h⟩ <;>
      simp only [perform, trySend_eq, h, Except.map]
    · exact .of_closed hclosed
    · exact .of_push (Nat.zero_le 1)
    · exact .of_dropping hblocking
    · exact .of_same
  | get | getTimeout =>
    rcases q.take_cases with ⟨hclosed, h⟩ | ⟨_, _, h⟩ | ⟨_, item, rest, hbuffer, h⟩ <;>
      simp only [perform, h, Except.map] at hdone ⊢
    · exact .of_closed hclosed
    · exact absurd rfl hdone
    · exact .of_take hbuffer (Nat.le_refl 1)
  | tryGet =>
    rcases q.take_cases with ⟨hclosed, h⟩ | ⟨_, _, h⟩ | ⟨_, item, rest, hbuffer, h⟩ <;>
      simp only [perform, tryTake_eq, h, Except.map]
    · exact .of_closed hclosed
    · exact .of_same
    · exact .of_take hbuffer (Nat.zero_le 1)
  | tryGetAll =>
    rcases q.drain_cases with ⟨hclosed, h⟩ | ⟨_, h⟩ <;> simp only [perform, h]
    · exact .of_closed hclosed
    · cases hbuffer : q.buffer with
      | nil =>
        rw [← hbuffer]
        exact .of_same
      | cons item rest => exact .of_everyone rfl (Nat.zero_le _)
  | resize capacity =>
    by_cases hpos : capacity = 0 <;> simp only [perform, resize, hpos, if_true, if_false]
    · exact .of_same
    · exact .of_everyone rfl (by simp)
  | setBlocking blocking => exact .of_everyone rfl (Nat.le_refl _)
  | close =>
    cases hclosed : q.closed with
    | true => exact .of_closed hclosed
    | false => exact ⟨fun _ _ => .inl rfl, fun _ => .inl rfl⟩

end Queue

/-! ## The invariant -/

namespace Room

/-- While a sender sleeps, the queue is open and blocks, and its free places are not more than the woken
senders; while a receiver sleeps, the queue is open, and its items are not more than the woken receivers.
The callers that try again right now count as woken: `a` senders and `b` receivers. -/
structure Alert (a b : Nat) (r : Room α) : Prop where
  senders : r.sleepingSenders ≠ [] → r.queue.closed = false ∧ r.queue.blocking = true ∧
    r.queue.capacity ≤ r.queue.buffer.length + r.wokenSenders.length + a
  receivers : r.sleepingReceivers ≠ [] → r.queue.closed = false ∧
    r.queue.buffer.length ≤ r.wokenReceivers.length + b

theorem Alert.mono {a b c d : Nat} {r : Room α} (h : Alert a b r) (hac : a ≤ c) (hbd : b ≤ d) :
    Alert c d r := by
  refine ⟨fun hs => ?_, fun hr => ?_⟩
  · obtain ⟨hopen, hblocking, hfree⟩ := h.senders hs
    exact ⟨hopen, hblocking, by omega⟩
  · obtain ⟨hopen, hitems⟩ := h.receivers hr
    exact ⟨hopen, by omega⟩

/-- A call with enough signals settles what its caller takes. -/
theorem Alert.wake {a b : Nat} {r : Room α} (h : Alert a b r) {next : Queue α} {signals : Signals}
    (henough : r.queue.Enough next signals a b) (pick : Nat) :
    Alert 0 0 ({ r with queue := next }.wake pick signals) := by
  refine ⟨fun hs => ?_, fun hr => ?_⟩
  · obtain ⟨hsome, hbefore, hwoken⟩ := Wake.split_spec hs
    obtain ⟨hopen, hblocking, hfree⟩ := h.senders hbefore
    obtain hall | ⟨hopen', hblocking', hplaces⟩ := henough.senders hopen hblocking
    · exact absurd hall hsome
    · refine ⟨hopen', hblocking', ?_⟩
      simp only [Room.wake, List.length_append, hwoken]
      omega
  · obtain ⟨hsome, hbefore, hwoken⟩ := Wake.split_spec hr
    obtain ⟨hopen, hitems⟩ := h.receivers hbefore
    obtain hall | ⟨hopen', hcount⟩ := henough.receivers hopen
    · exact absurd hall hsome
    · refine ⟨hopen', ?_⟩
      simp only [Room.wake, List.length_append, hwoken]
      omega

theorem Alert.sleep {r : Room α} {call : Call α} (h : Alert call.sending call.receiving r)
    (hwaits : (r.queue.perform call).1 = .waits) : Alert 0 0 (r.sleep call) := by
  obtain ⟨-, hopen, ⟨item, rfl, hfull, hblocking⟩ | ⟨hcall, hempty⟩⟩ := Queue.waits_cases hwaits
  · refine ⟨fun _ => ⟨hopen, hblocking, ?_⟩, h.receivers⟩
    simp only [Room.sleep]
    omega
  · rcases hcall with rfl | rfl
    · exact ⟨h.senders, fun _ => ⟨hopen, by simp [Room.sleep, hempty]⟩⟩
    · exact ⟨h.senders, fun _ => ⟨hopen, by simp [Room.sleep, hempty]⟩⟩

theorem Alert.attempt {r : Room α} {call : Call α} (h : Alert call.sending call.receiving r) (pick : Nat) :
    Alert 0 0 (r.attempt pick call).2 := by
  by_cases hwaits : (r.queue.perform call).1 = .waits
  · have hsame := (Queue.waits_cases hwaits).1
    have hattempt : (r.attempt pick call).2 = r.sleep call := by
      simp only [Room.attempt, hwaits, hsame]
    rw [hattempt]
    exact h.sleep hwaits
  · have hattempt : (r.attempt pick call).2 =
        ({ r with queue := (r.queue.perform call).2 } : Room α).wake pick
          (call.signals r.queue.closed (r.queue.perform call).1) := by
      unfold Room.attempt
      split
      rename_i reply next hperform
      simp only [hperform] at hwaits ⊢
      cases reply with
      | waits => exact absurd rfl hwaits
      | _ => rfl
    rw [hattempt]
    exact h.wake (r.queue.enough hwaits) pick

theorem Alert.resumeSender {r : Room α} (h : Alert 0 0 r) {i : Nat} {item : α}
    (hitem : r.wokenSenders[i]? = some item) :
    Alert (Call.send item).sending (Call.send item).receiving
      { r with wokenSenders := r.wokenSenders.eraseIdx i } := by
  obtain ⟨hi, -⟩ := List.getElem?_eq_some_iff.mp hitem
  refine ⟨fun hs => ?_, h.receivers⟩
  obtain ⟨hopen, hblocking, hfree⟩ := h.senders hs
  refine ⟨hopen, hblocking, ?_⟩
  simp only [Call.sending, List.length_eraseIdx, hi, if_true]
  omega

theorem Alert.resumeReceiver {r : Room α} (h : Alert 0 0 r) {i : Nat} {receiver : Receiver}
    (hreceiver : r.wokenReceivers[i]? = some receiver) :
    Alert (receiver.call : Call α).sending (receiver.call : Call α).receiving
      { r with wokenReceivers := r.wokenReceivers.eraseIdx i } := by
  obtain ⟨hi, -⟩ := List.getElem?_eq_some_iff.mp hreceiver
  have hone : (receiver.call : Call α).sending = 0 ∧ (receiver.call : Call α).receiving = 1 := by
    obtain ⟨timed⟩ := receiver
    cases timed <;> exact ⟨rfl, rfl⟩
  rw [hone.1, hone.2]
  refine ⟨h.senders, fun hr => ?_⟩
  obtain ⟨hopen, hitems⟩ := h.receivers hr
  refine ⟨hopen, ?_⟩
  simp only [List.length_eraseIdx, hi, if_true]
  omega

theorem Alert.expire {r : Room α} (h : Alert 0 0 r) (i : Nat) :
    Alert (Call.tryGet : Call α).sending (Call.tryGet : Call α).receiving
      { r with sleepingReceivers := r.sleepingReceivers.eraseIdx i } := by
  refine ⟨h.senders, fun hr => h.receivers ?_⟩
  intro hnil
  exact hr (by simp [hnil])

/-- A caller that tries again gives up its place among the woken ones. -/
theorem Alert.step {r : Room α} (h : Alert 0 0 r) (pick : Nat) (event : Event α) :
    Alert 0 0 (r.step pick event).2 := by
  cases event with
  | call call => exact (h.mono (Nat.zero_le _) (Nat.zero_le _)).attempt pick
  | resumeSender i =>
    simp only [Room.step]
    cases hitem : r.wokenSenders[i]? with
    | none => exact h
    | some item => exact (h.resumeSender hitem).attempt pick
  | resumeReceiver i =>
    simp only [Room.step]
    cases hreceiver : r.wokenReceivers[i]? with
    | none => exact h
    | some receiver => exact (h.resumeReceiver hreceiver).attempt pick
  | expire i =>
    simp only [Room.step]
    split
    · exact (h.expire i).attempt pick
    · exact h

theorem Reachable.alert {r : Room α} (h : Reachable r) : Alert 0 0 r := by
  induction h with
  | start => exact ⟨fun hs => absurd rfl hs, fun hr => absurd rfl hr⟩
  | step _ pick event ih => exact ih.step pick event

/-- In every reachable room a sender sleeps only at an open queue that blocks, whose free places all belong
to woken senders, and a receiver only at an open queue whose items all belong to woken receivers. So once
all woken callers have tried again, nobody sleeps without a reason. -/
theorem no_lost_wakeup {r : Room α} (h : Reachable r) :
    (r.sleepingSenders ≠ [] → r.queue.closed = false ∧ r.queue.blocking = true ∧
      r.queue.capacity - r.queue.buffer.length ≤ r.wokenSenders.length) ∧
    (r.sleepingReceivers ≠ [] → r.queue.closed = false ∧
      r.queue.buffer.length ≤ r.wokenReceivers.length) ∧
    (r.wokenSenders = [] → r.wokenReceivers = [] →
      (r.queue.buffer.length < r.queue.capacity ∨ r.queue.blocking = false → r.sleepingSenders = []) ∧
      (r.queue.buffer ≠ [] → r.sleepingReceivers = []) ∧
      (r.queue.closed = true → r.sleepingSenders = [] ∧ r.sleepingReceivers = [])) := by
  have halert := h.alert
  refine ⟨fun hs => ?_, halert.receivers, fun hsenders hreceivers =>
    ⟨fun hroom => ?_, fun hitems => ?_, fun hclosed => ?_⟩⟩
  · obtain ⟨hopen, hblocking, hfree⟩ := halert.senders hs
    exact ⟨hopen, hblocking, by omega⟩
  · by_contra hs
    obtain ⟨-, hblocking, hfree⟩ := halert.senders hs
    rw [hsenders, List.length_nil] at hfree
    rcases hroom with hroom | hroom
    · omega
    · rw [hblocking] at hroom
      cases hroom
  · by_contra hr
    have hnone := (halert.receivers hr).2
    rw [hreceivers, List.length_nil] at hnone
    exact hitems (List.eq_nil_of_length_eq_zero (by omega))
  · constructor
    · by_contra hs
      exact absurd hclosed (by simp [(halert.senders hs).1])
    · by_contra hr
      exact absurd hclosed (by simp [(halert.receivers hr).1])

/-- Two senders sleep at a full queue; a receiver wakes one of them, or the queue is closed and both leave. -/
theorem no_lost_wakeup_two_senders :
    let full := ((((Room.ofQueue (Queue.make "q" 1 true)).step 0 (.call (.send 1))).2.step 0
      (.call (.send 2))).2.step 0 (.call (.send 3))).2
    let taken := (full.step 1 (.call .get)).2
    let gone := (((full.step 0 (.call .close)).2.step 0 (.resumeSender 1)).2.step 0 (.resumeSender 0)).2
    Reachable taken ∧ taken.sleepingSenders = [2] ∧ taken.wokenSenders = [3] ∧
      taken.queue.capacity - taken.queue.buffer.length ≤ taken.wokenSenders.length ∧
      Reachable gone ∧ gone.queue.closed = true ∧ gone.wokenSenders = [] ∧ gone.wokenReceivers = [] ∧
      gone.sleepingSenders = [] := by
  intro full taken gone
  have hfull : Reachable full := .step (.step (.step (.start "q" 1 true) 0 _) 0 _) 0 _
  have htaken : Reachable taken := hfull.step 1 _
  have hgone : Reachable gone := .step (.step (.step hfull 0 _) 0 _) 0 _
  have hsleeps : taken.sleepingSenders = [2] := by decide
  have hfree := ((no_lost_wakeup htaken).1 (by simp [hsleeps])).2.2
  have hnobody := ((no_lost_wakeup hgone).2.2 (by decide) (by decide)).2.2 (by decide)
  exact ⟨htaken, hsleeps, by decide, hfree, hgone, by decide, by decide, by decide, hnobody.1⟩

end Room

end FrameGraph
