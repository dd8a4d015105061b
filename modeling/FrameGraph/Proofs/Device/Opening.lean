import FrameGraph.Device

/-!
# Opening the streams of a device

The host opens streams by their names, one after the other, and each of their queues gets its new depth and policy at
once. It ends at the first name that is refused, and the queues before that one keep what they got.

* `openQueue_cases`: what opening one stream comes to.
* `HostStreams.openSlots_ok`: which queues have changed when all streams are open.
* `HostStreams.openSlots_error`: where opening fails, and how far it has come by then.
* `Device.failed_open`: exactly what a failed call leaves behind on a device.
-/

namespace FrameGraph
set_option autoImplicit false

/-! ## Queues of open streams -/

/-- A queue with the depth and the policy of a stream that is opened. Its oldest surplus is dropped. -/
def Queue.reopened {α : Type} (size : Nat) (blocking : Bool) (q : Queue α) : Queue α :=
  { q with
    capacity := size
    blocking
    buffer := q.buffer.drop (q.buffer.length - size)
    dropped := q.dropped + (q.buffer.length - size) }

theorem Queue.reopened_eq_self_iff {α : Type} {size : Nat} {blocking : Bool} {q : Queue α} :
    q.reopened size blocking = q ↔ q.capacity = size ∧ q.blocking = blocking ∧ q.buffer.length ≤ size := by
  cases q with
  | mk name capacity policy buffer closed dropped =>
    simp only [Queue.reopened, mk.injEq, true_and]
    constructor
    · rintro ⟨rfl, rfl, -, hdropped⟩
      exact ⟨rfl, rfl, by omega⟩
    · rintro ⟨rfl, rfl, hroom⟩
      rw [Nat.sub_eq_zero_of_le hroom]
      exact ⟨rfl, rfl, rfl, rfl⟩

theorem Queue.reopened_reopened {α : Type} (size : Nat) (blocking : Bool) (q : Queue α) :
    (q.reopened size blocking).reopened size blocking = q.reopened size blocking :=
  reopened_eq_self_iff.mpr ⟨rfl, rfl, by simp only [reopened, List.length_drop]; omega⟩

namespace QueueStore
variable {α : Type} {s : QueueStore α} {id : QueueId} {q : Queue α}

theorem resize_of_get? (h : s.get? id = some q) (size : Nat) :
    s.resize id size = ((q.resize size).1, { queues := s.queues.set id (q.resize size).2 }) :=
  modify_of_get? h _ _

theorem resize_zero (h : s.get? id = some q) : s.resize id 0 = (.error (.invalidQueueSize q.name), s) := by
  rw [resize_of_get? h]
  exact congrArg _ (set_self h)

theorem resize_setBlocking (h : s.get? id = some q) {size : Nat} (hsize : size ≠ 0) (blocking : Bool) :
    ∃ next, s.resize id size = (.ok (), next) ∧
      next.setBlocking id blocking = { queues := s.queues.set id (q.reopened size blocking) } := by
  have hok : (q.resize size).1 = .ok () := by rw [Queue.resize, if_neg hsize]
  have hreopened : (q.resize size).2.setBlocking blocking = q.reopened size blocking := by
    rw [Queue.resize, if_neg hsize]
    rfl
  have hthere : get? { queues := s.queues.set id (q.resize size).2 } id = some (q.resize size).2 := by
    rw [get?_set h, if_pos rfl]
  exact ⟨_, hok ▸ resize_of_get? h size, by rw [setBlocking, modify_of_get? hthere, hreopened, List.set_set]⟩

end QueueStore

/-! ## Opening one by one -/

section
variable {served : String → Option QueueId} {size : Nat} {blocking : Bool} {store : QueueStore Message}

/-- What can be wrong with a name when a stream is opened. -/
inductive Refused (served : String → Option QueueId) (store : QueueStore Message) (size : Nat) (name : String) :
    RuntimeError → Prop
  | unknown (hserved : served name = none) : Refused served store size name (.unknownStream name)
  | noDepth {queue : QueueId} {q : Queue Message} (hserved : served name = some queue)
      (hqueue : store.get? queue = some q) (hsize : size = 0) : Refused served store size name (.invalidQueueSize q.name)

/-- Without depth nothing is ever changed, and with depth it does not matter what is in the store. -/
theorem Refused.of_kept {store' : QueueStore Message} {name : String} {e : RuntimeError}
    (h : Refused served store' size name e) (hkept : size = 0 → store' = store) : Refused served store size name e := by
  cases h with
  | unknown hserved => exact .unknown hserved
  | noDepth hserved hqueue hsize => exact .noDepth hserved (hkept hsize ▸ hqueue) hsize

theorem openQueue_cases (served : String → Option QueueId) (name : String) (size : Nat) (blocking : Bool)
    (store : QueueStore Message) :
    (∃ e, openQueue served name size blocking store = (.error e, store) ∧ Refused served store size name e) ∨
    ∃ queue next, openQueue served name size blocking store = (.ok queue, next) ∧ served name = some queue ∧
      store.Altered (Queue.reopened size blocking) [queue] next ∧ (size = 0 → next = store) := by
  cases hserved : served name with
  | none => exact .inl ⟨_, by rw [openQueue, hserved], .unknown hserved⟩
  | some queue =>
    cases hqueue : store.get? queue with
    | none =>
      refine .inr ⟨queue, store, ?_, rfl, QueueStore.altered_of_absent hqueue, fun _ => rfl⟩
      simp only [openQueue, hserved, QueueStore.resize, QueueStore.setBlocking, QueueStore.modify_of_absent hqueue]
    | some q =>
      by_cases hsize : size = 0
      · refine .inl ⟨.invalidQueueSize q.name, ?_, .noDepth hserved hqueue hsize⟩
        simp only [openQueue, hserved, hsize, QueueStore.resize_zero hqueue]
      · obtain ⟨next, hresize, hnext⟩ := QueueStore.resize_setBlocking hqueue hsize blocking
        have haltered := QueueStore.altered_set (Queue.reopened size blocking) hqueue
        refine .inr ⟨queue, _, ?_, rfl, haltered, fun hzero => absurd hzero hsize⟩
        simp only [openQueue, hserved, hresize, hnext]

theorem openQueue_ok {name : String} {queue : QueueId} {next : QueueStore Message}
    (h : openQueue served name size blocking store = (.ok queue, next)) : served name = some queue ∧
      store.Altered (Queue.reopened size blocking) [queue] next ∧ (size = 0 → next = store) := by
  rcases openQueue_cases served name size blocking store with ⟨e, herror, -⟩ | ⟨queue, next, hok, hchanged⟩
  · rw [herror] at h
    cases h
  · rw [hok] at h
    cases h
    exact hchanged

namespace HostStreams

theorem openSlots_cons_ok {name : String} {rest : List String} {slots : List Slot} {store' : QueueStore Message}
    (h : openSlots served size blocking (name :: rest) store = (.ok slots, store')) :
    ∃ queue next others, openQueue served name size blocking store = (.ok queue, next) ∧
      openSlots served size blocking rest next = (.ok others, store') ∧ slots = { name, queue } :: others := by
  rcases hqueue : openQueue served name size blocking store with ⟨_ | queue, next⟩
  · simp [openSlots, hqueue] at h
  · rcases hrest : openSlots served size blocking rest next with ⟨_ | others, last⟩
    · simp [openSlots, hqueue, hrest, Except.map] at h
    · simp only [openSlots, hqueue, hrest, Except.map, Prod.mk.injEq, Except.ok.injEq] at h
      obtain ⟨rfl, rfl⟩ := h
      exact ⟨queue, next, others, rfl, hrest, rfl⟩

theorem openSlots_ok {names : List String} {slots : List Slot} {store' : QueueStore Message}
    (h : openSlots served size blocking names store = (.ok slots, store')) :
    names.map served = (slots.map Slot.queue).map some ∧
      store.Altered (Queue.reopened size blocking) (slots.map Slot.queue) store' ∧ (size = 0 → store' = store) := by
  induction names generalizing slots store with
  | nil =>
    cases h
    exact ⟨rfl, .refl _ _, fun _ => rfl⟩
  | cons name rest ih =>
    obtain ⟨queue, next, others, hqueue, hrest, rfl⟩ := openSlots_cons_ok h
    obtain ⟨hserved, hnext, hsize⟩ := openQueue_ok hqueue
    obtain ⟨hnames, hothers, hkept⟩ := ih hrest
    refine ⟨?_, hnext.trans (Queue.reopened_reopened size blocking) hothers, fun hzero => ?_⟩
    · rw [List.map_cons, hserved, hnames]
      rfl
    · rw [hkept hzero, hsize hzero]

theorem openSlots_error {names : List String} {store' : QueueStore Message} {e : RuntimeError}
    (h : openSlots served size blocking names store = (.error e, store')) :
    ∃ before name rest slots, names = before ++ name :: rest ∧
      openSlots served size blocking before store = (.ok slots, store') ∧ Refused served store size name e := by
  induction names generalizing store with
  | nil => cases h
  | cons name rest ih =>
    rcases openQueue_cases served name size blocking store with
      ⟨e, hopen, hrefused⟩ | ⟨queue, next, hopen, -, -, hkept⟩
    · simp only [openSlots, hopen, Prod.mk.injEq, Except.error.injEq] at h
      obtain ⟨rfl, rfl⟩ := h
      exact ⟨[], name, rest, [], rfl, rfl, hrefused⟩
    · rcases hrest : openSlots served size blocking rest next with ⟨_ | others, final⟩
      · simp only [openSlots, hopen, hrest, Except.map, Prod.mk.injEq, Except.error.injEq] at h
        obtain ⟨rfl, rfl⟩ := h
        obtain ⟨before, failing, after, slots, rfl, hbefore, hrefused⟩ := ih hrest
        refine ⟨name :: before, failing, after, { name, queue } :: slots, rfl, ?_, hrefused.of_kept hkept⟩
        simp only [openSlots, hopen, hbefore]
        rfl
      · simp [openSlots, hopen, hrest, Except.map] at h

end HostStreams

end

namespace Device

/-- Opening fails at the first name that is refused, because nothing is served under it or because there is no depth. The
queues of the names before it have their new depth and policy by then and have lost their surplus, and all the rest is as
it was. Without depth nothing changes at all. So a call that fails leaves the device as it was exactly if each of those
queues had this depth and policy already, and room for what was in it. -/
theorem failed_open (d : Device) (names : List String) (size : Nat) (blocking : Bool) (e : RuntimeError)
    (hfail : (d.openStreams names size blocking).1 = .error e) :
    let after := (d.openStreams names size blocking).2
    ∃ before name rest queues, names = before ++ name :: rest ∧ before.map d.outputQueue? = queues.map some ∧
      Refused d.outputQueue? d.store size name e ∧ after = { d with store := after.store } ∧
      d.store.Altered (Queue.reopened size blocking) queues after.store ∧ (size = 0 → after = d) ∧
      (after = d ↔ ∀ id ∈ queues, ∀ q, d.store.get? id = some q →
        q.capacity = size ∧ q.blocking = blocking ∧ q.buffer.length ≤ size) := by
  intro after
  rcases hopen : HostStreams.openSlots d.outputQueue? size blocking names d.store with ⟨_ | slots, final⟩
  · obtain rfl : _ = e := by simpa [openStreams, HostStreams.openAll, hopen, Except.map] using hfail
    have hafter : after = { d with store := final } := by simp [after, openStreams, HostStreams.openAll, hopen]
    obtain ⟨before, name, rest, slots, hnames, hbefore, hrefused⟩ := HostStreams.openSlots_error hopen
    obtain ⟨hserved, haltered, hsize⟩ := HostStreams.openSlots_ok hbefore
    have hsame : after = d ↔ final = d.store := by
      rw [hafter]
      exact ⟨congrArg Device.store, fun h => by rw [h]⟩
    refine ⟨before, name, rest, slots.map Slot.queue, hnames, hserved, hrefused, rfl, hafter ▸ haltered, ?_, ?_⟩
    · exact fun hzero => hsame.mpr (hsize hzero)
    · rw [hsame, haltered.eq_self_iff]
      simp only [Queue.reopened_eq_self_iff]
  · simp [openStreams, HostStreams.openAll, hopen, Except.map] at hfail

/-- Two messages wait in the stream of this device. -/
def withBacklog : Device where
  name := "camera"
  hostQueues := {}
  pollInterval := 1
  eventCapacity := 1
  served := [⟨.output "a", 0⟩]
  store := ⟨[{ name := "a", capacity := 4, blocking := true, buffer := [⟨10, 0, .buffer []⟩, ⟨20, 1, .buffer []⟩] }]⟩

theorem failed_open_unknown_second :
    let after := (withBacklog.openStreams ["a", "zz"] 1 false).2
    (withBacklog.openStreams ["a", "zz"] 1 false).1 = .error (.unknownStream "zz") ∧
      (∃ before name rest queues, ["a", "zz"] = before ++ name :: rest ∧
        before.map withBacklog.outputQueue? = queues.map some ∧
        withBacklog.store.Altered (Queue.reopened 1 false) queues after.store) ∧
      after.store = ⟨[
        { name := "a", capacity := 1, blocking := false, buffer := [⟨20, 1, .buffer []⟩], dropped := 1 }]⟩ := by
  intro after
  have hfail : (withBacklog.openStreams ["a", "zz"] 1 false).1 = .error (.unknownStream "zz") := by rfl
  obtain ⟨before, name, rest, queues, hnames, hserved, -, -, haltered, -⟩ :=
    failed_open withBacklog ["a", "zz"] 1 false _ hfail
  exact ⟨hfail, ⟨before, name, rest, queues, hnames, hserved, haltered⟩, by rfl⟩

/-- So a call that fails does change queues, down to the messages in them. -/
theorem failed_open_disturbs : ¬∀ (d : Device) (names : List String) (size : Nat) (blocking : Bool) (e : RuntimeError),
    (d.openStreams names size blocking).1 = .error e →
    ∀ (id : QueueId) (q : Queue Message), d.store.get? id = some q →
      ∃ kept, (d.openStreams names size blocking).2.store.get? id = some kept ∧ kept.buffer = q.buffer ∧
        kept.capacity = q.capacity ∧ kept.blocking = q.blocking ∧ kept.dropped = q.dropped := by
  intro hundisturbed
  obtain ⟨kept, hkept, hbuffer, -⟩ := hundisturbed withBacklog ["a", "zz"] 1 false (.unknownStream "zz") (by rfl) 0 _ rfl
  cases hkept
  cases hbuffer

end Device

end FrameGraph
