import FrameGraph.HostStreams
import FrameGraph.Proofs.Queue.Calls

/-!
# Draining streams that are read together

A drain goes from slot to slot and gives out what it finds, the parked message first. It ends at the first
queue that is closed, and what it has found by then is given to nobody.

* `QueueStore.drain_cases`: what draining one queue comes to.
* `HostStreams.drainSlots_ok`: what a drain answers, by the shares of its slots.
* `HostStreams.drainSlots_error`: where a drain fails, and how far it has come by then.
* `HostStreams.failed_drain`: exactly what a drain that fails takes away.
-/

namespace FrameGraph
set_option autoImplicit false

variable {α : Type}

def Queue.emptied (q : Queue α) : Queue α :=
  { q with buffer := [] }

theorem Queue.emptied_eq_self_iff {q : Queue α} : q.emptied = q ↔ q.buffer = [] := by
  cases q
  simp [Queue.emptied, eq_comm]

namespace QueueStore

/-- A closed queue stands at the place. -/
def Closed (s : QueueStore α) (id : QueueId) : Prop :=
  ∃ q, s.get? id = some q ∧ q.closed = true

/-- The queues at some places are emptied, and all others are as they were. -/
def Emptied (s : QueueStore α) (ids : List QueueId) (t : QueueStore α) : Prop :=
  ∀ id, t.get? id = if id ∈ ids then (s.get? id).map Queue.emptied else s.get? id

theorem Emptied.refl (s : QueueStore α) : s.Emptied [] s :=
  Altered.refl s Queue.emptied

theorem Emptied.trans {s t u : QueueStore α} {a b : List QueueId} (h : s.Emptied a t) (h' : t.Emptied b u) :
    s.Emptied (a ++ b) u :=
  Altered.trans (fun _ => rfl) h h'

theorem Emptied.closed_iff {s t : QueueStore α} {ids : List QueueId} (h : s.Emptied ids t) (id : QueueId) :
    t.Closed id ↔ s.Closed id := by
  unfold Closed
  rw [h id]
  split
  · cases s.get? id <;> simp [Queue.emptied]
  · rfl

theorem Emptied.eq_self_iff {s t : QueueStore α} {ids : List QueueId} (h : s.Emptied ids t) :
    t = s ↔ ∀ id ∈ ids, ∀ q, s.get? id = some q → q.buffer = [] := by
  simpa only [Queue.emptied_eq_self_iff] using Altered.eq_self_iff h

theorem drain_cases (s : QueueStore α) (id : QueueId) :
    (∃ q, s.get? id = some q ∧ q.closed = true ∧ s.drain id = (.error q.closedError, s)) ∨
    (¬s.Closed id ∧ ∃ ms t, s.drain id = (.ok ms, t) ∧ s.Emptied [id] t) := by
  cases hq : s.get? id with
  | none =>
    refine .inr ⟨fun ⟨q, hsome, _⟩ => ?_, [], s, modify_of_absent hq _ _, altered_of_absent hq⟩
    rw [hq] at hsome
    cases hsome
  | some q =>
    have hcall : s.drain id = (q.drain.1, { queues := s.queues.set id q.drain.2 }) := modify_of_get? hq _ _
    rcases q.drain_cases with ⟨hclosed, hdrain⟩ | ⟨hopen, hdrain⟩
    · -- A closed queue is put back as it was.
      rw [hdrain, set_self hq] at hcall
      exact .inl ⟨q, rfl, hclosed, hcall⟩
    · rw [hdrain] at hcall
      refine .inr ⟨fun ⟨p, hsome, hclosed⟩ => ?_, _, _, hcall, altered_set Queue.emptied hq⟩
      obtain rfl : q = p := Option.some.inj (hq.symm.trans hsome)
      rw [hopen] at hclosed
      cases hclosed

end QueueStore

namespace HostStreams

/-- What a drain takes out of the queue of each slot, up to the first one that fails. -/
def drawn : List Slot → QueueStore Message → List (List Message)
  | [], _ => []
  | slot :: rest, store => match store.drain slot.queue with
    | (.ok ms, store) => ms :: drawn rest store
    | (.error _, _) => []

/-- What a drain answers for each slot. -/
def drainShares (slots : List Slot) (store : QueueStore Message) : List (List Message) :=
  slots.zipWith (fun slot ms => slot.parked.toList ++ ms) (drawn slots store)

/-- The entries of a set that is made up of the shares of its streams. -/
def layOut (names : List String) (shares : List (List Message)) : List (String × Message) :=
  (names.zip shares).flatMap fun (name, ms) => ms.map fun m => (name, m)

theorem drainSlots_ok {slots slots' : List Slot} {store store' : QueueStore Message}
    {entries : List (String × Message)} (h : drainSlots slots store = (.ok entries, slots', store')) :
    slots' = unpark slots ∧ (drawn slots store).length = slots.length ∧
      entries = layOut (slots.map Slot.name) (drainShares slots store) ∧
      (∀ slot ∈ slots, ¬store.Closed slot.queue) ∧ store.Emptied (slots.map Slot.queue) store' := by
  induction slots generalizing slots' store entries with
  | nil =>
    cases h
    exact ⟨rfl, rfl, rfl, fun _ hslot => (nomatch hslot), .refl _⟩
  | cons slot rest ih =>
    rcases store.drain_cases slot.queue with ⟨q, -, -, hdrain⟩ | ⟨hopen, ms, next, hdrain, hempty⟩
    · simp [drainSlots, drainSlot, hdrain, Except.map] at h
    · rcases hrest : drainSlots rest next with ⟨_ | others, after, final⟩
      · simp [drainSlots, drainSlot, hdrain, Except.map, hrest] at h
      · simp only [drainSlots, drainSlot, hdrain, Except.map, hrest, Prod.mk.injEq, Except.ok.injEq] at h
        obtain ⟨rfl, rfl, rfl⟩ := h
        obtain ⟨rfl, hlength, rfl, hrestopen, hrestempty⟩ := ih hrest
        refine ⟨rfl, ?_, ?_, ?_, hempty.trans hrestempty⟩
        · simp [drawn, hdrain, hlength]
        · simp [layOut, drainShares, drawn, hdrain]
        · refine List.forall_mem_cons.mpr ⟨hopen, fun other hother => ?_⟩
          exact fun hclosed => hrestopen other hother ((hempty.closed_iff _).mpr hclosed)

theorem drainSlots_error {slots slots' : List Slot} {store store' : QueueStore Message} {e : RuntimeError}
    (h : drainSlots slots store = (.error e, slots', store')) :
    ∃ before slot after entries, slots = before ++ slot :: after ∧
      drainSlots before store = (.ok entries, unpark before, store') ∧
      slots' = unpark (before ++ [slot]) ++ after ∧
      ∃ q, store'.get? slot.queue = some q ∧ q.closed = true ∧ e = q.closedError := by
  induction slots generalizing slots' store with
  | nil => cases h
  | cons slot rest ih =>
    rcases store.drain_cases slot.queue with ⟨q, hq, hclosed, hdrain⟩ | ⟨hopen, ms, next, hdrain, hempty⟩
    · simp only [drainSlots, drainSlot, hdrain, Except.map, Prod.mk.injEq, Except.error.injEq] at h
      obtain ⟨rfl, rfl, rfl⟩ := h
      exact ⟨[], slot, rest, [], rfl, rfl, rfl, q, hq, hclosed, rfl⟩
    · rcases hrest : drainSlots rest next with ⟨_ | others, after, final⟩
      · simp only [drainSlots, drainSlot, hdrain, Except.map, hrest, Prod.mk.injEq, Except.error.injEq] at h
        obtain ⟨rfl, rfl, rfl⟩ := h
        obtain ⟨before, failing, last, entries, rfl, hbefore, rfl, hq⟩ := ih hrest
        refine ⟨slot :: before, failing, last, (slot.parked.toList ++ ms).map (fun m => (slot.name, m)) ++ entries,
          rfl, ?_, rfl, hq⟩
        simp only [drainSlots, drainSlot, hdrain, Except.map, hbefore]
        rfl
      · simp [drainSlots, drainSlot, hdrain, Except.map, hrest] at h

theorem unpark_eq_self_iff {slots : List Slot} : unpark slots = slots ↔ ∀ slot ∈ slots, slot.parked = none := by
  induction slots with
  | nil => simp [unpark]
  | cons slot rest ih =>
    have hhead : { slot with parked := none } = slot ↔ slot.parked = none := by
      cases slot
      simp [eq_comm]
    rw [List.forall_mem_cons, ← ih, ← hhead]
    exact List.cons_eq_cons

/-- A drain fails at the first slot whose queue is closed. What was parked up to there and what was buffered before
is gone, and all the rest is as it was. So such a drain leaves everything in place exactly if there was nothing on
its way. -/
theorem failed_drain (h : HostStreams) (store : QueueStore Message) (e : RuntimeError)
    (hfail : (h.tryGetAll store).1 = .error e) :
    let after := (h.tryGetAll store).2
    ∃ before slot rest, h.slots = before ++ slot :: rest ∧
      (∃ q, store.get? slot.queue = some q ∧ q.closed = true ∧ e = .queueClosed q.name) ∧
      (∀ earlier ∈ before, ¬store.Closed earlier.queue) ∧
      after.1.slots = unpark (before ++ [slot]) ++ rest ∧
      store.Emptied (before.map Slot.queue) after.2 ∧
      (after = (h, store) ↔ (∀ passed ∈ before ++ [slot], passed.parked = none) ∧
        ∀ earlier ∈ before, ∀ q, store.get? earlier.queue = some q → q.buffer = []) := by
  intro after
  rcases hdrain : drainSlots h.slots store with ⟨_ | entries, slots, final⟩
  · obtain rfl : _ = e := by simpa [tryGetAll, hdrain, Except.map] using hfail
    have hafter : after = (⟨slots⟩, final) := by simp [after, tryGetAll, hdrain]
    obtain ⟨before, slot, rest, entries, hslots, hbefore, rfl, q, hq, hclosed, rfl⟩ := drainSlots_error hdrain
    obtain ⟨-, -, -, hopen, hempty⟩ := drainSlots_ok hbefore
    have hfailing : store.Closed slot.queue := (hempty.closed_iff _).mp ⟨q, hq, hclosed⟩
    have hq : store.get? slot.queue = some q := by
      rw [hempty, if_neg] at hq
      · exact hq
      · intro hmem
        obtain ⟨earlier, hearlier, hsame⟩ := List.mem_map.mp hmem
        exact hopen earlier hearlier (hsame ▸ hfailing)
    have hsplit : h = ⟨before ++ [slot] ++ rest⟩ := by
      rw [List.append_assoc]
      exact congrArg HostStreams.mk hslots
    rw [hafter]
    refine ⟨before, slot, rest, hslots, ⟨q, hq, hclosed, rfl⟩, hopen, rfl, hempty, ?_⟩
    rw [Prod.mk.injEq, hempty.eq_self_iff, hsplit, mk.injEq, List.append_cancel_right_eq, unpark_eq_self_iff,
      List.forall_mem_map]
  · simp [tryGetAll, hdrain, Except.map] at hfail

/-- The first of two streams has a message parked and another one in its queue when the second one is closed. -/
theorem failed_drain_second_closed :
    let h : HostStreams := ⟨[⟨"a", 0, some ⟨10, 0, .buffer []⟩⟩, ⟨"b", 1, none⟩]⟩
    let store : QueueStore Message := ⟨[
      { name := "a", capacity := 4, blocking := false, buffer := [⟨20, 1, .buffer []⟩] },
      { name := "b", capacity := 4, blocking := false, closed := true }]⟩
    (h.tryGetAll store).1 = .error (.queueClosed "b") ∧
      (∃ before slot rest, h.slots = before ++ slot :: rest ∧
        (h.tryGetAll store).2.1.slots = unpark (before ++ [slot]) ++ rest ∧
        store.Emptied (before.map Slot.queue) (h.tryGetAll store).2.2) ∧
      (h.tryGetAll store).2 = (⟨[⟨"a", 0, none⟩, ⟨"b", 1, none⟩]⟩, ⟨[
        { name := "a", capacity := 4, blocking := false },
        { name := "b", capacity := 4, blocking := false, closed := true }]⟩) := by
  intro h store
  have hfail : (h.tryGetAll store).1 = .error (.queueClosed "b") := by rfl
  obtain ⟨before, slot, rest, hslots, -, -, hafter, hempty, -⟩ := failed_drain h store _ hfail
  exact ⟨hfail, ⟨before, slot, rest, hslots, hafter, hempty⟩, by rfl⟩

/-- So a drain that fails does lose messages, those that were parked and those in queues that are still open. -/
theorem failed_drain_loses : ¬∀ (h : HostStreams) (store : QueueStore Message) (e : RuntimeError),
    (h.tryGetAll store).1 = .error e →
    (∀ (i : Nat) (slot : Slot) (m : Message), h.slots[i]? = some slot → slot.parked = some m →
      ∃ kept, (h.tryGetAll store).2.1.slots[i]? = some kept ∧ kept.parked = some m) ∧
    ∀ (id : QueueId) (q : Queue Message), store.get? id = some q → q.closed = false →
      ∃ kept, (h.tryGetAll store).2.2.get? id = some kept ∧ kept.buffer = q.buffer := by
  intro hlossless
  obtain ⟨-, hkept⟩ := hlossless ⟨[⟨"a", 0, some ⟨10, 0, .buffer []⟩⟩, ⟨"b", 1, none⟩]⟩
    ⟨[{ name := "a", capacity := 4, blocking := false, buffer := [⟨20, 1, .buffer []⟩] },
      { name := "b", capacity := 4, blocking := false, closed := true }]⟩ (.queueClosed "b") (by rfl)
  obtain ⟨kept, hafter, hbuffer⟩ := hkept 0 _ rfl rfl
  cases hafter
  cases hbuffer

end HostStreams

end FrameGraph
