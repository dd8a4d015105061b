import FrameGraph.Proofs.HostStreams.Draining
import FrameGraph.Queue.Waiting
import Mathlib.Data.List.TakeWhile

/-!
# Sets that stay together

A call for a set waits at one stream after the other, and at each of them it can be given up or fail. What it
has taken by then stays parked, and whichever call comes next goes on from there.

* `HostStreams.advance`: a call for a set up to its next message; `HostStreams.getSet_eq_advance` says that the
  attempts are made up of such steps.
* `Reading`: streams with books of what was taken out of the queues and of what was answered.
* `Reading.Balanced`: the books agree, for which `Balanced.step` is the step and `Balanced.run` the run.
* `Reading.Even`: without drains every answer has one message of each stream.
* `Reading.sets_stay_aligned`: no message is lost or moves to another set, in any reading.
-/

namespace FrameGraph
set_option autoImplicit false

namespace HostStreams

/-! ## A call for a set, step by step -/

/-- What a call for a set comes to at the next stream that it lacks. -/
inductive Progress where
  /-- The slot at this place has taken a message. -/
  | took (place : Nat) (m : Message)
  | complete (set : StreamSet)
  | failed (e : RuntimeError)
  | waits

/-- A call for a set looks at the first slot without a message, and ends when there is none. -/
def advance (h : HostStreams) (store : QueueStore Message) : Progress × HostStreams × QueueStore Message :=
  let filled := h.slots.takeWhile fun slot => slot.parked.isSome
  match h.slots.dropWhile fun slot => slot.parked.isSome with
  | [] => (.complete (parkedSet h.slots), ⟨unpark h.slots⟩, store)
  | slot :: rest => match store.take slot.queue with
    | (.wait, store) => (.waits, h, store)
    | (.done (.error e), store) => (.failed e, h, store)
    | (.done (.ok m), store) =>
      (.took filled.length m, ⟨filled ++ { slot with parked := some m } :: rest⟩, store)

theorem advance_of_filled {h : HostStreams} (hfilled : ∀ slot ∈ h.slots, slot.parked.isSome) (store : QueueStore Message) :
    h.advance store = (.complete (parkedSet h.slots), ⟨unpark h.slots⟩, store) := by
  have hbehind : h.slots.dropWhile (fun slot => slot.parked.isSome) = [] := List.dropWhile_eq_nil_iff.mpr hfilled
  simp only [advance, hbehind]

theorem advance_of_lacking {h : HostStreams} {filled rest : List Slot} {slot : Slot}
    (hslots : h.slots = filled ++ slot :: rest) (hfilled : ∀ earlier ∈ filled, earlier.parked.isSome)
    (hlacks : slot.parked = none) (store : QueueStore Message) :
    h.advance store = match store.take slot.queue with
      | (.wait, store) => (.waits, h, store)
      | (.done (.error e), store) => (.failed e, h, store)
      | (.done (.ok m), store) => (.took filled.length m, ⟨filled ++ { slot with parked := some m } :: rest⟩, store) := by
  have hfront : h.slots.takeWhile (fun slot => slot.parked.isSome) = filled := by
    rw [hslots, List.takeWhile_append_of_pos hfilled, List.takeWhile_cons_of_neg (by simp [hlacks]), List.append_nil]
  have hbehind : h.slots.dropWhile (fun slot => slot.parked.isSome) = slot :: rest := by
    rw [hslots, List.dropWhile_append_of_pos hfilled, List.dropWhile_cons_of_neg (by simp [hlacks])]
  simp only [advance, hfront, hbehind]

theorem advance_cases (h : HostStreams) (store : QueueStore Message) :
    ((∀ slot ∈ h.slots, slot.parked.isSome) ∧
      h.advance store = (.complete (parkedSet h.slots), ⟨unpark h.slots⟩, store)) ∨
    ∃ filled slot rest, h.slots = filled ++ slot :: rest ∧ (∀ earlier ∈ filled, earlier.parked.isSome) ∧
      slot.parked = none ∧ h.advance store = match store.take slot.queue with
        | (.wait, store) => (.waits, h, store)
        | (.done (.error e), store) => (.failed e, h, store)
        | (.done (.ok m), store) =>
          (.took filled.length m, ⟨filled ++ { slot with parked := some m } :: rest⟩, store) := by
  have hsplit := h.slots.takeWhile_append_dropWhile (p := fun slot => slot.parked.isSome)
  have hfilled : ∀ earlier ∈ h.slots.takeWhile fun slot => slot.parked.isSome, earlier.parked.isSome :=
    fun _ hearlier => List.mem_takeWhile_imp (p := fun slot : Slot => slot.parked.isSome) hearlier
  cases hrest : h.slots.dropWhile fun slot => slot.parked.isSome with
  | nil =>
    rw [hrest, List.append_nil] at hsplit
    rw [hsplit] at hfilled
    exact .inl ⟨hfilled, advance_of_filled hfilled store⟩
  | cons slot rest =>
    rw [hrest] at hsplit
    have hlacks := List.head?_dropWhile_not (fun slot : Slot => slot.parked.isSome) h.slots
    rw [hrest] at hlacks
    have hnone : slot.parked = none := by simpa using hlacks
    exact .inr ⟨_, slot, rest, hsplit.symm, hfilled, hnone, advance_of_lacking hsplit.symm hfilled hnone store⟩

/-- Slots that have their message already are passed over. -/
theorem fill_filled {filled : List Slot} (h : ∀ slot ∈ filled, slot.parked.isSome) (rest : List Slot)
    (store : QueueStore Message) :
    fill (filled ++ rest) store =
      ((fill rest store).1, filled ++ (fill rest store).2.1, (fill rest store).2.2) := by
  induction filled with
  | nil => rfl
  | cons slot others ih =>
    obtain ⟨hslot, hothers⟩ := List.forall_mem_cons.mp h
    rw [List.cons_append, fill, if_pos hslot, ih hothers]
    rfl

/-- One attempt at a set is a step, and the attempt that goes on after it. -/
theorem getSet_eq_advance (h : HostStreams) (store : QueueStore Message) :
    h.getSet store = match h.advance store with
      | (.took _ _, h, store) => h.getSet store
      | (.complete set, h, store) => (.done (.ok set), h, store)
      | (.failed e, h, store) => (.done (.error e), h, store)
      | (.waits, h, store) => (.wait, h, store) := by
  rcases h.advance_cases store with ⟨hfilled, hstep⟩ | ⟨filled, slot, rest, hslots, hfilled, hlacks, hstep⟩
  · have hfill := fill_filled hfilled [] store
    rw [List.append_nil] at hfill
    rw [hstep, getSet, hfill]
    simp [fill]
  · rw [hstep, getSet, hslots, fill_filled hfilled, fill, hlacks]
    rcases htake : store.take slot.queue with ⟨⟨e | m⟩ | _, next⟩
    · simp only [← hslots, Option.isSome_none, Bool.false_eq_true, if_false]
    · have hnow : ∀ s ∈ filled ++ [{ slot with parked := some m }], s.parked.isSome := by
        rw [List.forall_mem_append, List.forall_mem_singleton]
        exact ⟨hfilled, rfl⟩
      have hfill := fill_filled hnow rest next
      rw [List.append_assoc] at hfill
      simp only [Option.isSome_none, Bool.false_eq_true, if_false, getSet]
      rw [List.singleton_append] at hfill
      rw [hfill]
      simp
    · simp only [← hslots, Option.isSome_none, Bool.false_eq_true, if_false]

theorem getSetTimeout_eq_advance (h : HostStreams) (store : QueueStore Message) :
    h.getSetTimeout store = match h.advance store with
      | (.took _ _, h, store) => h.getSetTimeout store
      | (.complete set, h, store) => (.ok (some set), h, store)
      | (.failed e, h, store) => (.error e, h, store)
      | (.waits, h, store) => (.ok none, h, store) := by
  rw [getSetTimeout, getSet_eq_advance]
  rcases h.advance store with ⟨_ | _ | _ | _, _, _⟩ <;> rfl

/-! ## Complete sets -/

theorem names_fill (slots : List Slot) (store : QueueStore Message) :
    (fill slots store).2.1.map Slot.name = slots.map Slot.name := by
  induction slots generalizing store with
  | nil => rfl
  | cons slot rest ih =>
    rw [fill]
    split
    · simp [ih]
    · split <;> simp [ih]

theorem filled_of_fill {slots : List Slot} {store : QueueStore Message} (h : (fill slots store).1 = .done (.ok ())) :
    ∀ slot ∈ (fill slots store).2.1, slot.parked.isSome := by
  induction slots generalizing store with
  | nil => exact fun _ hslot => nomatch hslot
  | cons slot rest ih =>
    rw [fill] at h ⊢
    split at h
    · rename_i hslot
      rw [if_pos hslot]
      exact List.forall_mem_cons.mpr ⟨hslot, ih h⟩
    · rename_i hslot
      rw [if_neg hslot]
      split at h
      · cases h
      · cases h
      · exact List.forall_mem_cons.mpr ⟨rfl, ih h⟩

/-- A set of parked messages is made up of one share for each slot: its message, or nothing. -/
theorem entries_parkedSet (slots : List Slot) :
    (parkedSet slots).entries = layOut (slots.map Slot.name) (slots.map fun slot => slot.parked.toList) := by
  induction slots with
  | nil => rfl
  | cons slot rest ih =>
    simp only [parkedSet, layOut, List.map_cons, List.zip_cons_cons, List.flatMap_cons] at ih ⊢
    cases hparked : slot.parked <;> simp [hparked, ih]

/-- The shares of a complete set are single messages. -/
theorem layOut_singles (names : List String) (ms : List Message) :
    layOut names (ms.map fun m => [m]) = names.zip ms := by
  induction names generalizing ms with
  | nil => rfl
  | cons name rest ih =>
    cases ms with
    | nil => rfl
    | cons m others => simpa [layOut] using ih others

theorem singles_of_filled {slots : List Slot} (h : ∀ slot ∈ slots, slot.parked.isSome) :
    ∃ ms : List Message, ms.length = slots.length ∧
      slots.map (fun slot => slot.parked.toList) = ms.map fun m => [m] := by
  induction slots with
  | nil => exact ⟨[], rfl, rfl⟩
  | cons slot rest ih =>
    obtain ⟨hslot, hrest⟩ := List.forall_mem_cons.mp h
    obtain ⟨m, hm⟩ := Option.isSome_iff_exists.mp hslot
    obtain ⟨ms, hlength, hshares⟩ := ih hrest
    exact ⟨m :: ms, by simp [hlength], by simp [hm, hshares]⟩

theorem names_of_getSet {h : HostStreams} {store : QueueStore Message} {set : StreamSet}
    (hset : (h.getSet store).1 = .done (.ok set)) : set.entries.map Prod.fst = h.names := by
  have hnames := names_fill h.slots store
  have hfilled := @filled_of_fill h.slots store
  rw [getSet] at hset
  rcases hfill : fill h.slots store with ⟨⟨_ | _⟩ | _, slots, next⟩ <;> simp only [hfill] at hset hnames hfilled
  · cases hset
  · obtain rfl : parkedSet slots = set := by simpa using hset
    obtain ⟨ms, hlength, hshares⟩ := singles_of_filled (hfilled trivial)
    rw [entries_parkedSet, hshares, layOut_singles, names, ← hnames]
    exact List.map_fst_zip (by simp [hlength])
  · cases hset

/-- What is parked in the slot at a place. -/
def parkedAt (h : HostStreams) (place : Nat) : List Message :=
  (h.slots[place]?.bind Slot.parked).toList

end HostStreams

/-! ## The books of a reading -/

/-- Streams that are read together, among queues that others use as well. Written down besides is what each
slot has taken out of its queue so far, by its place, and which share every slot has in each answer. -/
structure Reading where
  streams : HostStreams
  store : QueueStore Message
  dequeued : Nat → List Message
  answers : List StreamSet := []
  shares : List (List (List Message)) := []

inductive Reading.Move where
  /-- Somebody else makes a call on a queue. -/
  | call (queue : QueueId) (call : Call Message)
  /-- The call for a set goes on, or a new one begins. -/
  | advance
  | drain

namespace Reading
open HostStreams

/-- What is parked at the start was taken out before. -/
def start (h : HostStreams) (store : QueueStore Message) : Reading :=
  { streams := h, store, dequeued := h.parkedAt }

def step (s : Reading) : Move → Reading
  | .call queue call => { s with store := (s.store.modify queue .waits fun q => q.perform call).2 }
  | .advance => match s.streams.advance s.store with
    | (.took place m, streams, store) => { s with
        streams, store
        dequeued := fun i => if i = place then s.dequeued i ++ [m] else s.dequeued i }
    | (.complete set, streams, store) => { s with
        streams, store
        answers := s.answers ++ [set]
        shares := s.shares ++ [s.streams.slots.map fun slot => slot.parked.toList] }
    | (_, streams, store) => { s with streams, store }
  | .drain =>
    let dequeued := fun i => s.dequeued i ++ (drawn s.streams.slots s.store).getD i []
    match s.streams.tryGetAll s.store with
    | (.ok set, streams, store) => {
        streams, store, dequeued
        answers := s.answers ++ [set]
        shares := s.shares ++ [drainShares s.streams.slots s.store] }
    | (.error _, streams, store) => { s with streams, store, dequeued }

def run (s : Reading) (moves : List Move) : Reading :=
  moves.foldl step s

/-- Every drain on the way has an answer. -/
def DrainsSucceed (s : Reading) : List Move → Prop
  | [] => True
  | m :: rest => (m = .drain → (s.streams.tryGetAll s.store).1.toBool = true) ∧ (s.step m).DrainsSucceed rest

instance (m : Move) : Decidable (m = .drain) :=
  match m with
  | .call _ _ | .advance => isFalse nofun
  | .drain => isTrue rfl

instance decidableDrainsSucceed (s : Reading) : (moves : List Move) → Decidable (s.DrainsSucceed moves)
  | [] => isTrue trivial
  | m :: rest =>
    have := decidableDrainsSucceed (s.step m) rest
    inferInstanceAs (Decidable ((m = .drain → (s.streams.tryGetAll s.store).1.toBool = true) ∧ _))

/-- What was answered for the slot at a place. -/
def returned (s : Reading) (place : Nat) : List Message :=
  s.shares.flatMap fun share => share.getD place []

/-- The books of streams that were `h` at the start agree with the answers and with what is parked. -/
structure Balanced (h : HostStreams) (s : Reading) : Prop where
  slots : unpark s.streams.slots = unpark h.slots
  parked : ∀ {i : Nat} {slot : Slot}, s.streams.slots[i]? = some slot →
    s.dequeued i = s.returned i ++ slot.parked.toList
  answered : s.answers.map SyncedSet.entries = s.shares.map (layOut h.names)

theorem names_of_unpark {h other : HostStreams} (hslots : unpark other.slots = unpark h.slots) :
    other.names = h.names := by
  simpa [unpark, names, Function.comp_def] using congrArg (List.map Slot.name) hslots

theorem unpark_unpark (slots : List Slot) : unpark (unpark slots) = unpark slots := by
  simp [unpark]

theorem Balanced.start (h : HostStreams) (store : QueueStore Message) : Balanced h (Reading.start h store) where
  slots := rfl
  parked {i slot} hslot := by
    have hslot : h.slots[i]? = some slot := hslot
    simp [Reading.start, returned, parkedAt, hslot]
  answered := rfl

/-- An answer takes the parked messages with it, and possibly more that was taken out for it. -/
theorem Balanced.answer {h : HostStreams} {s next : Reading} (hs : Balanced h s) {set : StreamSet}
    {share : List (List Message)} (more : Nat → List Message) (hslots : next.streams.slots = unpark s.streams.slots)
    (hanswers : next.answers = s.answers ++ [set]) (hshares : next.shares = s.shares ++ [share])
    (hdequeued : ∀ i, next.dequeued i = s.dequeued i ++ more i)
    (hshare : ∀ i slot, s.streams.slots[i]? = some slot → share.getD i [] = slot.parked.toList ++ more i)
    (hset : set.entries = layOut s.streams.names share) : Balanced h next where
  slots := by rw [hslots, unpark_unpark, hs.slots]
  parked {i slot} hslot := by
    rw [hslots, unpark, List.getElem?_map, Option.map_eq_some_iff] at hslot
    obtain ⟨old, hold, rfl⟩ := hslot
    rw [hdequeued, hs.parked hold, returned, returned, hshares, List.flatMap_append, List.flatMap_singleton,
      hshare i old hold]
    simp
  answered := by
    rw [hanswers, hshares, List.map_append, List.map_append, hs.answered, List.map_singleton,
      List.map_singleton, hset, names_of_unpark hs.slots]

theorem Balanced.took {h : HostStreams} {s : Reading} (hs : Balanced h s) {filled rest : List Slot} {slot : Slot}
    (hslots : s.streams.slots = filled ++ slot :: rest) (hlacks : slot.parked = none) (m : Message)
    (store : QueueStore Message) :
    Balanced h { s with
      streams := ⟨filled ++ { slot with parked := some m } :: rest⟩
      store
      dequeued := fun i => if i = filled.length then s.dequeued i ++ [m] else s.dequeued i } where
  slots := by
    rw [← hs.slots, hslots]
    simp [unpark]
  parked {i other} hother := by
    by_cases hi : i = filled.length
    · subst hi
      have hold := hs.parked (show s.streams.slots[filled.length]? = some slot by simp [hslots])
      obtain rfl : { slot with parked := some m } = other := by simpa using hother
      simp only [if_true]
      rw [hold, hlacks]
      simp [returned]
    · have hsame : s.streams.slots[i]? = some other := by
        rw [hslots, ← hother]
        simp only [List.getElem?_append, List.getElem?_cons]
        split
        · rfl
        · rw [if_neg (by omega), if_neg (by omega)]
      simp only [hi, if_false]
      exact hs.parked hsame
  answered := hs.answered

theorem Balanced.advance {h : HostStreams} {s : Reading} (hs : Balanced h s) : Balanced h (s.step .advance) := by
  rcases s.streams.advance_cases s.store with ⟨hfilled, hstep⟩ |
    ⟨filled, slot, rest, hslots, hfilled, hlacks, hstep⟩
  · simp only [step, hstep]
    refine hs.answer (fun _ => []) rfl rfl rfl (fun i => by simp) (fun i slot hslot => ?_)
      (entries_parkedSet _)
    simp [List.getD, hslot]
  · simp only [step, hstep]
    rcases s.store.take slot.queue with ⟨⟨e | m⟩ | _, next⟩
    · exact ⟨hs.slots, hs.parked, hs.answered⟩
    · exact hs.took hslots hlacks m next
    · exact ⟨hs.slots, hs.parked, hs.answered⟩

theorem Balanced.step {h : HostStreams} {s : Reading} (hs : Balanced h s) (m : Move)
    (hdrain : m = .drain → (s.streams.tryGetAll s.store).1.toBool = true) : Balanced h (s.step m) := by
  cases m with
  | call queue call => exact ⟨hs.slots, hs.parked, hs.answered⟩
  | advance => exact hs.advance
  | drain =>
    have hdrain := hdrain rfl
    simp only [Reading.step]
    rw [tryGetAll] at hdrain ⊢
    rcases hslots : drainSlots s.streams.slots s.store with ⟨e | entries, slots, next⟩
    · rw [hslots] at hdrain
      cases hdrain
    · obtain ⟨rfl, hlength, rfl, -, -⟩ := drainSlots_ok hslots
      refine hs.answer (fun i => (drawn s.streams.slots s.store).getD i []) rfl rfl rfl (fun i => rfl)
        (fun i slot hslot => ?_) rfl
      have hi : i < (drawn s.streams.slots s.store).length := hlength ▸ (List.getElem?_eq_some_iff.mp hslot).1
      simp [List.getD, drainShares, List.getElem?_zipWith, hslot, hi]

theorem Balanced.run {h : HostStreams} {s : Reading} (hs : Balanced h s) {moves : List Move}
    (hdrains : s.DrainsSucceed moves) : Balanced h (s.run moves) := by
  induction moves generalizing s with
  | nil => exact hs
  | cons m rest ih => exact ih (hs.step m hdrains.1) hdrains.2

/-! ## Readings of sets only -/

/-- Every answer holds one message for each slot. -/
def Even (s : Reading) : Prop :=
  ∀ share ∈ s.shares, ∃ ms : List Message, ms.length = s.streams.slots.length ∧ share = ms.map fun m => [m]

theorem Even.step {s : Reading} (hs : s.Even) {m : Move} (hm : m ≠ .drain) : (s.step m).Even := by
  cases m with
  | call queue call => exact hs
  | advance =>
    rcases s.streams.advance_cases s.store with ⟨hfilled, hstep⟩ | ⟨filled, slot, rest, hslots, -, -, hstep⟩
    · simp only [Reading.step, hstep]
      intro share hshare
      simp only [unpark, List.length_map]
      rcases List.mem_append.mp hshare with hshare | hshare
      · exact hs share hshare
      · rw [List.mem_singleton.mp hshare]
        exact singles_of_filled hfilled
    · simp only [Reading.step, hstep]
      rcases s.store.take slot.queue with ⟨⟨e | m⟩ | _, next⟩
      · exact hs
      · intro share hshare
        obtain ⟨ms, hlength, hsingles⟩ := hs share hshare
        exact ⟨ms, by simpa [hslots] using hlength, hsingles⟩
      · exact hs
  | drain => exact absurd rfl hm

theorem Even.run {s : Reading} (hs : s.Even) {moves : List Move} (hno : .drain ∉ moves) : (s.run moves).Even := by
  induction moves generalizing s with
  | nil => exact hs
  | cons m rest ih =>
    obtain ⟨hm, hrest⟩ := List.ne_and_not_mem_of_not_mem_cons hno
    exact ih (hs.step (Ne.symm hm)) hrest

/-- Where every part of a list is one item, the items stand in the places of the parts. -/
theorem getElem?_flatMap_of_single {α β : Type} {f : α → List β} {l : List α} (h : ∀ a ∈ l, ∃ b, f a = [b]) (k : Nat) :
    (l.flatMap f)[k]? = l[k]?.bind fun a => (f a).head? := by
  induction l generalizing k with
  | nil => rfl
  | cons a rest ih =>
    obtain ⟨⟨b, hb⟩, hrest⟩ := List.forall_mem_cons.mp h
    rw [List.flatMap_cons, hb]
    cases k with
    | zero => simp [hb]
    | succ k => simpa using ih hrest k

theorem Balanced.aligned {h : HostStreams} {s : Reading} (hs : Balanced h s) (heven : s.Even) {k i : Nat}
    {set : StreamSet} {slot : Slot} (hset : s.answers[k]? = some set) (hslot : s.streams.slots[i]? = some slot) :
    ∃ m, set.entries[i]? = some (slot.name, m) ∧ (s.dequeued i)[k]? = some m := by
  have hanswer := congrArg (fun entries => entries[k]?) hs.answered
  simp only [List.getElem?_map, hset, Option.map_some] at hanswer
  obtain ⟨share, hshare, hentries⟩ := Option.map_eq_some_iff.mp hanswer.symm
  obtain ⟨ms, hlength, rfl⟩ := heven share (List.mem_of_getElem? hshare)
  have hi : i < ms.length := hlength ▸ (List.getElem?_eq_some_iff.mp hslot).1
  have hname : h.names[i]? = some slot.name := by
    rw [← names_of_unpark hs.slots, names, List.getElem?_map, hslot]
    rfl
  have hsingle : ∀ share ∈ s.shares, ∃ m, share.getD i [] = [m] := by
    intro share hmem
    obtain ⟨others, hothers, rfl⟩ := heven share hmem
    have hi : i < others.length := hothers ▸ (List.getElem?_eq_some_iff.mp hslot).1
    exact ⟨others[i], by simp [List.getD, hi]⟩
  refine ⟨ms[i], ?_, ?_⟩
  · rw [← hentries, layOut_singles]
    simp [List.getElem?_zip_eq_some, hname, hi]
  · have hreturned : (s.returned i)[k]? = some ms[i] := by
      rw [returned, getElem?_flatMap_of_single hsingle, hshare]
      simp [List.getD, hi]
    obtain ⟨hk, -⟩ := List.getElem?_eq_some_iff.mp hreturned
    rw [hs.parked hslot, List.getElem?_append_left hk, hreturned]

theorem Balanced.names_of_answer {h : HostStreams} {s : Reading} (hs : Balanced h s) (heven : s.Even) {set : StreamSet}
    (hset : set ∈ s.answers) : set.entries.map Prod.fst = h.names := by
  have hentries : set.entries ∈ s.shares.map (layOut h.names) := hs.answered ▸ List.mem_map_of_mem hset
  obtain ⟨share, hshare, hlaid⟩ := List.mem_map.mp hentries
  obtain ⟨ms, hlength, rfl⟩ := heven share hshare
  have hslots : s.streams.slots.length = h.slots.length := by simpa [unpark] using congrArg List.length hs.slots
  rw [← hlaid, layOut_singles]
  exact List.map_fst_zip (by simp [names, hlength, hslots])

/-- Whatever others do to the queues, and wherever a call for a set has to wait, is given up or fails: what a slot
has taken out of its queue is what was answered for it, in this order, and what it has parked. Every answer lays
out the shares of the slots in the order in which they were opened, and as long as nobody drains, the first answer
has the first message that each slot took, the second one the second, and so on. A call for a set goes on step by
step; it ends with one message of every stream, or where it waits or fails. -/
theorem sets_stay_aligned (h : HostStreams) (store : QueueStore Message) (moves : List Move)
    (hdrains : (start h store).DrainsSucceed moves) :
    let s := (start h store).run moves
    unpark s.streams.slots = unpark h.slots ∧
    (∀ i slot, s.streams.slots[i]? = some slot → s.dequeued i = s.returned i ++ slot.parked.toList) ∧
    s.answers.map SyncedSet.entries = s.shares.map (layOut h.names) ∧
    (.drain ∉ moves → ∀ (k : Nat) (set : StreamSet), s.answers[k]? = some set →
      ∀ i slot, s.streams.slots[i]? = some slot → ∃ m, set.entries[i]? = some (slot.name, m) ∧ (s.dequeued i)[k]? = some m) ∧
    ∀ (g : HostStreams) (queues : QueueStore Message),
      g.getSet queues = (match g.advance queues with
        | (.took _ _, next, queues) => next.getSet queues
        | (.complete set, next, queues) => (.done (.ok set), next, queues)
        | (.failed e, next, queues) => (.done (.error e), next, queues)
        | (.waits, next, queues) => (.wait, next, queues)) ∧
      g.getSetTimeout queues = (match g.advance queues with
        | (.took _ _, next, queues) => next.getSetTimeout queues
        | (.complete set, next, queues) => (.ok (some set), next, queues)
        | (.failed e, next, queues) => (.error e, next, queues)
        | (.waits, next, queues) => (.ok none, next, queues)) ∧
      ∀ set, (g.getSet queues).1 = .done (.ok set) ∨ (g.getSetTimeout queues).1 = .ok (some set) →
        set.entries.map Prod.fst = g.names := by
  intro s
  have hs : Balanced h s := (Balanced.start h store).run hdrains
  refine ⟨hs.slots, fun i slot => hs.parked, hs.answered, fun hno k set hset i slot hslot => ?_, fun g queues => ?_⟩
  · have hstart : (start h store).Even := by simp [Even, start]
    have heven : s.Even := hstart.run hno
    exact hs.aligned heven hset hslot
  · refine ⟨g.getSet_eq_advance queues, g.getSetTimeout_eq_advance queues, fun set hset => ?_⟩
    refine @names_of_getSet g queues set ?_
    rcases hset with hset | hset
    · exact hset
    · rw [getSetTimeout] at hset
      rcases hattempt : g.getSet queues with ⟨⟨e | found⟩ | _, next, final⟩ <;> rw [hattempt] at hset
      · cases hset
      · obtain rfl : found = set := by simpa [Except.map] using hset
        rfl
      · cases hset

/-- The second stream stalls while a set is read, and is closed while the next one is. A drain in place of that gives
out what is parked before what is buffered. -/
theorem sets_stay_aligned_stalled_stream :
    let m (n : Nat) : Message := ⟨n, n, .buffer []⟩
    let h : HostStreams := ⟨[⟨"a", 0, none⟩, ⟨"b", 1, none⟩]⟩
    let store : QueueStore Message := ⟨[.make "a" 4 true, .make "b" 4 true]⟩
    let stalled : List Move := [.call 0 (.send (m 10)), .advance, .advance, .call 1 (.send (m 11)),
      .call 0 (.send (m 20)), .advance, .advance, .advance]
    let closing : List Move := stalled ++ [.call 1 .close, .advance]
    let draining : List Move := stalled ++ [.call 0 (.send (m 30)), .drain]
    let s := (start h store).run closing
    let t := (start h store).run draining
    (start h store).DrainsSucceed closing ∧ .drain ∉ closing ∧ (start h store).DrainsSucceed draining ∧
      s.answers = [⟨[("a", m 10), ("b", m 11)]⟩] ∧ s.dequeued 0 = [m 10, m 20] ∧
      s.dequeued 0 = s.returned 0 ++ [m 20] ∧
      (∃ found, some ("b", m 11) = some ("b", found) ∧ (s.dequeued 1)[0]? = some found) ∧
      t.dequeued 0 = t.returned 0 ∧ t.returned 0 = [m 10, m 20, m 30] := by
  intro m h store stalled closing draining s t
  have hclosing : (start h store).DrainsSucceed closing := by decide +kernel
  have hno : .drain ∉ closing := by simp [closing, stalled]
  have hdraining : (start h store).DrainsSucceed draining := by decide +kernel
  obtain ⟨-, hparked, -, haligned, -⟩ := sets_stay_aligned h store closing hclosing
  obtain ⟨-, hdrained, -⟩ := sets_stay_aligned h store draining hdraining
  have hs : (start h store).run closing = s := rfl
  have ht : (start h store).run draining = t := rfl
  rw [hs] at hparked haligned
  rw [ht] at hdrained
  have hslots : s.streams.slots = [⟨"a", 0, some (m 20)⟩, ⟨"b", 1, none⟩] := by decide +kernel
  have hempty : t.streams.slots = [⟨"a", 0, none⟩, ⟨"b", 1, none⟩] := by decide +kernel
  have hanswers : s.answers = [⟨[("a", m 10), ("b", m 11)]⟩] := by decide +kernel
  have hdequeued : s.dequeued 0 = [m 10, m 20] := by decide +kernel
  have hreturned : t.returned 0 = [m 10, m 20, m 30] := by decide +kernel
  have hfirst : s.streams.slots[0]? = some ⟨"a", 0, some (m 20)⟩ := by rw [hslots]; rfl
  have hsecond : s.streams.slots[1]? = some ⟨"b", 1, none⟩ := by rw [hslots]; rfl
  have hemptied : t.streams.slots[0]? = some ⟨"a", 0, none⟩ := by rw [hempty]; rfl
  have hanswer : s.answers[0]? = some ⟨[("a", m 10), ("b", m 11)]⟩ := by rw [hanswers]; rfl
  have hbalance := hparked 0 _ hfirst
  have hset := haligned hno 0 _ hanswer 1 _ hsecond
  have hall := hdrained 0 _ hemptied
  exact ⟨hclosing, hno, hdraining, hanswers, hdequeued, hbalance, hset, hall.trans (List.append_nil _), hreturned⟩

end Reading

end FrameGraph
