import FrameGraph.Synchronizer
import Mathlib.Data.List.Forall2
import Mathlib.Data.List.TakeWhile

/-!
# What one push comes to

* `Stream.split_eq_some_iff`: the cut of a buffer stands at its oldest item near the reference.
* `splitAll_eq_some_iff`, `splitAll_eq_none_iff`: all streams are cut, or one of them cannot be.
* `Synchronizer.push_untracked`, `push_of_none`, `push_of_cuts`: the three outcomes of a push, and `push_cases`.
* `Synchronizer.pushAll`: pushes one after the other. `arrivals` is what they bring to one stream.
-/

namespace FrameGraph
set_option autoImplicit false
variable {α : Type}

/-! ## Cuts -/

theorem Stream.split_eq_none_iff {near : α → Bool} {s : Stream α} :
    s.split near = none ↔ ∀ x ∈ s.entries, near x = false := by
  have hdrop := List.dropWhile_eq_nil_iff (p := fun x => !near x) (l := s.entries)
  simp only [Bool.not_eq_true'] at hdrop
  rw [← hdrop, split]
  cases s.entries.dropWhile (fun x => !near x) <;> simp

theorem Stream.split_eq_some_iff {near : α → Bool} {s : Stream α} {c : Cut α} :
    s.split near = some c ↔ c.stream = s.name ∧ s.entries = c.stale ++ c.item :: c.rest ∧
      (∀ x ∈ c.stale, near x = false) ∧ near c.item = true := by
  constructor
  · intro h
    unfold split at h
    split at h
    · cases h
    · rename_i x rest hdrop
      cases h
      have hjoin := List.takeWhile_append_dropWhile (p := fun x => !near x) (l := s.entries)
      rw [hdrop] at hjoin
      have hhead := List.head_dropWhile_not (fun x => !near x) (l := s.entries) (by simp [hdrop])
      simp only [hdrop, List.head_cons, Bool.not_eq_false'] at hhead
      refine ⟨rfl, hjoin.symm, ?_, hhead⟩
      intro x hx
      simpa using List.mem_takeWhile_imp hx
  · obtain ⟨name, stale, item, rest⟩ := c
    rintro ⟨hname, hentries, hstale, hitem⟩
    have hstale' : ∀ x ∈ stale, (!near x) = true := by
      intro x hx
      rw [hstale x hx]
      rfl
    simp only at hname hentries hitem
    rw [split, hentries, List.dropWhile_append_of_pos hstale', List.takeWhile_append_of_pos hstale']
    simp [hitem, hname]

theorem splitAll_eq_some_iff {near : α → Bool} {ss : List (Stream α)} {cuts : List (Cut α)} :
    splitAll near ss = some cuts ↔ List.Forall₂ (fun s c => s.split near = some c) ss cuts := by
  induction ss generalizing cuts with
  | nil => simp [splitAll, eq_comm]
  | cons s rest ih =>
    rw [splitAll, List.forall₂_cons_left_iff]
    simp only [← ih]
    cases s.split near with
    | none => simp
    | some cut =>
      cases splitAll near rest with
      | none => simp
      | some found => simp [eq_comm]

theorem splitAll_eq_none_iff {near : α → Bool} {ss : List (Stream α)} :
    splitAll near ss = none ↔ ∃ s ∈ ss, s.split near = none := by
  induction ss with
  | nil => simp [splitAll]
  | cons s rest ih =>
    rw [splitAll, List.exists_mem_cons_iff, ← ih]
    cases s.split near <;> cases splitAll near rest <;> simp

/-- Cuts stand in the order of their streams. -/
theorem map_stream_of_splitAll {near : α → Bool} {ss : List (Stream α)} {cuts : List (Cut α)}
    (h : splitAll near ss = some cuts) : cuts.map Cut.stream = ss.map Stream.name := by
  rw [splitAll_eq_some_iff] at h
  induction h with
  | nil => rfl
  | cons hs _ ih =>
    rw [List.map_cons, List.map_cons, ih, (Stream.split_eq_some_iff.mp hs).1]

theorem exists_of_mem_cuts {near : α → Bool} {ss : List (Stream α)} {cuts : List (Cut α)}
    (h : splitAll near ss = some cuts) {c : Cut α} (hc : c ∈ cuts) :
    ∃ s ∈ ss, s.split near = some c := by
  rw [splitAll_eq_some_iff] at h
  induction h with
  | nil => cases hc
  | cons hs _ ih =>
    rcases List.mem_cons.mp hc with rfl | hc
    · exact ⟨_, List.mem_cons_self, hs⟩
    · obtain ⟨s, hmem, hsplit⟩ := ih hc
      exact ⟨s, List.mem_cons_of_mem _ hmem, hsplit⟩

/-! ## Names and settings -/

theorem nodup_eraseDups : ∀ names : List String, names.eraseDups.Nodup
  | [] => List.nodup_nil
  | name :: rest => by
    rw [List.eraseDups_cons, List.nodup_cons]
    refine ⟨?_, nodup_eraseDups (rest.filter fun other => !other == name)⟩
    simp [List.mem_eraseDups]
termination_by names => names.length
decreasing_by exact Nat.lt_succ_of_le (List.length_filter_le _ _)

theorem eraseDups_of_nodup {names : List String} (h : names.Nodup) : names.eraseDups = names := by
  induction names with
  | nil => rfl
  | cons name rest ih =>
    obtain ⟨hname, hrest⟩ := List.nodup_cons.mp h
    have hkeep : (rest.filter fun other => !other == name) = rest := by
      rw [List.filter_eq_self]
      intro other hother
      have hne : other ≠ name := fun e => hname (e ▸ hother)
      simp [hne]
    rw [List.eraseDups_cons, hkeep, ih hrest]

namespace Synchronizer

theorem find?_of_mem_names {s : Synchronizer α} {stream : String} (h : stream ∈ s.names) :
    ∃ b ∈ s.streams, b.name = stream ∧ (s.streams.find? fun b => b.name == stream) = some b := by
  obtain ⟨b, hb, hname⟩ := List.mem_map.mp h
  have hsome : (s.streams.find? fun b => b.name == stream).isSome :=
    List.find?_isSome.mpr ⟨b, hb, by simp [hname]⟩
  obtain ⟨found, hfound⟩ := Option.isSome_iff_exists.mp hsome
  exact ⟨found, List.mem_of_find?_eq_some hfound, by simpa using List.find?_some hfound, hfound⟩

theorem names_make (names : List String) (config : SyncConfig) :
    (make names config : Synchronizer α).names = names.eraseDups := by
  simp [make, Synchronizer.names, Function.comp_def]

@[simp] theorem names_receive (s : Synchronizer α) (stream : String) (item : α) :
    (s.receive stream item).names = s.names := by
  simp only [receive, names, List.map_map]
  apply List.map_congr_left
  intro b _
  simp only [Function.comp_apply]
  split <;> rfl

@[simp] theorem names_reset (s : Synchronizer α) : s.reset.names = s.names := by
  simp [reset, names, Function.comp_def]

theorem names_emit {near : α → Bool} {s : Synchronizer α} {cuts : List (Cut α)}
    (h : splitAll near s.streams = some cuts) : (s.emit cuts).names = s.names := by
  rw [names, names, ← map_stream_of_splitAll h]
  simp [emit, Cut.remaining, Function.comp_def]

/-! ## Outcomes -/

theorem within_eq_true_iff {tolerance a b : Nat} :
    within tolerance a b = true ↔ a ≤ b + tolerance ∧ b ≤ a + tolerance := by
  simp only [within, Bool.and_eq_true, decide_eq_true_eq]
  omega

variable [Timestamped α]

theorem push_untracked {s : Synchronizer α} {stream : String} (h : stream ∉ s.names) (item : α) :
    s.push stream item = (.untracked item, s) := by
  simp [push, h]

theorem push_of_none {s : Synchronizer α} {stream : String} {item : α} (h : stream ∈ s.names)
    (hnone : splitAll (s.near (Timestamped.timestamp item)) (s.receive stream item).streams = none) :
    s.push stream item = (.buffered, s.receive stream item) := by
  have hsettle : splitAll ((s.receive stream item).near (Timestamped.timestamp item))
      (s.receive stream item).streams = none := hnone
  simp [push, h, settle, hsettle]

theorem push_of_cuts {s : Synchronizer α} {stream : String} {item : α} {cuts : List (Cut α)}
    (h : stream ∈ s.names)
    (hcuts : splitAll (s.near (Timestamped.timestamp item)) (s.receive stream item).streams = some cuts) :
    s.push stream item = (.matched ⟨cuts.map Cut.entry⟩, (s.receive stream item).emit cuts) := by
  have hsettle : splitAll ((s.receive stream item).near (Timestamped.timestamp item))
      (s.receive stream item).streams = some cuts := hcuts
  simp [push, h, settle, hsettle]

theorem push_cases {s : Synchronizer α} {stream : String} (h : stream ∈ s.names) (item : α) :
    (splitAll (s.near (Timestamped.timestamp item)) (s.receive stream item).streams = none ∧
      s.push stream item = (.buffered, s.receive stream item)) ∨
    ∃ cuts, splitAll (s.near (Timestamped.timestamp item)) (s.receive stream item).streams = some cuts ∧
      s.push stream item = (.matched ⟨cuts.map Cut.entry⟩, (s.receive stream item).emit cuts) := by
  cases hcuts : splitAll (s.near (Timestamped.timestamp item)) (s.receive stream item).streams with
  | none => exact .inl ⟨rfl, push_of_none h hcuts⟩
  | some cuts => exact .inr ⟨cuts, rfl, push_of_cuts h hcuts⟩

theorem names_push (s : Synchronizer α) (stream : String) (item : α) :
    (s.push stream item).2.names = s.names := by
  by_cases h : stream ∈ s.names
  · rcases push_cases h item with ⟨-, hpush⟩ | ⟨cuts, hcuts, hpush⟩
    · rw [hpush, names_receive]
    · rw [hpush, names_emit hcuts, names_receive]
  · rw [push_untracked h]

theorem config_push (s : Synchronizer α) (stream : String) (item : α) :
    (s.push stream item).2.config = s.config := by
  by_cases h : stream ∈ s.names
  · rcases push_cases h item with ⟨-, hpush⟩ | ⟨cuts, -, hpush⟩
    · rw [hpush, receive]
    · rw [hpush, emit, receive]
  · rw [push_untracked h]

/-! ## Runs -/

/-- The answers to pushes that are made one after the other, and the synchronizer after them. -/
def pushAll (s : Synchronizer α) : List (String × α) → List (Arrival α) × Synchronizer α
  | [] => ([], s)
  | (stream, item) :: rest =>
    let (answer, next) := s.push stream item
    let (answers, last) := next.pushAll rest
    (answer :: answers, last)

theorem pushAll_concat (s : Synchronizer α) (pushes : List (String × α)) (p : String × α) :
    s.pushAll (pushes ++ [p]) =
      ((s.pushAll pushes).1 ++ [((s.pushAll pushes).2.push p.1 p.2).1],
        ((s.pushAll pushes).2.push p.1 p.2).2) := by
  induction pushes generalizing s with
  | nil => rfl
  | cons q rest ih => simp [pushAll, ih]

theorem config_pushAll (s : Synchronizer α) (pushes : List (String × α)) :
    (s.pushAll pushes).2.config = s.config := by
  induction pushes generalizing s with
  | nil => rfl
  | cons p rest ih => exact (ih _).trans (config_push s p.1 p.2)

/-- Each answer is the answer of the synchronizer that the pushes before it lead to. -/
theorem pushAll_answer (s : Synchronizer α) (pushes : List (String × α)) {i : Nat}
    (hi : i < pushes.length) :
    (s.pushAll pushes).1[i]? =
      some ((s.pushAll (pushes.take i)).2.push pushes[i].1 pushes[i].2).1 := by
  induction pushes generalizing s i with
  | nil => cases hi
  | cons p rest ih =>
    cases i with
    | zero => rfl
    | succ i => simpa [pushAll] using ih (s.push p.1 p.2).2 (Nat.lt_of_succ_lt_succ hi)

end Synchronizer

def Arrival.set? : Arrival α → Option (SyncedSet α)
  | .matched set => some set
  | _ => none

/-- What pushes bring to one stream, in their order. -/
def arrivals (stream : String) (pushes : List (String × α)) : List α :=
  (pushes.filter fun p => p.1 == stream).map Prod.snd

@[simp] theorem arrivals_nil (stream : String) : arrivals stream ([] : List (String × α)) = [] := rfl

theorem arrivals_concat (stream : String) (pushes : List (String × α)) (p : String × α) :
    arrivals stream (pushes ++ [p]) = arrivals stream pushes ++ if p.1 = stream then [p.2] else [] := by
  unfold arrivals
  by_cases h : p.1 = stream <;> simp [h]

theorem arrivals_prefix (stream : String) {pushes more : List (String × α)} (h : pushes <+: more) :
    arrivals stream pushes <+: arrivals stream more := by
  obtain ⟨rest, rfl⟩ := h
  simp [arrivals]

end FrameGraph
