import FrameGraph.Proofs.Synchronizer.Conservation
import Mathlib.Data.Nat.Dist

/-!
# Which push completes a set

An arriving item is put at the end of the buffer of its stream, and then the buffers are searched. Either every
stream has an item near the time of the arrival, and the first one of each leaves with all that stood before it, or
nothing leaves.

* `Synchronizer.held`: the buffers as they are searched.
* `Stream.split_eq`: a cut stands where a search from the front ends.
* `Synchronizer.push_takes_first_near`: the answer to one push, and all that it changes.
-/

namespace FrameGraph
set_option autoImplicit false
variable {α : Type}

/-! ## The search in one buffer -/

theorem find_first {near : α → Bool} {stale : List α} {x : α} (hstale : ∀ y ∈ stale, near y = false)
    (hx : near x = true) (rest : List α) :
    (stale ++ x :: rest).find? near = some x ∧ (stale ++ x :: rest).findIdx near = stale.length := by
  induction stale with
  | nil => simp [List.findIdx_cons, hx]
  | cons y stale ih =>
    have hy := hstale y List.mem_cons_self
    obtain ⟨hfind, hindex⟩ := ih fun z hz => hstale z (List.mem_cons_of_mem _ hz)
    simp [List.findIdx_cons, hy, hfind, hindex]

theorem Stream.split_eq {near : α → Bool} {s : Stream α} {c : Cut α} (h : s.split near = some c) :
    c.stream = s.name ∧ s.entries.find? near = some c.item ∧ c.stale.length = s.entries.findIdx near ∧
      c.rest = s.entries.drop (s.entries.findIdx near + 1) := by
  obtain ⟨hname, hentries, hstale, hitem⟩ := Stream.split_eq_some_iff.mp h
  obtain ⟨hfind, hindex⟩ := find_first hstale hitem c.rest
  refine ⟨hname, hentries ▸ hfind, hentries ▸ hindex.symm, ?_⟩
  rw [hentries, hindex, ← List.drop_drop, List.drop_left]
  rfl

/-! ## The search in all buffers -/

theorem exists_splitAll_iff (near : α → Bool) (ss : List (Stream α)) :
    (∃ cuts, splitAll near ss = some cuts) ↔ ∀ b ∈ ss, ∃ x ∈ b.entries, near x = true := by
  have hsome : (∃ cuts, splitAll near ss = some cuts) ↔ splitAll near ss ≠ none := by
    rw [← Option.isSome_iff_exists, Option.isSome_iff_ne_none]
  rw [hsome, ne_eq, splitAll_eq_none_iff]
  simp [Stream.split_eq_none_iff]

section
variable {near : α → Bool} {ss : List (Stream α)} {cuts : List (Cut α)}

theorem entries_of_splitAll (h : splitAll near ss = some cuts) :
    (cuts.map Cut.entry).map (fun e => (e.1, some e.2)) = ss.map fun b => (b.name, b.entries.find? near) := by
  rw [splitAll_eq_some_iff] at h
  induction h with
  | nil => rfl
  | cons hs _ ih =>
    obtain ⟨hname, hfind, -, -⟩ := Stream.split_eq hs
    simp only [List.map_cons, ih, hname, hfind, Cut.entry]

theorem remaining_of_splitAll (h : splitAll near ss = some cuts) :
    cuts.map Cut.remaining = ss.map fun b => ⟨b.name, b.entries.drop (b.entries.findIdx near + 1)⟩ := by
  rw [splitAll_eq_some_iff] at h
  induction h with
  | nil => rfl
  | cons hs _ ih =>
    obtain ⟨hname, -, -, hrest⟩ := Stream.split_eq hs
    simp only [List.map_cons, ih, hname, hrest, Cut.remaining]

theorem stale_of_splitAll (h : splitAll near ss = some cuts) :
    (cuts.flatMap Cut.stale).length = (ss.map fun b => b.entries.findIdx near).sum := by
  rw [splitAll_eq_some_iff] at h
  induction h with
  | nil => rfl
  | cons hs _ ih =>
    obtain ⟨-, -, hindex, -⟩ := Stream.split_eq hs
    simp only [List.flatMap_cons, List.length_append, ih, hindex, List.map_cons, List.sum_cons]

end

namespace Synchronizer

/-! ## One push -/

/-- What a stream holds when an item has been put at the end of a stream, and the oldest one there is gone if this
makes it too long. -/
def held (s : Synchronizer α) (stream : String) (item : α) (b : Stream α) : List α :=
  if b.name = stream then
    let longer := b.entries ++ [item]
    if s.config.maxBacklog < longer.length then longer.tail else longer
  else b.entries

theorem streams_receive (s : Synchronizer α) (stream : String) (item : α) :
    (s.receive stream item).streams = s.streams.map fun b => ⟨b.name, s.held stream item b⟩ := by
  simp only [receive]
  refine List.map_congr_left fun b _ => ?_
  by_cases h : b.name = stream
  · rw [if_pos h, held, if_pos h, Stream.receive]
  · rw [if_neg h, held, if_neg h]

theorem within_eq (tolerance a b : Nat) : within tolerance a b = decide (Nat.dist a b ≤ tolerance) := by
  rw [Bool.eq_iff_iff, within_eq_true_iff, decide_eq_true_iff, Nat.dist]
  omega

theorem receive_eq {s : Synchronizer α} (hnodup : s.names.Nodup) {own : Stream α} (hown : own ∈ s.streams) (item : α) :
    s.receive own.name item =
      { s with
        streams := s.streams.map fun b => ⟨b.name, s.held own.name item b⟩
        stats := { s.stats with
          received := s.stats.received + 1
          overflowDrops := s.stats.overflowDrops +
            if s.config.maxBacklog < own.entries.length + 1 then 1 else 0 } } := by
  have hlost := s.any_overflows hnodup hown s.config.maxBacklog
  rw [← streams_receive, receive, hlost]
  simp [Stream.overflows]

section
variable [Timestamped α] {s : Synchronizer α} {stream : String}

theorem exists_matched_iff (h : stream ∈ s.names) (item : α) :
    (∃ set, (s.push stream item).1 = .matched set) ↔
      ∀ b ∈ s.streams, ∃ x ∈ s.held stream item b, s.near (Timestamped.timestamp item) x = true := by
  have hall := exists_splitAll_iff (s.near (Timestamped.timestamp item)) (s.receive stream item).streams
  rw [streams_receive, List.forall_mem_map, ← streams_receive] at hall
  rw [← hall]
  rcases push_cases h item with ⟨hcuts, hpush⟩ | ⟨cuts, hcuts, hpush⟩ <;> simp [hpush, hcuts]

theorem buffered_of_not_matched (h : stream ∈ s.names) {item : α}
    (hno : ∀ set, (s.push stream item).1 ≠ .matched set) :
    s.push stream item = (.buffered, s.receive stream item) := by
  rcases push_cases h item with ⟨-, hpush⟩ | ⟨cuts, -, hpush⟩
  · exact hpush
  · exact absurd (congrArg Prod.fst hpush) (hno _)

theorem push_of_matched (h : stream ∈ s.names) {item : α} {set : SyncedSet α}
    (hset : (s.push stream item).1 = .matched set) :
    let held := s.held stream item
    let near := s.near (Timestamped.timestamp item)
    let before := s.receive stream item
    set.entries.map (fun e => (e.1, some e.2)) = s.streams.map (fun b => (b.name, (held b).find? near)) ∧
      (s.push stream item).2 = { before with
        streams := s.streams.map fun b => ⟨b.name, (held b).drop ((held b).findIdx near + 1)⟩
        stats := { before.stats with
          emittedSets := before.stats.emittedSets + 1
          discardedStale := before.stats.discardedStale + (s.streams.map fun b => (held b).findIdx near).sum } } := by
  intro held near before
  rcases push_cases h item with ⟨-, hpush⟩ | ⟨cuts, hcuts, hpush⟩
  · cases (congrArg Prod.fst hpush).symm.trans hset
  · obtain rfl := Arrival.matched.inj ((congrArg Prod.fst hpush).symm.trans hset)
    have hentries := entries_of_splitAll hcuts
    have hremaining := remaining_of_splitAll hcuts
    have hstale := stale_of_splitAll hcuts
    simp only [streams_receive, List.map_map, Function.comp_def] at hentries hremaining hstale
    refine ⟨by simpa only [List.map_map, Function.comp_def] using hentries, ?_⟩
    rw [hpush, emit, hremaining, hstale]

end

/-- A push completes a set exactly if every stream then holds an item whose time differs from that of the new one by
no more than the tolerance. The set has the first such item of every stream, in the order of the streams; what
followed it stays, and what stood before it is counted as stale. Without a set everything stays. -/
theorem push_takes_first_near [Timestamped α] (names : List String) (config : SyncConfig)
    (requests : List (Request α)) {own : Stream α} (hown : own ∈ (history names config requests).1.streams)
    (item : α) :
    let s := (history names config requests).1
    let held := s.held own.name item
    let near := fun x => decide (Nat.dist (Timestamped.timestamp x) (Timestamped.timestamp item) ≤ config.tolerance)
    let drops := if config.maxBacklog < own.entries.length + 1 then 1 else 0
    let answer := (s.push own.name item).1
    let next := (s.push own.name item).2
    s.config = config ∧ s.names = names.eraseDups ∧
    ((∃ set, answer = .matched set) ↔ ∀ b ∈ s.streams, ∃ x ∈ held b, near x = true) ∧
    (∀ set, answer = .matched set →
      set.entries.map (fun e => (e.1, some e.2)) = s.streams.map (fun b => (b.name, (held b).find? near)) ∧
      next = { s with
        streams := s.streams.map fun b => ⟨b.name, (held b).drop ((held b).findIdx near + 1)⟩
        stats := {
          received := s.stats.received + 1
          emittedSets := s.stats.emittedSets + 1
          discardedStale := s.stats.discardedStale + (s.streams.map fun b => (held b).findIdx near).sum
          overflowDrops := s.stats.overflowDrops + drops } }) ∧
    ((∀ set, answer ≠ .matched set) →
      answer = .buffered ∧
      next = { s with
        streams := s.streams.map fun b => ⟨b.name, held b⟩
        stats := { s.stats with
          received := s.stats.received + 1
          overflowDrops := s.stats.overflowDrops + drops } }) := by
  intro s held near drops answer next
  have hconfig : s.config = config := config_history names config requests
  have hmem : own.name ∈ s.names := List.mem_map_of_mem hown
  have hnear : s.near (Timestamped.timestamp item) = near := by
    funext x
    rw [Synchronizer.near, within_eq, hconfig]
  have hdrops : (if s.config.maxBacklog < own.entries.length + 1 then 1 else 0) = drops := by rw [hconfig]
  have hreceive := receive_eq (Accounts.history names config requests).nodup hown item
  rw [hdrops] at hreceive
  refine ⟨hconfig, names_history names config requests, hnear ▸ exists_matched_iff hmem item, ?_, ?_⟩
  · intro set hset
    obtain ⟨hentries, hnext⟩ := push_of_matched hmem hset
    rw [hnear] at hentries hnext
    exact ⟨hentries, by rw [hreceive] at hnext; exact hnext⟩
  · intro hno
    have hpush := buffered_of_not_matched hmem hno
    exact ⟨congrArg Prod.fst hpush, (congrArg Prod.snd hpush).trans hreceive⟩

/-- One item has been dropped before, one becomes stale, and the third is near enough. -/
theorem push_takes_first_near_past_stale :
    let config : SyncConfig := { tolerance := 8, maxBacklog := 2 }
    let frame : Nat → Message := fun t => ⟨t, 0, .buffer []⟩
    let requests := [.push "disp" (frame 0), .push "disp" (frame 16), .push "disp" (frame 33)]
    let s := (history ["disp", "rgb"] config requests).1
    let next := (s.push "rgb" (frame 30)).2
    ⟨"rgb", []⟩ ∈ s.streams ∧ ∃ set, (s.push "rgb" (frame 30)).1 = .matched set ∧
      set.entries.map (fun e => (e.1, some e.2)) = [("disp", some (frame 33)), ("rgb", some (frame 30))] ∧
      next.stats = { received := 4, emittedSets := 1, discardedStale := 1, overflowDrops := 1 } := by
  intro config frame requests s next
  have hown : ⟨"rgb", []⟩ ∈ s.streams := by decide +kernel
  obtain ⟨-, -, hiff, hmatched, -⟩ := push_takes_first_near ["disp", "rgb"] config requests hown (frame 30)
  obtain ⟨set, hset⟩ := hiff.mpr (by decide +kernel)
  obtain ⟨hentries, hnext⟩ := hmatched set hset
  refine ⟨hown, set, hset, hentries.trans (by decide +kernel), ?_⟩
  rw [show next = _ from hnext]
  decide +kernel

end Synchronizer

end FrameGraph
