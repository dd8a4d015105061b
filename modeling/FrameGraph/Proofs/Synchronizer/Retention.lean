import FrameGraph.Proofs.Synchronizer.Matching

/-!
# What a stream keeps

A buffer has a bound. While no set leaves, it holds the newest of what its stream has brought, as many as the bound
allows, and the others are counted as lost.

* `newest`: the end of a list.
* `Synchronizer.Bounded`: no buffer is above its bound. Every request keeps this.
* `Synchronizer.Retains`: the buffers and the losses after pushes of which none has completed a set.
* `Synchronizer.newest_retained`: both, in any history.
-/

namespace FrameGraph
set_option autoImplicit false
variable {α : Type}

/-! ## The end of a list -/

/-- The newest items of a list, as many as there is room for. -/
def newest (room : Nat) (xs : List α) : List α :=
  xs.drop (xs.length - room)

theorem length_newest (room : Nat) (xs : List α) : (newest room xs).length = min xs.length room := by
  rw [newest, List.length_drop]
  omega

theorem newest_of_fits {room : Nat} {xs : List α} (h : xs.length ≤ room) : newest room xs = xs := by
  rw [newest, Nat.sub_eq_zero_of_le h, List.drop_zero]

theorem newest_concat {room : Nat} (hroom : 1 ≤ room) (xs : List α) (x : α) :
    newest room (xs ++ [x]) = xs.drop (xs.length + 1 - room) ++ [x] := by
  rw [newest, List.length_append, List.length_singleton, List.drop_append_of_le_length (by omega)]

/-- A buffer that loses its oldest item where it has to keeps the newest ones. -/
theorem newest_newest_concat {room : Nat} (hroom : 1 ≤ room) (xs : List α) (x : α) :
    newest room (newest room xs ++ [x]) = newest room (xs ++ [x]) := by
  rw [newest_concat hroom, newest_concat hroom, length_newest, newest, List.drop_drop]
  congr 2
  omega

/-- A sum over streams of which one counts more than before. -/
theorem sum_map_of_own {streams : List (Stream α)} (hnodup : (streams.map Stream.name).Nodup) {own : Stream α}
    (hown : own ∈ streams) {f g : Stream α → Nat} {more : Nat} (hmore : g own = f own + more)
    (hothers : ∀ b ∈ streams, b.name ≠ own.name → g b = f b) : (streams.map g).sum = (streams.map f).sum + more := by
  obtain ⟨before, after, rfl⟩ := List.append_of_mem hown
  rw [List.map_append, List.map_cons, List.nodup_append, List.nodup_cons] at hnodup
  obtain ⟨-, ⟨hafter, -⟩, hbefore⟩ := hnodup
  have hleft : before.map g = before.map f := List.map_congr_left fun b hb =>
    hothers b (List.mem_append_left _ hb) (hbefore _ (List.mem_map_of_mem hb) _ List.mem_cons_self)
  have hright : after.map g = after.map f := List.map_congr_left fun b hb =>
    hothers b (List.mem_append_right _ (List.mem_cons_of_mem _ hb)) fun hname =>
      hafter (hname ▸ List.mem_map_of_mem hb)
  simp only [List.map_append, List.map_cons, List.sum_append, List.sum_cons, hleft, hright, hmore]
  omega

theorem exists_cut_of_mem {near : α → Bool} {ss : List (Stream α)} {cuts : List (Cut α)}
    (h : splitAll near ss = some cuts) {s : Stream α} (hs : s ∈ ss) : ∃ c ∈ cuts, s.split near = some c := by
  rw [splitAll_eq_some_iff] at h
  induction h with
  | nil => cases hs
  | cons hcut _ ih =>
    rcases List.mem_cons.mp hs with rfl | hs
    · exact ⟨_, List.mem_cons_self, hcut⟩
    · obtain ⟨c, hc, hsplit⟩ := ih hs
      exact ⟨c, List.mem_cons_of_mem _ hc, hsplit⟩

namespace Synchronizer

/-! ## The bound -/

/-- No stream holds more than its bound. -/
def Bounded (s : Synchronizer α) : Prop :=
  ∀ b ∈ s.streams, b.entries.length ≤ s.config.maxBacklog

theorem held_own {s : Synchronizer α} {b : Stream α} (hfits : b.entries.length ≤ s.config.maxBacklog) (item : α) :
    s.held b.name item b = newest s.config.maxBacklog (b.entries ++ [item]) := by
  rw [held, if_pos rfl]
  simp only
  split
  · rename_i hover
    rw [List.length_append, List.length_singleton] at hover
    have hone : b.entries.length + 1 - s.config.maxBacklog = 1 := by omega
    rw [newest, List.length_append, List.length_singleton, hone, List.drop_one]
  · rename_i hroom
    exact (newest_of_fits (Nat.not_lt.mp hroom)).symm

theorem Bounded.length_held {s : Synchronizer α} (h : Bounded s) (stream : String) (item : α) {b : Stream α}
    (hb : b ∈ s.streams) : (s.held stream item b).length ≤ s.config.maxBacklog := by
  by_cases hname : b.name = stream
  · rw [← hname, held_own (h b hb), length_newest]
    exact Nat.min_le_right _ _
  · rw [held, if_neg hname]
    exact h b hb

theorem Bounded.receive {s : Synchronizer α} (h : Bounded s) (stream : String) (item : α) :
    Bounded (s.receive stream item) := by
  intro b' hb'
  rw [streams_receive] at hb'
  obtain ⟨b, hb, rfl⟩ := List.mem_map.mp hb'
  exact h.length_held stream item hb

section
variable [Timestamped α]

theorem Bounded.push {s : Synchronizer α} (h : Bounded s) (stream : String) (item : α) :
    Bounded (s.push stream item).2 := by
  by_cases hstream : stream ∈ s.names
  · have hreceive := h.receive stream item
    rcases push_cases hstream item with ⟨-, hpush⟩ | ⟨cuts, hcuts, hpush⟩
    · rwa [hpush]
    · rw [hpush]
      intro b hb
      obtain ⟨c, hc, rfl⟩ := List.mem_map.mp hb
      obtain ⟨a, ha, hsplit⟩ := exists_of_mem_cuts hcuts hc
      have hlen := hreceive a ha
      rw [(Stream.split_eq_some_iff.mp hsplit).2.1, List.length_append, List.length_cons] at hlen
      exact le_trans (by simp only [Cut.remaining]; omega) hlen
  · rwa [push_untracked hstream]

theorem bounded_history (names : List String) (config : SyncConfig) (requests : List (Request α)) :
    Bounded (history names config requests).1 := by
  have hempty : ∀ s : Synchronizer α, (∀ b ∈ s.streams, b.entries = []) → Bounded s := by
    intro s hs b hb
    rw [hs b hb]
    exact Nat.zero_le _
  unfold history
  induction requests using List.reverseRecOn with
  | nil =>
    refine hempty _ fun b hb => ?_
    obtain ⟨n, -, rfl⟩ := List.mem_map.mp hb
    rfl
  | append_singleton requests r ih =>
    rw [List.foldl_append]
    cases r with
    | push stream item => exact ih.push stream item
    | reset =>
      refine hempty _ fun b hb => ?_
      obtain ⟨a, -, rfl⟩ := List.mem_map.mp hb
      rfl

/-- A buffer is searched with the new item at its end, so this is not the one that the bound costs. -/
theorem Bounded.push_own {s : Synchronizer α} (h : Bounded s) (hnodup : s.names.Nodup) (hroom : 1 ≤ s.config.maxBacklog)
    {own : Stream α} (hown : own ∈ s.streams) (item : α) :
    let searched := own.entries.drop (own.entries.length + 1 - s.config.maxBacklog) ++ [item]
    let answer := (s.push own.name item).1
    let next := (s.push own.name item).2
    (∀ set, answer = .matched set → ∃ stale x rest, searched = stale ++ x :: rest ∧
      set.get? own.name = some x ∧ ⟨own.name, rest⟩ ∈ next.streams) ∧
    ((∀ set, answer ≠ .matched set) → ⟨own.name, searched⟩ ∈ next.streams) := by
  intro searched answer next
  have hmem : own.name ∈ s.names := List.mem_map_of_mem hown
  have hsearched : (⟨own.name, searched⟩ : Stream α) ∈ (s.receive own.name item).streams := by
    rw [streams_receive]
    refine List.mem_map.mpr ⟨own, hown, ?_⟩
    rw [held_own (h own hown), newest_concat hroom]
  rcases push_cases hmem item with ⟨-, hpush⟩ | ⟨cuts, hcuts, hpush⟩
  · have hanswer : answer = .buffered := congrArg Prod.fst hpush
    have hnext : next = s.receive own.name item := congrArg Prod.snd hpush
    refine ⟨fun set hset => ?_, fun _ => hnext ▸ hsearched⟩
    cases hanswer.symm.trans hset
  · have hanswer : answer = .matched ⟨cuts.map Cut.entry⟩ := congrArg Prod.fst hpush
    have hnext : next = (s.receive own.name item).emit cuts := congrArg Prod.snd hpush
    refine ⟨fun set hset => ?_, fun hno => absurd hanswer (hno _)⟩
    obtain rfl := Arrival.matched.inj (hanswer.symm.trans hset)
    obtain ⟨c, hc, hsplit⟩ := exists_cut_of_mem hcuts hsearched
    obtain ⟨hname, hentries, -, -⟩ := Stream.split_eq_some_iff.mp hsplit
    have hcutNodup : (cuts.map Cut.stream).Nodup := by
      rw [map_stream_of_splitAll hcuts, ← names, names_receive]
      exact hnodup
    refine ⟨c.stale, c.item, c.rest, hentries, ?_, ?_⟩
    · rw [← hname]
      exact SyncedSet.get?_of_mem hcutNodup hc
    · rw [hnext, ← hname]
      exact List.mem_map.mpr ⟨c, hc, rfl⟩

end

/-! ## Without a set -/

/-- Every stream holds the newest of what it held at the start and of what it has been brought since; the rest is
lost. -/
structure Retains (start : Synchronizer α) (pushes : List (String × α)) (s : Synchronizer α) : Prop where
  config : s.config = start.config
  streams : s.streams = start.streams.map fun b =>
    ⟨b.name, newest start.config.maxBacklog (b.entries ++ arrivals b.name pushes)⟩
  drops : s.stats.overflowDrops = start.stats.overflowDrops + (start.streams.map fun b =>
    b.entries.length + (arrivals b.name pushes).length - start.config.maxBacklog).sum

section
variable {start s : Synchronizer α} {pushes : List (String × α)}

theorem Retains.refl (h : Bounded start) : Retains start [] start where
  config := rfl
  streams := by
    have hsame : ∀ b ∈ start.streams,
        (⟨b.name, newest start.config.maxBacklog (b.entries ++ arrivals b.name [])⟩ : Stream α) = b := by
      intro b hb
      rw [arrivals_nil, List.append_nil, newest_of_fits (h b hb)]
    rw [List.map_congr_left hsame, List.map_id']
  drops := by
    have hnone : ∀ b ∈ start.streams,
        b.entries.length + (arrivals b.name ([] : List (String × α))).length - start.config.maxBacklog = 0 :=
      fun b hb => Nat.sub_eq_zero_of_le (h b hb)
    rw [List.map_congr_left hnone, List.map_const', List.sum_replicate_nat, Nat.mul_zero, Nat.add_zero]

theorem Retains.names (h : Retains start pushes s) : s.names = start.names := by
  simp [Synchronizer.names, h.streams]

theorem Retains.untracked (h : Retains start pushes s) {p : String × α} (hp : p.1 ∉ start.names) :
    Retains start (pushes ++ [p]) s := by
  have hsame : ∀ b ∈ start.streams, arrivals b.name (pushes ++ [p]) = arrivals b.name pushes := by
    intro b hb
    have hne : p.1 ≠ b.name := fun hname => hp (hname ▸ List.mem_map_of_mem hb)
    rw [arrivals_concat, if_neg hne, List.append_nil]
  refine ⟨h.config, h.streams.trans ?_, h.drops.trans (congrArg _ (congrArg List.sum ?_))⟩
  · exact List.map_congr_left fun b hb => by rw [hsame b hb]
  · exact List.map_congr_left fun b hb => by rw [hsame b hb]

theorem Retains.receive (h : Retains start pushes s) (hnodup : start.names.Nodup) (hroom : 1 ≤ start.config.maxBacklog)
    {own : Stream α} (hown : own ∈ start.streams) (item : α) :
    Retains start (pushes ++ [(own.name, item)]) (s.receive own.name item) := by
  let kept : Stream α := ⟨own.name, newest start.config.maxBacklog (own.entries ++ arrivals own.name pushes)⟩
  have hkept : kept ∈ s.streams := by
    rw [h.streams]
    exact List.mem_map.mpr ⟨own, hown, rfl⟩
  have hlen : kept.entries.length =
      min (own.entries.length + (arrivals own.name pushes).length) start.config.maxBacklog := by
    rw [← List.length_append]
    exact length_newest _ _
  refine ⟨h.config, ?_, ?_⟩
  · have hfits : kept.entries.length ≤ s.config.maxBacklog := by
      rw [h.config, hlen]
      exact Nat.min_le_right _ _
    rw [streams_receive, h.streams, List.map_map]
    refine List.map_congr_left fun b hb => ?_
    simp only [Function.comp_apply, arrivals_concat]
    by_cases hname : b.name = own.name
    · obtain rfl := List.inj_on_of_nodup_map hnodup hb hown hname
      have hheld : s.held b.name item kept = _ := held_own hfits item
      rw [hheld, h.config, newest_newest_concat hroom, if_pos rfl, List.append_assoc]
    · rw [held, if_neg hname, if_neg (Ne.symm hname), List.append_nil]
  · have hlost : (s.receive own.name item).stats.overflowDrops = s.stats.overflowDrops +
        if start.config.maxBacklog < kept.entries.length + 1 then 1 else 0 := by
      rw [receive_eq (h.names.symm ▸ hnodup) hkept item, h.config]
    rw [hlost, h.drops, Nat.add_assoc]
    congr 1
    symm
    refine sum_map_of_own hnodup hown ?_ fun b _ hname => ?_
    · simp only [arrivals_concat, if_true, List.length_append, List.length_singleton, hlen]
      split <;> omega
    · rw [arrivals_concat, if_neg (Ne.symm hname), List.append_nil]

variable [Timestamped α]

theorem Retains.push (h : Retains start pushes s) (hnodup : start.names.Nodup) (hroom : 1 ≤ start.config.maxBacklog)
    {p : String × α} (hno : (s.push p.1 p.2).1.set? = none) : Retains start (pushes ++ [p]) (s.push p.1 p.2).2 := by
  by_cases hp : p.1 ∈ start.names
  · obtain ⟨own, hown, hname⟩ := List.mem_map.mp hp
    have hnot : ∀ set, (s.push p.1 p.2).1 ≠ .matched set := by
      intro set hset
      rw [hset] at hno
      cases hno
    rw [buffered_of_not_matched (h.names.symm ▸ hp) hnot]
    have hreceive := h.receive hnodup hroom hown p.2
    rwa [hname] at hreceive
  · rw [push_untracked (h.names.symm ▸ hp)]
    exact h.untracked hp

theorem Retains.pushAll (h : Bounded start) (hnodup : start.names.Nodup) (hroom : 1 ≤ start.config.maxBacklog)
    (pushes : List (String × α)) (hno : ∀ answer ∈ (start.pushAll pushes).1, answer.set? = none) :
    Retains start pushes (start.pushAll pushes).2 := by
  induction pushes using List.reverseRecOn with
  | nil => exact Retains.refl h
  | append_singleton pushes p ih =>
    rw [pushAll_concat] at hno ⊢
    have hbefore := ih fun answer hanswer => hno answer (List.mem_append_left _ hanswer)
    exact hbefore.push hnodup hroom (hno _ (List.mem_append_right _ (List.mem_singleton_self _)))

end

/-- No buffer is ever above its bound, and the item that has just been pushed is not the one that is given up for
that. As long as no set leaves, a stream that was empty holds the newest of the items that it has been brought, as
many as the bound allows, and if all streams were empty the others are what has been lost. -/
theorem newest_retained [Timestamped α] (names : List String) (config : SyncConfig) (hroom : 1 ≤ config.maxBacklog)
    (requests : List (Request α)) :
    let s := (history names config requests).1
    (∀ b ∈ s.streams, b.entries.length ≤ config.maxBacklog) ∧
    (∀ own ∈ s.streams, ∀ item,
      let searched := own.entries.drop (own.entries.length + 1 - config.maxBacklog) ++ [item]
      let answer := (s.push own.name item).1
      let next := (s.push own.name item).2
      (∀ set, answer = .matched set → ∃ stale x rest, searched = stale ++ x :: rest ∧
        set.get? own.name = some x ∧ ⟨own.name, rest⟩ ∈ next.streams) ∧
      ((∀ set, answer ≠ .matched set) → ⟨own.name, searched⟩ ∈ next.streams)) ∧
    ∀ pushes, (∀ answer ∈ (s.pushAll pushes).1, answer.set? = none) →
      let after := (s.pushAll pushes).2
      (∀ b ∈ s.streams, b.entries = [] →
        ⟨b.name, newest config.maxBacklog (arrivals b.name pushes)⟩ ∈ after.streams) ∧
      ((∀ b ∈ s.streams, b.entries = []) → after.stats.overflowDrops = s.stats.overflowDrops +
        (s.streams.map fun b => (arrivals b.name pushes).length - config.maxBacklog).sum) := by
  intro s
  have hconfig : s.config = config := config_history names config requests
  have hbounded : Bounded s := bounded_history names config requests
  have hnodup : s.names.Nodup := (Accounts.history names config requests).nodup
  rw [← hconfig] at hroom ⊢
  refine ⟨hbounded, fun own hown item => hbounded.push_own hnodup hroom hown item, fun pushes hno => ?_⟩
  have h := Retains.pushAll hbounded hnodup hroom pushes hno
  refine ⟨fun b hb hempty => ?_, fun hempty => ?_⟩
  · rw [h.streams]
    refine List.mem_map.mpr ⟨b, hb, ?_⟩
    rw [hempty, List.nil_append]
  · refine h.drops.trans (congrArg _ (congrArg List.sum ?_))
    exact List.map_congr_left fun b hb => by rw [hempty b hb, List.length_nil, Nat.zero_add]

/-- After a first set one stream brings three items that find no partner, and room is for two. -/
theorem newest_retained_after_set :
    let config : SyncConfig := { tolerance := 8, maxBacklog := 2 }
    let frame : Nat → Message := fun t => ⟨t, 0, .buffer []⟩
    let requests := [.push "disp" (frame 0), .push "rgb" (frame 1)]
    let pushes := [("disp", frame 20), ("disp", frame 40), ("rgb", frame 100), ("disp", frame 60)]
    let s := (history ["disp", "rgb"] config requests).1
    1 ≤ config.maxBacklog ∧ (∀ b ∈ s.streams, b.entries.length ≤ config.maxBacklog) ∧
      (∀ answer ∈ (s.pushAll pushes).1, answer.set? = none) ∧ (∀ b ∈ s.streams, b.entries = []) ∧
      ⟨"disp", [frame 40, frame 60]⟩ ∈ (s.pushAll pushes).2.streams ∧
      (s.pushAll pushes).2.stats.overflowDrops = s.stats.overflowDrops + 1 := by
  intro config frame requests pushes s
  have hroom : 1 ≤ config.maxBacklog := by decide
  obtain ⟨hbounded, -, hstretch⟩ := newest_retained ["disp", "rgb"] config hroom requests
  have hsame : (history ["disp", "rgb"] config requests).1 = s := rfl
  rw [hsame] at hbounded hstretch
  have hno : ∀ answer ∈ (s.pushAll pushes).1, answer.set? = none := by
    have hall : ((s.pushAll pushes).1.all fun answer => answer.set?.isNone) = true := by decide +kernel
    simpa using hall
  have hempty : ∀ b ∈ s.streams, b.entries = [] := by decide +kernel
  have hdisp : (⟨"disp", []⟩ : Stream Message) ∈ s.streams := by decide +kernel
  have hnewest : newest config.maxBacklog (arrivals "disp" pushes) = [frame 40, frame 60] := by decide +kernel
  have hsurplus : (s.streams.map fun b => (arrivals b.name pushes).length - config.maxBacklog).sum = 1 := by
    decide +kernel
  obtain ⟨hkept, hlost⟩ := hstretch pushes hno
  have hdispKept := hkept _ hdisp rfl
  have hdrops := hlost hempty
  rw [hnewest] at hdispKept
  rw [hsurplus] at hdrops
  exact ⟨hroom, hbounded, hno, hempty, hdispKept, hdrops⟩

end Synchronizer

end FrameGraph
