import FrameGraph.Proofs.Synchronizer.Matching

/-!
# How far apart the times in a set are

The items of a set are near to the time of the item that completed it. They need not be as near to each other: one
may be as much earlier as another is later.

* `SyncedSet.spread_le`: the spread is bounded by the distances between the items.
* `Synchronizer.Brought`: what is buffered has been pushed.
* `Synchronizer.sets_near_arrival`: how wide a set can be.
-/

namespace FrameGraph
set_option autoImplicit false
variable {α : Type} [Timestamped α]

theorem SyncedSet.spread_le {set : SyncedSet α} {bound : Nat}
    (h : ∀ a ∈ set.entries, ∀ b ∈ set.entries, Timestamped.timestamp a.2 ≤ Timestamped.timestamp b.2 + bound) :
    set.spread ≤ bound := by
  rw [spread]
  generalize htimes : set.entries.map (fun entry => Timestamped.timestamp entry.2) = times
  have hpair : ∀ x ∈ times, ∀ y ∈ times, x ≤ y + bound := by
    rw [← htimes, List.forall_mem_map]
    intro a ha
    rw [List.forall_mem_map]
    exact h a ha
  cases hmax : times.max? with
  | none => simp
  | some latest =>
    cases hmin : times.min? with
    | none => simp [List.min?_eq_none_iff.mp hmin] at hmax
    | some earliest =>
      have hle := hpair latest (List.max?_mem hmax) earliest (List.min?_mem hmin)
      simp only [Option.getD_some]
      omega

/-- Items within a distance of a time are within twice this distance of each other. -/
theorem SyncedSet.spread_le_of_near {set : SyncedSet α} {tolerance time : Nat}
    (h : ∀ e ∈ set.entries, Nat.dist (Timestamped.timestamp e.2) time ≤ tolerance) :
    set.spread ≤ 2 * tolerance := by
  refine SyncedSet.spread_le fun a ha b hb => ?_
  have hfrom := h a ha
  have hto := h b hb
  rw [Nat.dist] at hfrom hto
  omega

theorem SyncedSet.spread_le_of_not_later {set : SyncedSet α} {tolerance time : Nat}
    (h : ∀ e ∈ set.entries, Nat.dist (Timestamped.timestamp e.2) time ≤ tolerance)
    (hlast : ∀ e ∈ set.entries, Timestamped.timestamp e.2 ≤ time) : set.spread ≤ tolerance := by
  refine SyncedSet.spread_le fun a ha b hb => ?_
  have hfrom := hlast a ha
  have hto := h b hb
  rw [Nat.dist] at hto
  omega

/-- Of two items one is the one that the other is near to. -/
theorem SyncedSet.spread_le_of_pair {set : SyncedSet α} {tolerance : Nat} {p : String × α} (hp : p ∈ set.entries)
    (h : ∀ e ∈ set.entries, Nat.dist (Timestamped.timestamp e.2) (Timestamped.timestamp p.2) ≤ tolerance)
    (htwo : set.entries.length ≤ 2) : set.spread ≤ tolerance := by
  have hpair : ∀ a ∈ set.entries, ∀ b ∈ set.entries, a = p ∨ b = p ∨ a = b := by
    rcases set with ⟨_ | ⟨x, _ | ⟨y, _ | ⟨z, rest⟩⟩⟩⟩
    · cases hp
    · simp
    · simp only [List.mem_cons, List.not_mem_nil, or_false] at hp ⊢
      rcases hp with rfl | rfl <;> rintro a (rfl | rfl) b (rfl | rfl) <;> simp
    · simp only [List.length_cons] at htwo
      omega
  refine SyncedSet.spread_le fun a ha b hb => ?_
  have hfrom := h a ha
  have hto := h b hb
  rw [Nat.dist] at hfrom hto
  rcases hpair a ha b hb with rfl | rfl | rfl <;> omega

namespace Synchronizer

/-! ## Where the items of a set come from -/

theorem near_of_matched {s : Synchronizer α} {stream : String} {item : α} {set : SyncedSet α}
    (hset : (s.push stream item).1 = .matched set) :
    ∀ e ∈ set.entries, Nat.dist (Timestamped.timestamp e.2) (Timestamped.timestamp item) ≤ s.config.tolerance := by
  by_cases hmem : stream ∈ s.names
  · rcases push_cases hmem item with ⟨-, hpush⟩ | ⟨cuts, hcuts, hpush⟩
    · cases (congrArg Prod.fst hpush).symm.trans hset
    · obtain rfl := Arrival.matched.inj ((congrArg Prod.fst hpush).symm.trans hset)
      intro e he
      obtain ⟨c, hc, rfl⟩ := List.mem_map.mp he
      obtain ⟨b, -, hsplit⟩ := exists_of_mem_cuts hcuts hc
      obtain ⟨-, -, -, hnear⟩ := Stream.split_eq_some_iff.mp hsplit
      rwa [near, within_eq, decide_eq_true_iff] at hnear
  · rw [push_untracked hmem] at hset
    cases hset

/-- Everything in the buffers has been pushed to the stream where it is. -/
def Brought (s : Synchronizer α) (pushes : List (String × α)) : Prop :=
  ∀ b ∈ s.streams, ∀ x ∈ b.entries, (b.name, x) ∈ pushes

omit [Timestamped α] in
theorem Brought.receive {s : Synchronizer α} {pushes : List (String × α)} (h : Brought s pushes) (stream : String)
    (item : α) : Brought (s.receive stream item) (pushes ++ [(stream, item)]) := by
  intro b' hb' x hx
  rw [streams_receive] at hb'
  obtain ⟨b, hb, rfl⟩ := List.mem_map.mp hb'
  have hold : x ∈ b.entries → (b.name, x) ∈ pushes ++ [(stream, item)] :=
    fun hmem => List.mem_append_left _ (h b hb x hmem)
  simp only [held] at hx
  by_cases hname : b.name = stream
  · have hlonger : x ∈ b.entries ++ [item] := by
      rw [if_pos hname] at hx
      split at hx
      · exact List.mem_of_mem_tail hx
      · exact hx
    rcases List.mem_append.mp hlonger with hx | hx
    · exact hold hx
    · rw [List.mem_singleton.mp hx, ← hname]
      exact List.mem_append_right _ (List.mem_singleton_self _)
  · rw [if_neg hname] at hx
    exact hold hx

/-- So has everything in the set that a push completes. -/
theorem Brought.push {s : Synchronizer α} {pushes : List (String × α)} (h : Brought s pushes) (p : String × α) :
    Brought (s.push p.1 p.2).2 (pushes ++ [p]) ∧
      ∀ set, (s.push p.1 p.2).1 = .matched set → ∀ e ∈ set.entries, e ∈ pushes ++ [p] := by
  have hreceive : Brought (s.receive p.1 p.2) (pushes ++ [p]) := h.receive p.1 p.2
  by_cases hmem : p.1 ∈ s.names
  · rcases push_cases hmem p.2 with ⟨-, hpush⟩ | ⟨cuts, hcuts, hpush⟩
    · rw [hpush]
      exact ⟨hreceive, fun set hset => by cases hset⟩
    · have hcut : ∀ c ∈ cuts, (∀ x ∈ c.rest, (c.stream, x) ∈ pushes ++ [p]) ∧ c.entry ∈ pushes ++ [p] := by
        intro c hc
        obtain ⟨b, hb, hsplit⟩ := exists_of_mem_cuts hcuts hc
        obtain ⟨hname, hentries, -, -⟩ := Stream.split_eq_some_iff.mp hsplit
        have hall := hreceive b hb
        rw [hentries, ← hname] at hall
        refine ⟨fun x hx => hall x ?_, hall c.item ?_⟩
        · exact List.mem_append_right _ (List.mem_cons_of_mem _ hx)
        · exact List.mem_append_right _ List.mem_cons_self
      rw [hpush]
      refine ⟨?_, ?_⟩
      · intro b hb
        obtain ⟨c, hc, rfl⟩ := List.mem_map.mp hb
        exact (hcut c hc).1
      · rintro set hset e he
        obtain rfl := Arrival.matched.inj hset
        obtain ⟨c, hc, rfl⟩ := List.mem_map.mp he
        exact (hcut c hc).2
  · rw [push_untracked hmem]
    exact ⟨fun b hb x hx => List.mem_append_left _ (h b hb x hx), fun set hset => by cases hset⟩

theorem brought_pushAll (names : List String) (config : SyncConfig) (pushes : List (String × α)) :
    Brought ((make names config).pushAll pushes).2 pushes := by
  induction pushes using List.reverseRecOn with
  | nil =>
    intro b hb x hx
    obtain ⟨n, -, rfl⟩ := List.mem_map.mp hb
    cases hx
  | append_singleton pushes p ih =>
    rw [pushAll_concat]
    exact (ih.push p).1

/-! ## How wide sets are -/

/-- The items of a set are within the tolerance of the item that completed it, so the set spans at most twice the
tolerance. It spans no more than the tolerance itself if none of its items is later than that item, in particular if
nothing later has been pushed before, or if the set is a pair with that item in it. -/
theorem sets_near_arrival (names : List String) (config : SyncConfig) (pushes : List (String × α)) {i : Nat}
    (hi : i < pushes.length) {set : SyncedSet α}
    (hset : ((make names config).pushAll pushes).1[i]? = some (.matched set)) :
    let time := Timestamped.timestamp pushes[i].2
    (∀ e ∈ set.entries, Nat.dist (Timestamped.timestamp e.2) time ≤ config.tolerance) ∧
    set.spread ≤ 2 * config.tolerance ∧
    ((∀ e ∈ set.entries, Timestamped.timestamp e.2 ≤ time) → set.spread ≤ config.tolerance) ∧
    ((∀ p ∈ pushes.take i, Timestamped.timestamp p.2 ≤ time) → set.spread ≤ config.tolerance) ∧
    (pushes[i] ∈ set.entries → set.entries.length ≤ 2 → set.spread ≤ config.tolerance) := by
  intro time
  rw [pushAll_answer _ _ hi, Option.some_inj] at hset
  have hconfig := config_pushAll (make names config) (pushes.take i)
  have hnear := near_of_matched hset
  rw [hconfig] at hnear
  have hfrom := ((brought_pushAll names config (pushes.take i)).push pushes[i]).2 set hset
  refine ⟨hnear, SyncedSet.spread_le_of_near hnear, SyncedSet.spread_le_of_not_later hnear, ?_, ?_⟩
  · intro hbefore
    refine SyncedSet.spread_le_of_not_later hnear fun e he => ?_
    rcases List.mem_append.mp (hfrom e he) with hp | hp
    · exact hbefore e hp
    · rw [List.mem_singleton.mp hp]
  · exact fun hown => SyncedSet.spread_le_of_pair hown hnear

/-- The set is a pair with the arriving item in it, and as wide as the tolerance. -/
theorem sets_near_arrival_pair :
    let config : SyncConfig := { tolerance := 8 }
    let frame : Nat → Message := fun t => ⟨t, 0, .buffer []⟩
    let pushes := [("disp", frame 0), ("rgb", frame 16), ("rgb", frame 40), ("disp", frame 24)]
    let set : SyncedSet Message := ⟨[("disp", frame 24), ("rgb", frame 16)]⟩
    3 < pushes.length ∧ ((make ["disp", "rgb"] config).pushAll pushes).1[3]? = some (.matched set) ∧
      pushes[3] ∈ set.entries ∧ set.entries.length ≤ 2 ∧ set.spread ≤ config.tolerance := by
  intro config frame pushes set
  have hset : ((make ["disp", "rgb"] config).pushAll pushes).1[3]? = some (.matched set) := by rfl
  obtain ⟨-, -, -, -, hpair⟩ := sets_near_arrival ["disp", "rgb"] config pushes (i := 3) (by decide) hset
  have hown : pushes[3] ∈ set.entries := by decide
  exact ⟨by decide, hset, hown, by decide, hpair hown (by decide)⟩

/-- With every stream in time order a set may still span more than the tolerance. -/
theorem set_wider_than_tolerance :
    let names := ["a", "b", "c"]
    let config : SyncConfig := { tolerance := 8 }
    let frame : Nat → Message := fun t => ⟨t, 0, .buffer []⟩
    let pushes := [("a", frame 0), ("c", frame 16), ("b", frame 8)]
    (∀ n ∈ names, (arrivals n pushes).Pairwise fun x y => x.timestamp ≤ y.timestamp) ∧
      ∃ set, ((make names config).pushAll pushes).1[2]? = some (.matched set) ∧ ¬ set.spread ≤ config.tolerance := by
  intro names config frame pushes
  refine ⟨by decide, ⟨[("a", frame 0), ("b", frame 8), ("c", frame 16)]⟩, rfl, by decide⟩

/-- So may a pair, where the arriving stream gives an older item instead of the new one. -/
example :
    let frame : Nat → Message := fun t => ⟨t, 0, .buffer []⟩
    ((make ["disp", "rgb"] { tolerance := 8 }).pushAll
      [("disp", frame 0), ("rgb", frame 16), ("disp", frame 8)]).1[2]? =
        some (.matched ⟨[("disp", frame 0), ("rgb", frame 16)]⟩) := rfl

end Synchronizer

end FrameGraph
