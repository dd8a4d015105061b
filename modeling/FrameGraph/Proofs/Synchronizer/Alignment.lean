import FrameGraph.Proofs.Synchronizer.Push

/-!
# Streams that belong together

Every stream brings one item for each round, and the items of one round are within the tolerance of each
other. Whatever the order in which the streams take turns, the rounds leave as sets one after the other,
each with the item that was missing last. For this no stream may run so far ahead of the slowest one that
its buffer overflows.

* `InStep`: between two pushes, the buffers hold what the streams are ahead of the slowest one.
* `InStep.push_waits`, `InStep.push_completes`: what one push makes of this.
* `InStep.of_prefix`: so it stays over a run.
-/

namespace FrameGraph.Synchronizer
set_option autoImplicit false
variable {α : Type} {rounds : Nat}

/-! ## Rounds -/

def roundSet (names : List String) (item : String → Fin rounds → α) (k : Fin rounds) : SyncedSet α :=
  ⟨names.map fun n => (n, item n k)⟩

/-- Pushes that bring each stream its items in their order, in any order of the streams. -/
structure Interleaves (names : List String) (item : String → Fin rounds → α)
    (pushes : List (String × α)) : Prop where
  tracked : ∀ p ∈ pushes, p.1 ∈ names
  arrivals_eq : ∀ n ∈ names, arrivals n pushes = List.ofFn (item n)

/-- With no push does a stream get more than `bound` items ahead of what the slowest one had before. -/
def Paced (names : List String) (bound : Nat) (pushes : List (String × α)) : Prop :=
  ∀ i (hi : i < pushes.length), ∀ n ∈ names,
    (arrivals pushes[i].1 (pushes.take (i + 1))).length ≤ (arrivals n (pushes.take i)).length + bound

/-- The push at place `i` brings the last item of round `k`. -/
def Completes (names : List String) (pushes : List (String × α)) (i k : Nat) : Prop :=
  (∃ n ∈ names, (arrivals n (pushes.take i)).length ≤ k) ∧
    ∀ n ∈ names, k < (arrivals n (pushes.take (i + 1))).length

/-! ## The invariant -/

/-- The state after pushes whose slowest stream has had `k` items: `k` rounds have left, and each stream
keeps what it has had since then. -/
structure InStep (names : List String) (config : SyncConfig) (pushes : List (String × α))
    (k : Nat) (s : Synchronizer α) : Prop where
  config : s.config = config
  streams : s.streams = names.map fun n => ⟨n, (arrivals n pushes).drop k⟩
  reached : ∀ n ∈ names, k ≤ (arrivals n pushes).length
  slowest : ∃ n ∈ names, (arrivals n pushes).length = k
  stats : s.stats = { received := pushes.length, emittedSets := k }

variable {names : List String} {config : SyncConfig} {pushes : List (String × α)} {k : Nat}
  {s : Synchronizer α} {p : String × α}

theorem InStep.make (hnodup : names.Nodup) (hnames : names ≠ []) :
    InStep names config [] 0 (make names config : Synchronizer α) := by
  obtain ⟨n, hn⟩ := List.exists_mem_of_ne_nil names hnames
  refine ⟨rfl, ?_, fun _ _ => Nat.zero_le _, ⟨n, hn, rfl⟩, rfl⟩
  simp [Synchronizer.make, eraseDups_of_nodup hnodup]

theorem InStep.mem_names (h : InStep names config pushes k s) {stream : String} :
    stream ∈ s.names ↔ stream ∈ names := by
  simp [Synchronizer.names, h.streams]

theorem InStep.backlog?_eq (h : InStep names config pushes k s) {n : String} (hn : n ∈ names) :
    s.backlog? n = some ((arrivals n pushes).length - k) := by
  obtain ⟨b, hb, hname, hfind⟩ := find?_of_mem_names (h.mem_names.mpr hn)
  rw [h.streams, List.mem_map] at hb
  obtain ⟨m, -, rfl⟩ := hb
  rw [backlog?, hfind, Option.map_some, List.length_drop, ← hname]

theorem InStep.receive_streams (h : InStep names config pushes k s) (hstream : p.1 ∈ names)
    (hroom : (arrivals p.1 pushes).length + 1 ≤ k + config.maxBacklog) :
    (s.receive p.1 p.2).streams =
      names.map fun n => ⟨n, (arrivals n (pushes ++ [p])).drop k⟩ := by
  simp only [receive, h.streams, h.config, List.map_map]
  apply List.map_congr_left
  intro n _
  simp only [Function.comp_apply, arrivals_concat]
  by_cases hn : n = p.1
  · subst hn
    have hk := h.reached p.1 hstream
    have hfits : ¬ config.maxBacklog < ((arrivals p.1 pushes).drop k ++ [p.2]).length := by
      simp only [List.length_append, List.length_drop, List.length_singleton]
      omega
    rw [if_pos rfl, if_pos rfl, Stream.receive, if_neg hfits, List.drop_append_of_le_length hk]
  · rw [if_neg hn, if_neg (Ne.symm hn), List.append_nil]

theorem InStep.receive_stats (h : InStep names config pushes k s) (hstream : p.1 ∈ names)
    (hroom : (arrivals p.1 pushes).length + 1 ≤ k + config.maxBacklog) :
    (s.receive p.1 p.2).stats =
      { received := (pushes ++ [p]).length, emittedSets := k } := by
  have hlost : (s.streams.any fun b => b.name == p.1 && b.overflows config.maxBacklog) = false := by
    rw [h.streams, List.any_map, List.any_eq_false]
    intro n _
    simp only [Function.comp_apply, Stream.overflows, Bool.and_eq_true, beq_iff_eq, decide_eq_true_eq,
      List.length_drop]
    rintro ⟨rfl, hover⟩
    have hk := h.reached p.1 hstream
    omega
  simp [receive, h.config, hlost, h.stats]

theorem InStep.room {i : Nat} (hi : i < pushes.length) (h : InStep names config (pushes.take i) k s)
    (hpaced : Paced names config.maxBacklog pushes) :
    (arrivals pushes[i].1 (pushes.take i)).length + 1 ≤ k + config.maxBacklog := by
  obtain ⟨n, hn, hlen⟩ := h.slowest
  have hle := hpaced i hi n hn
  rw [List.take_succ_eq_append_getElem hi, arrivals_concat, List.length_append, hlen] at hle
  simpa using hle

/-! ## One push -/

/-- A push after which no stream waits for round `k` brings the item of that round. -/
theorem InStep.length_of_completes (h : InStep names config pushes k s)
    (hall : ∀ n ∈ names, k < (arrivals n (pushes ++ [p])).length) :
    (arrivals p.1 pushes).length = k := by
  obtain ⟨n, hn, hlen⟩ := h.slowest
  have hlt := hall n hn
  rw [arrivals_concat, List.length_append, hlen] at hlt
  by_cases he : p.1 = n
  · rw [he, hlen]
  · simp [he] at hlt

variable [Timestamped α]

theorem InStep.push_waits (h : InStep names config pushes k s) (hstream : p.1 ∈ names)
    (hroom : (arrivals p.1 pushes).length + 1 ≤ k + config.maxBacklog)
    (hslow : ∃ n ∈ names, (arrivals n (pushes ++ [p])).length = k) :
    (s.push p.1 p.2).1 = .buffered ∧
      InStep names config (pushes ++ [p]) k (s.push p.1 p.2).2 := by
  have hstreams := h.receive_streams (p := p) hstream hroom
  have hnone : splitAll (s.near (Timestamped.timestamp p.2)) (s.receive p.1 p.2).streams = none := by
    obtain ⟨n, hn, hlen⟩ := hslow
    rw [splitAll_eq_none_iff, hstreams]
    refine ⟨_, List.mem_map_of_mem hn, Stream.split_eq_none_iff.mpr ?_⟩
    simp [← hlen]
  rw [push_of_none (h.mem_names.mpr hstream) hnone]
  refine ⟨rfl, h.config, hstreams, ?_, hslow, h.receive_stats hstream hroom⟩
  intro n hn
  have hk := h.reached n hn
  rw [arrivals_concat, List.length_append]
  omega

/-- The push that brings the last item of a round completes the set of this round. -/
theorem InStep.push_completes {item : String → Fin rounds → α}
    (h : InStep names config pushes k s) (hstream : p.1 ∈ names)
    (hroom : (arrivals p.1 pushes).length + 1 ≤ k + config.maxBacklog)
    (hall : ∀ n ∈ names, k < (arrivals n (pushes ++ [p])).length)
    (hitem : ∀ n ∈ names, arrivals n (pushes ++ [p]) <+: List.ofFn (item n))
    (hnear : ∀ a ∈ names, ∀ b ∈ names, ∀ j, Timestamped.timestamp (item a j) ≤
      Timestamped.timestamp (item b j) + config.tolerance) :
    ∃ hk : k < rounds, (s.push p.1 p.2).1 = .matched (roundSet names item ⟨k, hk⟩) ∧
      InStep names config (pushes ++ [p]) (k + 1) (s.push p.1 p.2).2 := by
  have hk : k < rounds := by
    have hlt := hall p.1 hstream
    have hle := (hitem p.1 hstream).length_le
    rw [List.length_ofFn] at hle
    omega
  have hget : ∀ n ∈ names, ∀ hlt : k < (arrivals n (pushes ++ [p])).length,
      (arrivals n (pushes ++ [p]))[k] = item n ⟨k, hk⟩ := by
    intro n hn hlt
    rw [(hitem n hn).getElem hlt, List.getElem_ofFn]
  have hlen := h.length_of_completes hall
  have hx : p.2 = item p.1 ⟨k, hk⟩ := by
    rw [← hget p.1 hstream (hall p.1 hstream)]
    simp [arrivals_concat, hlen]
  have hcuts : splitAll (s.near (Timestamped.timestamp p.2)) (s.receive p.1 p.2).streams =
      some (names.map fun n =>
        ⟨n, [], item n ⟨k, hk⟩, (arrivals n (pushes ++ [p])).drop (k + 1)⟩) := by
    rw [splitAll_eq_some_iff, h.receive_streams hstream hroom, List.forall₂_map_left_iff,
      List.forall₂_map_right_iff, List.forall₂_same]
    intro n hn
    refine Stream.split_eq_some_iff.mpr ⟨rfl, ?_, by simp, ?_⟩
    · rw [List.nil_append, List.drop_eq_getElem_cons (hall n hn), hget n hn (hall n hn)]
    · rw [near, h.config, within_eq_true_iff, hx]
      exact ⟨hnear n hn p.1 hstream _, hnear p.1 hstream n hn _⟩
  rw [push_of_cuts (h.mem_names.mpr hstream) hcuts]
  refine ⟨hk, ?_, h.config, ?_, hall, ⟨p.1, hstream, ?_⟩, ?_⟩
  · simp [roundSet, Cut.entry, Function.comp_def]
  · simp [emit, Cut.remaining, Function.comp_def]
  · simp [arrivals_concat, hlen]
  · simp [emit, h.receive_stats hstream hroom, List.flatMap_map]

/-! ## Runs -/

section Run
variable {item : String → Fin rounds → α}
  (hnear : ∀ a ∈ names, ∀ b ∈ names, ∀ j, Timestamped.timestamp (item a j) ≤
    Timestamped.timestamp (item b j) + config.tolerance)
  (hinter : Interleaves names item pushes) (hpaced : Paced names config.maxBacklog pushes)
include hnear hinter hpaced

theorem InStep.next {i : Nat} (hi : i < pushes.length) (h : InStep names config (pushes.take i) k s) :
    ((∃ n ∈ names, (arrivals n (pushes.take (i + 1))).length = k) ∧
      (s.push pushes[i].1 pushes[i].2).1 = .buffered ∧
      InStep names config (pushes.take (i + 1)) k (s.push pushes[i].1 pushes[i].2).2) ∨
    ((∀ n ∈ names, k < (arrivals n (pushes.take (i + 1))).length) ∧
      ∃ hk : k < rounds,
        (s.push pushes[i].1 pushes[i].2).1 = .matched (roundSet names item ⟨k, hk⟩) ∧
        InStep names config (pushes.take (i + 1)) (k + 1) (s.push pushes[i].1 pushes[i].2).2) := by
  have hstream := hinter.tracked pushes[i] (List.getElem_mem hi)
  have hroom := h.room hi hpaced
  have hitem : ∀ n ∈ names, arrivals n (pushes.take (i + 1)) <+: List.ofFn (item n) := by
    intro n hn
    rw [← hinter.arrivals_eq n hn]
    exact arrivals_prefix n (List.take_prefix _ _)
  rw [List.take_succ_eq_append_getElem hi] at hitem ⊢
  by_cases hslow : ∃ n ∈ names, (arrivals n (pushes.take i ++ [pushes[i]])).length = k
  · exact .inl ⟨hslow, h.push_waits hstream hroom hslow⟩
  · have hall : ∀ n ∈ names, k < (arrivals n (pushes.take i ++ [pushes[i]])).length := by
      intro n hn
      have hk := h.reached n hn
      have hne : (arrivals n (pushes.take i ++ [pushes[i]])).length ≠ k := fun e => hslow ⟨n, hn, e⟩
      rw [arrivals_concat, List.length_append] at hne ⊢
      omega
    exact .inr ⟨hall, h.push_completes hstream hroom hall hitem hnear⟩

theorem InStep.of_prefix (hnodup : names.Nodup) (hnames : names ≠ []) (i : Nat)
    (hi : i ≤ pushes.length) :
    ∃ k, InStep names config (pushes.take i) k ((Synchronizer.make names config).pushAll (pushes.take i)).2 ∧
      ((Synchronizer.make names config).pushAll (pushes.take i)).1.filterMap Arrival.set? =
        (List.ofFn (roundSet names item)).take k := by
  induction i with
  | zero => exact ⟨0, InStep.make hnodup hnames, rfl⟩
  | succ i ih =>
    obtain ⟨k, h, hsets⟩ := ih (by omega)
    have hrun := pushAll_concat (Synchronizer.make names config) (pushes.take i) pushes[i]
    rw [← List.take_succ_eq_append_getElem hi] at hrun
    rw [hrun, List.filterMap_append, hsets]
    rcases InStep.next hnear hinter hpaced hi h with ⟨_, hanswer, hnext⟩ | ⟨_, hk, hanswer, hnext⟩
    · exact ⟨k, hnext, by simp [hanswer, Arrival.set?]⟩
    · refine ⟨k + 1, hnext, ?_⟩
      rw [List.take_succ_eq_append_getElem (by simpa using hk), List.getElem_ofFn, hanswer]
      rfl

/-- The answer to a push is the set of the one round that it completes, if there is such a round. -/
theorem InStep.answer (hnodup : names.Nodup) (hnames : names ≠ []) {i : Nat} (hi : i < pushes.length) :
    (∃ k, ∃ hk : k < rounds, Completes names pushes i k ∧
      ((Synchronizer.make names config).pushAll pushes).1[i]? = some (.matched (roundSet names item ⟨k, hk⟩)) ∧
      ∀ j, Completes names pushes i j → j = k) ∨
    ((Synchronizer.make names config).pushAll pushes).1[i]? = some .buffered ∧
      ∀ j, ¬ Completes names pushes i j := by
  obtain ⟨k, h, -⟩ := InStep.of_prefix hnear hinter hpaced hnodup hnames i (Nat.le_of_lt hi)
  rw [pushAll_answer _ _ hi]
  -- A round that the push completes is one that the slowest stream lacked before and has after it.
  have hlow : ∀ j, Completes names pushes i j → k ≤ j := by
    rintro j ⟨⟨n, hn, hle⟩, -⟩
    exact (h.reached n hn).trans hle
  rcases InStep.next hnear hinter hpaced hi h with ⟨⟨m, hm, hlen⟩, hanswer, -⟩ | ⟨hall, hk, hanswer, hnext⟩
  · refine .inr ⟨by rw [hanswer], fun j hj => ?_⟩
    have hle := hlow j hj
    have hlt := hj.2 m hm
    omega
  · obtain ⟨n, hn, hlen⟩ := h.slowest
    refine .inl ⟨k, hk, ⟨⟨n, hn, hlen.le⟩, hall⟩, by rw [hanswer], fun j hj => ?_⟩
    obtain ⟨m, hm, hlen'⟩ := hnext.slowest
    have hle := hlow j hj
    have hlt := hj.2 m hm
    omega

end Run

/-- However the streams take turns, every round leaves as one set, round after round, in answer to the push
that brings its last item. All other pushes are buffered, and in the end nothing is left or lost. Items of
different rounds may be as near to each other as they like. -/
theorem rounds_leave_in_order {item : String → Fin rounds → α}
    (hnodup : names.Nodup) (hnames : names ≠ [])
    (hnear : ∀ a ∈ names, ∀ b ∈ names, ∀ k, Timestamped.timestamp (item a k) ≤
      Timestamped.timestamp (item b k) + config.tolerance)
    (hinter : Interleaves names item pushes) (hpaced : Paced names config.maxBacklog pushes) :
    let run := (Synchronizer.make names config).pushAll pushes
    run.1.filterMap Arrival.set? = List.ofFn (roundSet names item) ∧
    (∀ i < pushes.length, ∀ k : Fin rounds, Completes names pushes i k →
      run.1[i]? = some (.matched (roundSet names item k))) ∧
    (∀ i < pushes.length, (∀ k : Fin rounds, ¬ Completes names pushes i k) →
      run.1[i]? = some .buffered) ∧
    (∀ n ∈ names, run.2.backlog? n = some 0) ∧
    run.2.stats =
      { received := pushes.length, emittedSets := rounds, discardedStale := 0, overflowDrops := 0 } := by
  intro run
  obtain ⟨k, h, hsets⟩ := InStep.of_prefix hnear hinter hpaced hnodup hnames pushes.length le_rfl
  rw [List.take_length] at h hsets
  have hk : k = rounds := by
    obtain ⟨n, hn, hlen⟩ := h.slowest
    rw [← hlen, hinter.arrivals_eq n hn, List.length_ofFn]
  subst hk
  refine ⟨?_, ?_, ?_, ?_, h.stats⟩
  · rw [hsets, List.take_of_length_le (by simp)]
  · intro i hi j hj
    rcases InStep.answer hnear hinter hpaced hnodup hnames hi with ⟨r, hr, -, hanswer, honly⟩ | ⟨-, hnone⟩
    · obtain rfl : j = ⟨r, hr⟩ := Fin.ext (honly j hj)
      exact hanswer
    · exact absurd hj (hnone j)
  · intro i hi hno
    rcases InStep.answer hnear hinter hpaced hnodup hnames hi with ⟨r, hr, hdone, -, -⟩ | ⟨hanswer, -⟩
    · exact absurd hdone (hno ⟨r, hr⟩)
    · exact hanswer
  · intro n hn
    rw [h.backlog?_eq hn, hinter.arrivals_eq n hn, List.length_ofFn, Nat.sub_self]

/-- One stream brings both its items before the other brings its first one. -/
theorem rounds_leave_in_order_one_stream_ahead :
    let names := ["disp", "rgb"]
    let config : SyncConfig := { tolerance := 8, maxBacklog := 2 }
    let item : String → Fin 2 → Message := fun n k => ⟨16 * k.val + n.length, k.val, .buffer []⟩
    let pushes := [("disp", item "disp" 0), ("disp", item "disp" 1),
      ("rgb", item "rgb" 0), ("rgb", item "rgb" 1)]
    let run := (Synchronizer.make names config).pushAll pushes
    Interleaves names item pushes ∧ Paced names 2 pushes ∧
      run.1.filterMap Arrival.set? = [roundSet names item 0, roundSet names item 1] ∧
      run.1[1]? = some .buffered ∧ run.1[2]? = some (.matched (roundSet names item 0)) ∧
      run.2.backlog? "disp" = some 0 := by
  intro names config item pushes run
  have hinter : Interleaves names item pushes := ⟨by decide, by decide⟩
  have hpaced : Paced names config.maxBacklog pushes := by
    unfold Paced
    decide
  have hnear : ∀ a ∈ names, ∀ b ∈ names, ∀ k, Timestamped.timestamp (item a k) ≤
      Timestamped.timestamp (item b k) + config.tolerance := by decide
  obtain ⟨hsets, hdone, hwait, hleft, -⟩ :=
    rounds_leave_in_order (by decide) (by decide) hnear hinter hpaced
  refine ⟨hinter, hpaced, hsets, hwait 1 (by decide) ?_, hdone 2 (by decide) 0 ?_, hleft "disp" (by decide)⟩
  · unfold Completes
    decide
  · unfold Completes
    decide

end FrameGraph.Synchronizer
