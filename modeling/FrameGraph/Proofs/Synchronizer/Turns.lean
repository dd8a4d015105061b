import FrameGraph.Proofs.Synchronizer.Alignment
import Mathlib.Data.List.Induction

/-!
# Streams that take turns

Every stream brings its item of a round before any stream brings one of the next round. Then no stream is ever more
than one item ahead, so that room for one is enough, and the last stream in each round completes its set.

* `turn`, `turns`: what is pushed in one round, and in the first rounds.
* `Synchronizer.Passed`: some rounds have left as sets, and nothing is stale or lost.
* `Synchronizer.passed_turns`, `Synchronizer.passed_within`: so it is between two rounds, and within one.
-/

namespace FrameGraph
set_option autoImplicit false
variable {α : Type} {rounds : Nat}

/-! ## Rounds of pushes -/

/-- What some streams bring when each of them has its turn in a round. There is nothing after the last round. -/
def turn (item : String → Fin rounds → α) (names : List String) (k : Nat) : List (String × α) :=
  names.filterMap fun n => (List.ofFn (item n))[k]?.map fun x => (n, x)

/-- What all streams bring in the first `k` rounds. -/
def turns (item : String → Fin rounds → α) (names : List String) (k : Nat) : List (String × α) :=
  (List.range k).flatMap (turn item names)

variable {item : String → Fin rounds → α} {names : List String} {k : Nat}

@[simp] theorem turn_nil (item : String → Fin rounds → α) (k : Nat) : turn item [] k = [] := rfl

theorem turn_append (item : String → Fin rounds → α) (a b : List String) (k : Nat) :
    turn item (a ++ b) k = turn item a k ++ turn item b k :=
  List.filterMap_append

theorem turn_of_lt (item : String → Fin rounds → α) (names : List String) (hk : k < rounds) :
    turn item names k = names.map fun n => (n, item n ⟨k, hk⟩) := by
  rw [turn, ← List.filterMap_eq_map]
  refine List.filterMap_congr fun n _ => ?_
  simp [hk]

theorem turn_of_le (item : String → Fin rounds → α) (names : List String) (hk : rounds ≤ k) :
    turn item names k = [] := by
  rw [turn, List.filterMap_eq_nil_iff]
  intro n _
  rw [List.getElem?_eq_none (by simpa using hk), Option.map_none]

@[simp] theorem turns_zero (item : String → Fin rounds → α) (names : List String) : turns item names 0 = [] := rfl

theorem turns_succ (item : String → Fin rounds → α) (names : List String) (k : Nat) :
    turns item names (k + 1) = turns item names k ++ turn item names k := by
  rw [turns, List.range_succ, List.flatMap_append, List.flatMap_singleton, turns]

theorem turns_of_le (item : String → Fin rounds → α) (names : List String) (hk : rounds ≤ k) :
    turns item names k = turns item names rounds := by
  induction k with
  | zero =>
    obtain rfl := Nat.le_zero.mp hk
    rfl
  | succ k ih =>
    rcases Nat.eq_or_lt_of_le hk with rfl | hlt
    · rfl
    · rw [turns_succ, turn_of_le item names (Nat.le_of_lt_succ hlt), List.append_nil, ih (Nat.le_of_lt_succ hlt)]

theorem arrivals_append (stream : String) (a b : List (String × α)) :
    arrivals stream (a ++ b) = arrivals stream a ++ arrivals stream b := by
  simp [arrivals]

theorem arrivals_turn_of_not_mem (item : String → Fin rounds → α) {n : String} (hn : n ∉ names) (k : Nat) :
    arrivals n (turn item names k) = [] := by
  rw [arrivals, List.filter_eq_nil_iff.mpr, List.map_nil]
  intro p hp hsame
  obtain ⟨m, hm, hitem⟩ := List.mem_filterMap.mp hp
  obtain ⟨x, -, rfl⟩ := Option.map_eq_some_iff.mp hitem
  exact hn (beq_iff_eq.mp hsame ▸ hm)

theorem arrivals_turn (hnodup : names.Nodup) {n : String} (hn : n ∈ names) (k : Nat) :
    arrivals n (turn item names k) = (List.ofFn (item n))[k]?.toList := by
  obtain ⟨before, after, rfl⟩ := List.append_of_mem hn
  obtain ⟨-, hafter, hbefore⟩ := List.nodup_append.mp hnodup
  have hnone := arrivals_turn_of_not_mem item (fun h => hbefore n h n List.mem_cons_self rfl) k
  have hrest := arrivals_turn_of_not_mem item (List.nodup_cons.mp hafter).1 k
  have hown : arrivals n (turn item [n] k) = (List.ofFn (item n))[k]?.toList := by
    rw [turn, List.filterMap_cons, List.filterMap_nil]
    cases (List.ofFn (item n))[k]? <;> simp [arrivals]
  rw [turn_append, arrivals_append, hnone, List.nil_append, ← List.singleton_append, turn_append, arrivals_append,
    hrest, hown, List.append_nil]

theorem arrivals_turns (hnodup : names.Nodup) {n : String} (hn : n ∈ names) (k : Nat) :
    arrivals n (turns item names k) = (List.ofFn (item n)).take k := by
  induction k with
  | zero => rfl
  | succ k ih => rw [turns_succ, arrivals_append, ih, arrivals_turn hnodup hn, List.take_add_one]

/-- What has been pushed when some streams have not had their turn in a round. -/
theorem eq_of_append_turn {pushes : List (String × α)} {done left : List String} (hsplit : done ++ left = names)
    (h : pushes ++ turn item left k = turns item names (k + 1)) : pushes = turns item names k ++ turn item done k := by
  have hround : turn item names k = turn item done k ++ turn item left k := by rw [← hsplit, turn_append]
  rw [turns_succ, hround, ← List.append_assoc] at h
  exact List.append_cancel_right h

/-- What a stream has brought before its turn. -/
theorem arrivals_of_append_turn (hnodup : names.Nodup) {pushes : List (String × α)} {n : String} {left : List String}
    (hleft : n :: left <:+ names) (h : pushes ++ turn item (n :: left) k = turns item names (k + 1)) :
    arrivals n pushes = (List.ofFn (item n)).take k := by
  obtain ⟨done, hsplit⟩ := hleft
  have hn : n ∈ names := hsplit ▸ List.mem_append_right _ List.mem_cons_self
  have hnew : n ∉ done := fun hmem =>
    (List.nodup_append.mp (hsplit ▸ hnodup)).2.2 n hmem n List.mem_cons_self rfl
  rw [eq_of_append_turn hsplit h, arrivals_append, arrivals_turns hnodup hn, arrivals_turn_of_not_mem item hnew,
    List.append_nil]

namespace Synchronizer

/-! ## Rounds that have left -/

variable [Timestamped α] {config : SyncConfig}

/-- After these pushes the first `k` rounds have left as sets, and each stream keeps what it has brought since. -/
def Passed (config : SyncConfig) (item : String → Fin rounds → α) (names : List String) (pushes : List (String × α))
    (k : Nat) : Prop :=
  let run := (Synchronizer.make names config).pushAll pushes
  InStep names config pushes k run.2 ∧ run.1.filterMap Arrival.set? = (List.ofFn (roundSet names item)).take k

section
variable (hnodup : names.Nodup) (hroom : 1 ≤ config.maxBacklog)
include hnodup hroom

/-- Nothing leaves while a stream has not had its turn. -/
theorem Passed.waits (hk : k < rounds) (h : Passed config item names (turns item names k) k) {done left : List String}
    (hsplit : names = done ++ left) (hleft : left ≠ []) :
    Passed config item names (turns item names k ++ turn item done k) k := by
  induction done using List.reverseRecOn generalizing left with
  | nil => simpa using h
  | append_singleton done n ih =>
    have hsplit' : names = done ++ n :: left := by simpa using hsplit
    obtain ⟨hin, hsets⟩ := ih hsplit' (List.cons_ne_nil _ _)
    have hcount {m : String} (hm : m ∈ names) : (arrivals m (turns item names k)).length = k := by
      rw [arrivals_turns hnodup hm, List.length_take, List.length_ofFn, Nat.min_eq_left hk.le]
    obtain ⟨m, hm⟩ := List.exists_mem_of_ne_nil left hleft
    have hn : n ∈ names := hsplit' ▸ List.mem_append_right _ List.mem_cons_self
    have hmnames : m ∈ names := hsplit ▸ List.mem_append_right _ hm
    have hlater : ∀ x ∈ done ++ [n], x ≠ m := fun x hx => (List.nodup_append.mp (hsplit ▸ hnodup)).2.2 x hx m hm
    have hnew : n ∉ done := fun h =>
      (List.nodup_append.mp (hsplit' ▸ hnodup)).2.2 n h n List.mem_cons_self rfl
    have hone : turn item (done ++ [n]) k = turn item done k ++ [(n, item n ⟨k, hk⟩)] := by
      rw [turn_append, turn_of_lt item [n] hk, List.map_singleton]
    have hwaits := hin.push_waits (p := (n, item n ⟨k, hk⟩)) hn
      (by rw [arrivals_append, arrivals_turn_of_not_mem item hnew, List.append_nil, hcount hn]; omega)
      ⟨m, hmnames, by
        rw [List.append_assoc, ← hone, arrivals_append,
          arrivals_turn_of_not_mem item (fun h => hlater m h rfl), List.append_nil, hcount hmnames]⟩
    rw [hone, ← List.append_assoc, Passed, pushAll_concat, List.filterMap_append, hsets, List.filterMap_cons,
      hwaits.1]
    exact ⟨hwaits.2, List.append_nil _⟩

variable (hnames : names ≠ [])
  (hnear : ∀ a ∈ names, ∀ b ∈ names, ∀ j, Timestamped.timestamp (item a j) ≤
    Timestamped.timestamp (item b j) + config.tolerance)
include hnames hnear

/-- The last stream to have its turn completes the set of the round. -/
theorem Passed.round (hk : k < rounds) (h : Passed config item names (turns item names k) k) :
    Passed config item names (turns item names (k + 1)) (k + 1) := by
  obtain ⟨done, last, hsplit⟩ : ∃ done last, names = done ++ [last] :=
    ⟨_, _, (List.dropLast_append_getLast hnames).symm⟩
  obtain ⟨hin, hsets⟩ := h.waits hnodup hroom hk hsplit (List.cons_ne_nil _ _)
  have hlast : last ∈ names := hsplit ▸ List.mem_append_right _ List.mem_cons_self
  have hnew : last ∉ done := fun h =>
    (List.nodup_append.mp (hsplit ▸ hnodup)).2.2 last h last List.mem_cons_self rfl
  have hone : turns item names (k + 1) =
      turns item names k ++ turn item done k ++ [(last, item last ⟨k, hk⟩)] := by
    rw [turns_succ, List.append_assoc]
    have hround : turn item names k = turn item done k ++ turn item [last] k := by rw [hsplit, turn_append]
    rw [hround, turn_of_lt item [last] hk, List.map_singleton]
  have hcount {m : String} (hm : m ∈ names) (j : Nat) (hj : j ≤ rounds) :
      (arrivals m (turns item names j)).length = j := by
    rw [arrivals_turns hnodup hm, List.length_take, List.length_ofFn, Nat.min_eq_left hj]
  obtain ⟨_, hanswer, hnext⟩ := hin.push_completes (p := (last, item last ⟨k, hk⟩)) hlast
    (by rw [arrivals_append, arrivals_turn_of_not_mem item hnew, List.append_nil, hcount hlast k hk.le]; omega)
    (fun n hn => by rw [← hone, hcount hn (k + 1) hk]; omega)
    (fun n hn => by rw [← hone, arrivals_turns hnodup hn]; exact List.take_prefix _ _) hnear
  rw [hone, Passed, pushAll_concat, List.filterMap_append, hsets, List.filterMap_cons, hanswer,
    List.take_succ_eq_append_getElem (by simpa using hk), List.getElem_ofFn]
  exact ⟨hnext, rfl⟩

theorem passed_turns (k : Nat) : Passed config item names (turns item names k) (min k rounds) := by
  have hall : ∀ j ≤ rounds, Passed config item names (turns item names j) j := by
    intro j hj
    induction j with
    | zero => exact ⟨InStep.make hnodup hnames, rfl⟩
    | succ j ih => exact (ih (Nat.le_of_succ_le hj)).round hnodup hroom hnames hnear hj
  rcases Nat.le_total k rounds with hk | hk
  · rw [Nat.min_eq_left hk]
    exact hall k hk
  · rw [Nat.min_eq_right hk, turns_of_le item names hk]
    exact hall rounds le_rfl

/-- Whatever is left of a round, the rounds before it have left, and with its end it has left as well. -/
theorem passed_within {pushes : List (String × α)} {left : List String} (hleft : left <:+ names)
    (h : pushes ++ turn item left k = turns item names (k + 1)) :
    ∃ j, Passed config item names pushes j ∧ min k rounds ≤ j ∧ j ≤ min (k + 1) rounds ∧
      (left = [] → j = min (k + 1) rounds) := by
  by_cases hnone : left = []
  · rw [hnone, turn_nil, List.append_nil] at h
    exact ⟨_, h ▸ passed_turns hnodup hroom hnames hnear (k + 1), by omega, le_rfl, fun _ => rfl⟩
  · obtain ⟨done, hsplit⟩ := hleft
    have hpushes := eq_of_append_turn hsplit h
    have hbefore := passed_turns hnodup hroom hnames hnear k
    refine ⟨min k rounds, ?_, le_rfl, by omega, fun hnil => absurd hnil hnone⟩
    rcases Nat.lt_or_ge k rounds with hk | hk
    · rw [Nat.min_eq_left hk.le] at hbefore ⊢
      exact hpushes ▸ hbefore.waits hnodup hroom hk hsplit.symm hnone
    · rw [turn_of_le item done hk, List.append_nil] at hpushes
      exact hpushes ▸ hbefore

end

end Synchronizer

end FrameGraph
