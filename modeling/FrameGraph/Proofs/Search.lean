import Mathlib.Data.List.Nodup
import Mathlib.Order.Nat
import Mathlib.Tactic.ByContra

/-!
# Looking for a candidate that is free

Candidates are numbered, and one after the other is looked at until one is free. Nothing else ends such a search. Where
no two candidates have one name, it has ended when one more has been looked at than there are names taken.

* `Search`: a search that has come to its end, with the number of candidates that were looked at.
* `search_iff`: what was looked at and what was found.
* `exists_isLeast_notMem`: of more candidates than there are names taken, one is free.
* `exists_search`: the search ends, and one that gives up after as many candidates finds the same.
-/

namespace FrameGraph
set_option autoImplicit false
variable {α β : Type}

/-- From a number on, as many candidates as `looked` are looked at, of which the last one is free and found. -/
inductive Search (candidate : Nat → α) (free : α → Bool) : Nat → Nat → α → Prop
  | found {i : Nat} (h : free (candidate i) = true) : Search candidate free i 1 (candidate i)
  | passed {i looked : Nat} {a : α} (h : free (candidate i) = false) (rest : Search candidate free (i + 1) looked a) :
    Search candidate free i (looked + 1) a

variable {candidate : Nat → α} {free : α → Bool}

theorem Search.exists_number {i looked : Nat} {a : α} (h : Search candidate free i looked a) :
    ∃ k, i ≤ k ∧ looked + i = k + 1 ∧ a = candidate k ∧ free (candidate k) = true ∧
      ∀ j, i ≤ j → j < k → free (candidate j) = false := by
  induction h with
  | @found i h => exact ⟨i, Nat.le_refl i, Nat.add_comm 1 i, rfl, h, fun j hij hji => by omega⟩
  | @passed i looked a htaken rest ih =>
    obtain ⟨k, hik, hlooked, ha, hfree, hbefore⟩ := ih
    refine ⟨k, by omega, by omega, ha, hfree, fun j hij hjk => ?_⟩
    rcases Nat.eq_or_lt_of_le hij with rfl | hij
    · exact htaken
    · exact hbefore j hij hjk

theorem search_of_first {i looked k : Nat} (hik : i ≤ k) (hlooked : looked + i = k + 1)
    (hfree : free (candidate k) = true) (hbefore : ∀ j, i ≤ j → j < k → free (candidate j) = false) :
    Search candidate free i looked (candidate k) := by
  induction looked generalizing i with
  | zero => omega
  | succ looked ih =>
    rcases Nat.eq_or_lt_of_le hik with rfl | hlt
    · obtain rfl : looked = 0 := by omega
      exact .found hfree
    · exact .passed (hbefore i (Nat.le_refl i) hlt)
        (ih hlt (by omega) fun j hij hjk => hbefore j (Nat.le_of_succ_le hij) hjk)

/-- A search from the beginning finds the candidate with the least number of those that are free. -/
theorem search_iff {looked : Nat} {a : α} :
    Search candidate free 0 looked a ↔
      ∃ k, looked = k + 1 ∧ a = candidate k ∧ IsLeast {i | free (candidate i) = true} k := by
  constructor
  · intro h
    obtain ⟨k, -, hlooked, ha, hfree, hbefore⟩ := h.exists_number
    refine ⟨k, hlooked, ha, hfree, fun j hj => Nat.le_of_not_lt fun hlt => ?_⟩
    have hfreeToo : free (candidate j) = true := hj
    rw [hbefore j (Nat.zero_le j) hlt] at hfreeToo
    cases hfreeToo
  · rintro ⟨k, rfl, rfl, hfree, hleast⟩
    exact search_of_first (Nat.zero_le k) rfl hfree fun j _ hjk =>
      Bool.eq_false_iff.mpr fun hj => Nat.not_le.mpr hjk (hleast hj)

/-! ## Few that are taken -/

/-- There are more candidates to choose from than names taken, so one of them is free. -/
theorem exists_isLeast_notMem {name : Nat → β} (hdistinct : Function.Injective name) (taken : List β) :
    ∃ k ≤ taken.length, IsLeast {i | name i ∉ taken} k := by
  classical
  obtain ⟨i, hi, hfree⟩ : ∃ i ≤ taken.length, name i ∉ taken := by
    by_contra hnone
    push Not at hnone
    -- Otherwise the first candidates are as many distinct ones that are taken.
    have htaken : (List.range (taken.length + 1)).map name ⊆ taken := by
      intro a ha
      obtain ⟨i, hi, rfl⟩ := List.mem_map.mp ha
      exact hnone i (Nat.le_of_lt_succ (List.mem_range.mp hi))
    have hcount := (List.nodup_range.map hdistinct).length_le_of_subset htaken
    rw [List.length_map, List.length_range] at hcount
    exact Nat.not_succ_le_self _ hcount
  have hsome : ∃ i, name i ∉ taken := ⟨i, hfree⟩
  exact ⟨Nat.find hsome, Nat.le_trans (Nat.find_min' hsome hfree) hi, Nat.isLeast_find hsome⟩

/-- A search for a candidate whose name is not taken. One that gives up after more candidates than there are names
taken finds the same. -/
theorem exists_search (candidate : Nat → α) (free : α → Bool) {name : Nat → β} (hdistinct : Function.Injective name)
    (taken : List β) (hfree : ∀ i, free (candidate i) = true ↔ name i ∉ taken) :
    ∃ k ≤ taken.length, IsLeast {i | name i ∉ taken} k ∧ Search candidate free 0 (k + 1) (candidate k) ∧
      ∀ m, taken.length < m → (List.range m).find? (fun i => free (candidate i)) = some k := by
  obtain ⟨k, hk, hleast⟩ := exists_isLeast_notMem hdistinct taken
  have hnames : {i | free (candidate i) = true} = {i | name i ∉ taken} := Set.ext hfree
  refine ⟨k, hk, hleast, search_iff.mpr ⟨k, rfl, rfl, hnames ▸ hleast⟩, fun m hm => ?_⟩
  rw [List.find?_range_eq_some]
  refine ⟨(hfree k).mpr hleast.1, List.mem_range.mpr (Nat.lt_of_le_of_lt hk hm), fun j hj => ?_⟩
  rw [Bool.not_eq_true', Bool.eq_false_iff]
  intro hj'
  exact Nat.not_le.mpr hj (hleast.2 ((hfree j).mp hj'))

end FrameGraph
