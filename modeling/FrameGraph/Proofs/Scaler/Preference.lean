import FrameGraph.Proofs.Scaler
import Mathlib.Data.Prod.Lex

/-!
# The best fit

Ratios are preferred by how far their size is from the requested one, then by their denominators, then by their
numerators. The candidates are listed so that the last two need no comparison: of equally near ones the first is kept.

* `Ratio.cost`: the place of a ratio in the order of preference. `Ratio.simplicity`: the part of it that is not the
  distance. `Ratio.sorted_candidates`: the candidates are in the order of this part.
* `cost_closest_le`: the scan keeps a ratio that none of the list is preferred to.
* `Fit.Best`: a fit of a ratio that none is preferred to. `Fit.Best.unique`: there is one at most.
* `bestFit_eq_some_iff`: when there is a fit, and which.
* `bestFit_optimal`: the same with the numbers that it is computed with.
-/

namespace FrameGraph
set_option autoImplicit false

namespace Ratio
variable {input requested : UInt32} {r s : Ratio}

/-! ## The order of preference -/

/-- Of equally near ratios the one with the smaller denominator is preferred, then that with the smaller numerator. -/
def simplicity (r : Ratio) : Nat ×ₗ Nat :=
  toLex (r.denominator.toNat, r.numerator.toNat)

/-- How far the size that a ratio makes of an axis is from the requested one. -/
def miss (input requested : UInt32) (r : Ratio) : Nat :=
  ((r.size input : Int) - requested.toNat).natAbs

/-- A ratio is preferred to those of higher cost. -/
def cost (input requested : UInt32) (r : Ratio) : Nat ×ₗ Nat ×ₗ Nat :=
  toLex (r.miss input requested, r.simplicity)

theorem simplicity_injective (h : r.simplicity = s.simplicity) : r = s :=
  eq_of_toNat (congrArg (fun key => (ofLex key).2) h) (congrArg (fun key => (ofLex key).1) h)

theorem cost_injective (h : r.cost input requested = s.cost input requested) : r = s :=
  simplicity_injective (congrArg (fun key => (ofLex key).2) h)

theorem cost_le_of_miss_lt (h : r.miss input requested < s.miss input requested) :
    r.cost input requested ≤ s.cost input requested :=
  Prod.Lex.toLex_le_toLex.mpr (.inl h)

theorem cost_le_cost (hmiss : r.miss input requested ≤ s.miss input requested) (h : r.simplicity ≤ s.simplicity) :
    r.cost input requested ≤ s.cost input requested :=
  Prod.Lex.toLex_le_toLex'.mpr ⟨hmiss, fun _ => h⟩

theorem miss_le_of_cost_le (h : r.cost input requested ≤ s.cost input requested) :
    r.miss input requested ≤ s.miss input requested :=
  (Prod.Lex.toLex_le_toLex'.mp h).1

theorem simplicity_le_of_cost_le (h : r.cost input requested ≤ s.cost input requested)
    (hmiss : r.miss input requested = s.miss input requested) : r.simplicity ≤ s.simplicity :=
  (Prod.Lex.toLex_le_toLex'.mp h).2 hmiss

/-- The scan compares what the order compares first. -/
theorem distance_apply (h : r.Settable) : distance (r.apply input) requested = r.miss input requested := by
  rw [distance, miss, toNat_apply h]
  omega

/-! ## The order of the candidates -/

theorem sorted_withDenominator {d : Nat} (hd : d < UInt32.size) :
    (withDenominator d).Pairwise fun r s => r.simplicity < s.simplicity := by
  rw [withDenominator, List.pairwise_map]
  refine List.pairwise_lt_range.imp_of_mem fun {m n} hm hn hlt => ?_
  rw [List.mem_range, Nat.lt_min] at hm hn
  have hnumerator (k : Nat) (hk : k < d) : (UInt32.ofNat (k + 1)).toNat = k + 1 :=
    UInt32.toNat_ofNat_of_lt' (Nat.lt_of_le_of_lt hk hd)
  refine Prod.Lex.toLex_lt_toLex.mpr (.inr ⟨rfl, ?_⟩)
  dsimp only
  rw [hnumerator m hm.1, hnumerator n hn.1]
  exact Nat.succ_lt_succ hlt

theorem sorted_candidates : candidates.Pairwise fun r s => r.simplicity < s.simplicity := by
  have hsize (d : Nat) (hd : d ∈ List.range maxDenominator) : d + 1 < UInt32.size :=
    Nat.lt_of_le_of_lt (Nat.succ_le_of_lt (List.mem_range.mp hd)) (by decide)
  refine List.pairwise_flatMap.mpr ⟨fun d hd => sorted_withDenominator (hsize d hd), ?_⟩
  refine List.pairwise_lt_range.imp_of_mem fun {d e} hd he hlt r hr s hs => ?_
  obtain ⟨hr, -⟩ := (mem_withDenominator (hsize d hd)).mp hr
  obtain ⟨hs, -⟩ := (mem_withDenominator (hsize e he)).mp hs
  exact Prod.Lex.toLex_lt_toLex.mpr (.inl (by omega))

theorem identity_simplicity_le (h : r.Settable) : identity.simplicity ≤ r.simplicity :=
  Prod.Lex.toLex_le_toLex'.mpr ⟨h.denominator_pos, fun _ => h.numerator_pos⟩

end Ratio

/-! ## The scan -/

/-- What the scan holds has been preferred to all before it, so a later ratio has to be strictly nearer. -/
theorem cost_closest_le {input : UInt32} (requested : UInt32) {ratios : List Ratio} (hratios : ratios ⊆ Ratio.candidates)
    {best : Fit} (hbest : best.Reaches input)
    (hsorted : (best.ratio :: ratios).Pairwise fun r s => r.simplicity ≤ s.simplicity) :
    ∀ r ∈ best.ratio :: ratios,
      (closest input requested best ratios).ratio.cost input requested ≤ r.cost input requested := by
  induction ratios generalizing best with
  | nil => exact List.forall_mem_singleton.mpr (le_refl _)
  | cons next rest ih =>
    obtain ⟨hnext, hrest⟩ := List.cons_subset.mp hratios
    obtain ⟨hfirst, htail⟩ := List.pairwise_cons.mp hsorted
    have hsettable := Ratio.mem_candidates.mp hnext
    have hheld : distance best.achieved requested = best.ratio.miss input requested := by
      rw [hbest.2, Ratio.distance_apply hbest.settable]
    rw [closest]
    dsimp only
    rw [hheld, Ratio.distance_apply hsettable]
    split
    · rename_i hnearer
      have hscan := ih hrest (Ratio.reaches_apply hsettable input) htail
      have hkept := (List.forall_mem_cons.mp hscan).1
      exact List.forall_mem_cons.mpr ⟨hkept.trans (Ratio.cost_le_of_miss_lt hnearer), hscan⟩
    · rename_i hfarther
      obtain ⟨hkept, hlater⟩ := List.forall_mem_cons.mp
        (ih hrest hbest (hsorted.sublist ((List.sublist_cons_self next rest).cons_cons _)))
      have hpassed := Ratio.cost_le_cost (Nat.not_lt.mp hfarther) (hfirst next List.mem_cons_self)
      exact List.forall_mem_cons.mpr ⟨hkept, List.forall_mem_cons.mpr ⟨hkept.trans hpassed, hlater⟩⟩

/-! ## The best fit -/

/-- A ratio of the scaler that no other is preferred to, with the size that it makes of the axis. -/
structure Fit.Best (input requested : UInt32) (fit : Fit) : Prop where
  settable : fit.ratio.Settable
  achieved : fit.achieved.toNat = fit.ratio.size input
  least : ∀ r : Ratio, r.Settable → fit.ratio.cost input requested ≤ r.cost input requested

theorem Fit.Best.unique {input requested : UInt32} {fit other : Fit} (h : fit.Best input requested)
    (hother : other.Best input requested) : fit = other := by
  have hratio : fit.ratio = other.ratio :=
    Ratio.cost_injective (le_antisymm (h.least _ hother.settable) (hother.least _ h.settable))
  have hachieved : fit.achieved = other.achieved := by
    refine UInt32.toNat_inj.mp ?_
    rw [h.achieved, hother.achieved, hratio]
  cases fit
  cases other
  cases hratio
  cases hachieved
  rfl

/-- What the scan of all candidates ends with. -/
theorem best_closest (input requested : UInt32) :
    (closest input requested ⟨.identity, Ratio.identity.apply input⟩ Ratio.candidates).Best input requested := by
  have hidentity := Ratio.reaches_apply Ratio.identity_settable input
  have hreaches := reaches_closest requested (List.Subset.refl _) hidentity
  refine ⟨hreaches.settable, hreaches.toNat_achieved, fun r hr => ?_⟩
  refine cost_closest_le requested (List.Subset.refl _) hidentity (List.pairwise_cons.mpr ⟨?_, ?_⟩) r
    (List.mem_cons_of_mem _ (Ratio.mem_candidates.mpr hr))
  · exact fun s hs => Ratio.identity_simplicity_le (Ratio.mem_candidates.mp hs)
  · exact Ratio.sorted_candidates.imp le_of_lt

theorem toNat_scaledSize_least (input : UInt32) :
    (scaledSize input 1 (UInt32.ofNat maxDenominator)).toNat = input.toNat / maxDenominator := by
  have hsettable : Ratio.Settable ⟨1, UInt32.ofNat maxDenominator⟩ := by constructor <;> decide
  refine (Ratio.toNat_apply hsettable input).trans ?_
  rw [Ratio.size]
  exact congrArg (· / maxDenominator) (Nat.mul_one _)

theorem outOfRange_iff (input requested : UInt32) :
    (requested = 0 ∨ input < requested ∨ requested < scaledSize input 1 (UInt32.ofNat maxDenominator)) ↔
      requested.toNat = 0 ∨ input.toNat < requested.toNat ∨ requested.toNat < input.toNat / maxDenominator := by
  have hzero : requested = 0 ↔ requested.toNat = 0 := UInt32.toNat_inj.symm
  rw [hzero, UInt32.lt_iff_toNat_lt, UInt32.lt_iff_toNat_lt, toNat_scaledSize_least]

theorem bestFit_eq_some_iff {input requested : UInt32} {fit : Fit} : bestFit input requested = some fit ↔
    (0 < requested.toNat ∧ requested.toNat ≤ input.toNat ∧ input.toNat / maxDenominator ≤ requested.toNat) ∧
      fit.Best input requested := by
  rw [bestFit]
  split
  · rename_i hrefused
    rw [outOfRange_iff] at hrefused
    constructor
    · intro h
      cases h
    · rintro ⟨hrange, -⟩
      omega
  · rename_i hgranted
    rw [outOfRange_iff] at hgranted
    constructor
    · intro h
      cases h
      exact ⟨by omega, best_closest input requested⟩
    · rintro ⟨-, hbest⟩
      rw [(best_closest input requested).unique hbest]

theorem bestFit_eq_none_iff {input requested : UInt32} : bestFit input requested = none ↔
    requested.toNat = 0 ∨ input.toNat < requested.toNat ∨ requested.toNat < input.toNat / maxDenominator := by
  rw [Option.eq_none_iff_forall_ne_some]
  constructor
  · intro h
    by_contra hrange
    exact h _ (bestFit_eq_some_iff.mpr ⟨by omega, best_closest input requested⟩)
  · intro hrange fit h
    have := (bestFit_eq_some_iff.mp h).1
    omega

/-- There is a fit for the sizes above zero from that of the smallest ratio up to the axis itself, and it is the best one
among all ratios of the scaler. None of them needs more than 64 bits on the way or 32 at the end, and none makes less of
the axis than the smallest one. -/
theorem bestFit_optimal (input requested : UInt32) :
    (bestFit input requested = none ↔
      requested.toNat = 0 ∨ input.toNat < requested.toNat ∨ requested.toNat < input.toNat / maxDenominator) ∧
    (∀ fit, bestFit input requested = some fit → fit.Best input requested) ∧
    ∀ r : Ratio, r.Settable →
      r.apply input = (input.toUInt64 * r.numerator.toUInt64 / r.denominator.toUInt64).toUInt32 ∧
      input.toNat * r.numerator.toNat < UInt64.size ∧
      (r.apply input).toNat = input.toNat * r.numerator.toNat / r.denominator.toNat ∧
      input.toNat / maxDenominator ≤ (r.apply input).toNat := by
  refine ⟨bestFit_eq_none_iff, fun fit h => (bestFit_eq_some_iff.mp h).2, fun r hr => ?_⟩
  refine ⟨r.apply_eq_words input, r.product_lt input, Ratio.toNat_apply hr input, ?_⟩
  rw [Ratio.toNat_apply hr]
  exact Ratio.le_size hr input

/-- The longest axis, and a request in the middle between the sizes of 2/41 and 3/61. -/
theorem bestFit_optimal_tie : bestFit 4294967295 210369249 = some ⟨⟨2, 41⟩, 209510599⟩ ∧
    Fit.Best 4294967295 210369249 ⟨⟨2, 41⟩, 209510599⟩ ∧
    Ratio.miss 4294967295 210369249 ⟨2, 41⟩ = Ratio.miss 4294967295 210369249 ⟨3, 61⟩ := by
  have hfit : bestFit 4294967295 210369249 = some ⟨⟨2, 41⟩, 209510599⟩ := by decide +kernel
  exact ⟨hfit, (bestFit_optimal _ _).2.1 _ hfit, by decide +kernel⟩

end FrameGraph
