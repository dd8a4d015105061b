import FrameGraph.Scaler

/-!
# What the scaler reaches

A fit is a ratio of the scaler with the size that it makes of the axis, and no ratio enlarges.

* `Ratio.Settable`: the ratios that the scaler can be set to. `Ratio.mem_candidates`: the candidates are these.
* `Ratio.size`: the size that a ratio makes of an axis, among all natural numbers. `Ratio.toNat_apply`: 32 bits hold it.
* `Ratio.size_le`, `Ratio.le_size`: the largest and the smallest size.
* `Fit.Reaches`: a ratio of the scaler with what it makes of an axis. `reaches_of_bestFit`: every fit is one.
-/

namespace FrameGraph
set_option autoImplicit false

namespace Ratio

/-! ## Ratios of the scaler -/

structure Settable (r : Ratio) : Prop where
  numerator_pos : 0 < r.numerator.toNat
  numerator_le : r.numerator.toNat ≤ maxNumerator
  shrinks : r.numerator.toNat ≤ r.denominator.toNat
  denominator_le : r.denominator.toNat ≤ maxDenominator

theorem Settable.denominator_pos {r : Ratio} (h : r.Settable) : 0 < r.denominator.toNat :=
  Nat.lt_of_lt_of_le h.numerator_pos h.shrinks

/-- There is a ratio for every numerator and denominator within the bounds. -/
theorem exists_settable {n d : Nat} (hpos : 0 < n) (hn : n ≤ maxNumerator) (hnd : n ≤ d) (hd : d ≤ maxDenominator) :
    ∃ r : Ratio, r.Settable ∧ r.numerator.toNat = n ∧ r.denominator.toNat = d := by
  have hbound : maxNumerator < UInt32.size ∧ maxDenominator < UInt32.size := by decide
  have hnumerator : (UInt32.ofNat n).toNat = n := UInt32.toNat_ofNat_of_lt' (by omega)
  have hdenominator : (UInt32.ofNat d).toNat = d := UInt32.toNat_ofNat_of_lt' (by omega)
  refine ⟨⟨UInt32.ofNat n, UInt32.ofNat d⟩, ?_, hnumerator, hdenominator⟩
  constructor <;> simpa only [hnumerator, hdenominator]

/-- A ratio is told by its numbers. -/
theorem eq_of_toNat {r s : Ratio} (hn : r.numerator.toNat = s.numerator.toNat)
    (hd : r.denominator.toNat = s.denominator.toNat) : r = s := by
  obtain ⟨n, d⟩ := r
  obtain rfl : n = s.numerator := UInt32.toNat_inj.mp hn
  obtain rfl : d = s.denominator := UInt32.toNat_inj.mp hd
  rfl

theorem mem_withDenominator {r : Ratio} {d : Nat} (hd : d < UInt32.size) : r ∈ withDenominator d ↔
    r.denominator.toNat = d ∧ 0 < r.numerator.toNat ∧ r.numerator.toNat ≤ d ∧ r.numerator.toNat ≤ maxNumerator := by
  rw [withDenominator, List.mem_map]
  constructor
  · rintro ⟨n, hn, rfl⟩
    rw [List.mem_range, Nat.lt_min] at hn
    rw [UInt32.toNat_ofNat_of_lt' hd, UInt32.toNat_ofNat_of_lt' (Nat.lt_of_le_of_lt hn.1 hd)]
    omega
  · rintro ⟨rfl, hpos, hshrinks, hle⟩
    refine ⟨r.numerator.toNat - 1, by rw [List.mem_range, Nat.lt_min]; omega, ?_⟩
    rw [Nat.sub_add_cancel hpos, UInt32.ofNat_toNat, UInt32.ofNat_toNat]

theorem mem_candidates {r : Ratio} : r ∈ candidates ↔ r.Settable := by
  have hsize (d : Nat) (hd : d < maxDenominator) : d + 1 < UInt32.size :=
    Nat.lt_of_le_of_lt (Nat.succ_le_of_lt hd) (by decide)
  simp only [candidates, List.mem_flatMap, List.mem_range]
  constructor
  · rintro ⟨d, hd, hr⟩
    obtain ⟨hdenominator, hpos, hshrinks, hle⟩ := (mem_withDenominator (hsize d hd)).mp hr
    exact ⟨hpos, hle, by omega, by omega⟩
  · intro h
    have hpos := h.denominator_pos
    have hle := h.denominator_le
    have hd : r.denominator.toNat - 1 < maxDenominator := by omega
    exact ⟨r.denominator.toNat - 1, hd, (mem_withDenominator (hsize _ hd)).mpr
      ⟨by omega, h.numerator_pos, by have := h.shrinks; omega, h.numerator_le⟩⟩

theorem identity_settable : identity.Settable := by
  constructor <;> decide

/-! ## Sizes -/

/-- The size that a ratio makes of an axis, whatever the number of bits that it takes. -/
def size (r : Ratio) (input : UInt32) : Nat :=
  input.toNat * r.numerator.toNat / r.denominator.toNat

theorem size_le {r : Ratio} (h : r.Settable) (input : UInt32) : r.size input ≤ input.toNat :=
  Nat.div_le_of_le_mul (by rw [Nat.mul_comm r.denominator.toNat]; exact Nat.mul_le_mul_left _ h.shrinks)

/-- The smallest ratio reaches the smallest size. -/
theorem le_size {r : Ratio} (h : r.Settable) (input : UInt32) : input.toNat / maxDenominator ≤ r.size input :=
  calc input.toNat / maxDenominator
    _ ≤ input.toNat / r.denominator.toNat := Nat.div_le_div_left h.denominator_le h.denominator_pos
    _ ≤ r.size input := Nat.div_le_div_right (Nat.le_mul_of_pos_right _ h.numerator_pos)

theorem product_lt (r : Ratio) (input : UInt32) : input.toNat * r.numerator.toNat < UInt64.size :=
  Nat.mul_lt_mul'' input.toNat_lt r.numerator.toNat_lt

/-- Words of 64 bits are enough to work with. -/
theorem apply_eq_words (r : Ratio) (input : UInt32) :
    r.apply input = (input.toUInt64 * r.numerator.toUInt64 / r.denominator.toUInt64).toUInt32 := by
  refine UInt32.toNat_inj.mp ?_
  have hproduct : input.toNat * r.numerator.toNat % 2 ^ 64 = input.toNat * r.numerator.toNat :=
    Nat.mod_eq_of_lt (r.product_lt input)
  simp only [apply, scaledSize, UInt64.toNat_toUInt32, UInt64.toNat_div, UInt64.toNat_mul, UInt32.toNat_toUInt64, hproduct]
  split
  · rename_i hzero
    simp [hzero]
  · rw [UInt32.toNat_ofNat']

/-- What a ratio of the scaler makes of an axis is not cut down. -/
theorem toNat_apply {r : Ratio} (h : r.Settable) (input : UInt32) : (r.apply input).toNat = r.size input := by
  have hnonzero : r.denominator ≠ 0 := fun hzero => Nat.ne_of_gt h.denominator_pos (congrArg UInt32.toNat hzero)
  rw [apply, scaledSize, if_neg hnonzero]
  exact UInt32.toNat_ofNat_of_lt' (Nat.lt_of_le_of_lt (size_le h input) input.toNat_lt)

theorem apply_le {r : Ratio} (h : r.Settable) (input : UInt32) : r.apply input ≤ input :=
  UInt32.le_iff_toNat_le.mpr (by rw [toNat_apply h]; exact size_le h input)

theorem apply_identity (input : UInt32) : identity.apply input = input := by
  refine UInt32.toNat_inj.mp ?_
  rw [toNat_apply identity_settable, size]
  exact (Nat.div_one _).trans (Nat.mul_one _)

end Ratio

/-! ## Fits -/

/-- A ratio of the scaler, with what it makes of an axis. -/
def Fit.Reaches (fit : Fit) (input : UInt32) : Prop :=
  fit.ratio ∈ Ratio.candidates ∧ fit.achieved = fit.ratio.apply input

namespace Fit.Reaches
variable {fit : Fit} {input : UInt32}

theorem settable (h : fit.Reaches input) : fit.ratio.Settable :=
  Ratio.mem_candidates.mp h.1

theorem toNat_achieved (h : fit.Reaches input) : fit.achieved.toNat = fit.ratio.size input := by
  rw [h.2, Ratio.toNat_apply h.settable]

theorem le (h : fit.Reaches input) : fit.achieved ≤ input :=
  h.2 ▸ Ratio.apply_le h.settable input

end Fit.Reaches

theorem Ratio.reaches_apply {r : Ratio} (h : r.Settable) (input : UInt32) : Fit.Reaches ⟨r, r.apply input⟩ input :=
  ⟨mem_candidates.mpr h, rfl⟩

theorem reaches_closest {input : UInt32} (requested : UInt32) {ratios : List Ratio} (hratios : ratios ⊆ Ratio.candidates)
    {best : Fit} (hbest : best.Reaches input) : (closest input requested best ratios).Reaches input := by
  induction ratios generalizing best with
  | nil => exact hbest
  | cons r rest ih =>
    obtain ⟨hr, hrest⟩ := List.cons_subset.mp hratios
    rw [closest]
    split
    · exact ih hrest ⟨hr, rfl⟩
    · exact ih hrest hbest

theorem reaches_of_bestFit {input requested : UInt32} {fit : Fit} (h : bestFit input requested = some fit) :
    fit.Reaches input := by
  rw [bestFit] at h
  split at h
  · cases h
  · cases h
    exact reaches_closest requested (List.Subset.refl _) (Ratio.reaches_apply Ratio.identity_settable input)

end FrameGraph
