import FrameGraph.Number.Shortest
import Mathlib.Order.Monotone.Basic
import Mathlib.Tactic.Linarith
import Mathlib.Tactic.Ring

/-!
# Ranks and the quotients that round to them

The magnitudes of a format grow strictly with their ranks, in binades of equal steps. The intervals of
two ranks meet in no quotient, since a common end belongs to the even rank alone, so the rank that a
quotient reads as is the rank nearest to it.

* `units_add`, `strictMono_units`: the magnitude of a rank by its binade, and their order.
* `Reads.unique`: a quotient reads as one rank only.
* `reads_of_exact`: a magnitude reads as its own rank.
* `nearestRank_of_reads`: the nearest rank is the one that a quotient reads as.
-/

namespace FrameGraph.Number
set_option autoImplicit false

theorem twoTo_succ (n : Nat) : twoTo (n + 1) = 2 * twoTo n := by
  rw [twoTo_add, Nat.mul_comm]
  rfl

/-! ## Rounding to even -/

/-- What a quotient is rounded to is at most a half away from it, and less than a half if odd. -/
theorem roundHalfEven_near (n : Nat) {d : Nat} (hd : 0 < d) :
    2 * n ≤ (2 * roundHalfEven n d + 1) * d ∧ 2 * roundHalfEven n d * d ≤ 2 * n + d ∧
    (roundHalfEven n d % 2 = 1 →
      2 * n < (2 * roundHalfEven n d + 1) * d ∧ 2 * roundHalfEven n d * d < 2 * n + d) := by
  have hn : n = d * (n / d) + n % d := (Nat.div_add_mod n d).symm
  have hr : n % d < d := Nat.mod_lt n hd
  simp only [roundHalfEven]
  generalize n / d = q at *
  generalize n % d = r at *
  subst hn
  split
  · refine ⟨by nlinarith, by nlinarith, fun _ => ⟨by nlinarith, by nlinarith⟩⟩
  · split
    · refine ⟨by nlinarith, by nlinarith, fun _ => ⟨by nlinarith, by nlinarith⟩⟩
    · obtain h | h := Nat.mod_two_eq_zero_or_one q
      · rw [h]
        refine ⟨by nlinarith, by nlinarith, fun h' => by omega⟩
      · rw [h]
        refine ⟨by nlinarith, by nlinarith, fun h' => by omega⟩

theorem div_le_roundHalfEven (n d : Nat) : n / d ≤ roundHalfEven n d := by
  simp only [roundHalfEven]
  split
  · exact Nat.le_refl _
  · split <;> omega

theorem roundHalfEven_le (n d : Nat) : roundHalfEven n d ≤ n / d + 1 := by
  simp only [roundHalfEven]
  split
  · omega
  · split <;> omega

namespace Format
variable {f : Format} {rank : Nat}

/-! ## Magnitudes -/

theorem span_pos : 0 < f.span :=
  twoTo_pos _

/-- In a binade the magnitudes grow in equal steps, up to the first of the next binade. -/
theorem units_add {binade m : Nat} (hm : m ≤ 2 * f.span) (hlow : binade = 0 ∨ f.span ≤ m) :
    f.units (binade * f.span + m) = m * twoTo binade := by
  have hspan := f.span_pos
  obtain hbelow | habove := Nat.lt_or_ge m f.span
  · obtain rfl : binade = 0 := by omega
    simp only [units, Nat.zero_mul, Nat.zero_add, Nat.div_eq_of_lt hbelow, if_true]
    exact (Nat.mul_one m).symm
  · obtain htop | rfl := Nat.lt_or_eq_of_le hm
    · have hrank : binade * f.span + m = (m - f.span) + f.span * (binade + 1) := by
        rw [Nat.mul_comm f.span, Nat.succ_mul]; omega
      have hdiv : (binade * f.span + m) / f.span = binade + 1 := by
        rw [hrank, Nat.add_mul_div_left _ _ hspan, Nat.div_eq_of_lt (by omega), Nat.zero_add]
      have hmod : (binade * f.span + m) % f.span = m - f.span := by
        rw [hrank, Nat.add_mul_mod_self_left, Nat.mod_eq_of_lt (by omega)]
      simp only [units, hdiv, hmod, Nat.add_sub_cancel, Nat.succ_ne_zero, if_false]
      rw [Nat.add_sub_of_le habove]
    · have hrank : binade * f.span + 2 * f.span = (binade + 2) * f.span := (Nat.add_mul ..).symm
      simp only [units, hrank, Nat.mul_div_cancel _ hspan, Nat.mul_mod_left, Nat.add_zero,
        Nat.succ_ne_zero, if_false, show binade + 2 - 1 = binade + 1 from rfl,
        twoTo_succ]
      rw [Nat.mul_comm 2 f.span, Nat.mul_assoc]

/-- The binade of a rank and its place there. -/
theorem exists_binade (f : Format) (rank : Nat) : ∃ binade m, rank = binade * f.span + m ∧
    m < 2 * f.span ∧ (binade = 0 ∨ f.span ≤ m) := by
  have hmod : rank % f.span < f.span := Nat.mod_lt rank f.span_pos
  have hrank : rank = rank / f.span * f.span + rank % f.span := (Nat.div_add_mod' rank f.span).symm
  cases hbinade : rank / f.span with
  | zero => exact ⟨0, rank % f.span, by rw [hbinade] at hrank; exact hrank, by omega, .inl rfl⟩
  | succ binade =>
    refine ⟨binade, f.span + rank % f.span, ?_, by omega, .inr (by omega)⟩
    rw [hbinade, Nat.succ_mul] at hrank
    omega

theorem units_lt_succ (f : Format) (rank : Nat) : f.units rank < f.units (rank + 1) := by
  obtain ⟨binade, m, rfl, hm, hlow⟩ := f.exists_binade rank
  rw [units_add (Nat.le_of_lt hm) hlow, Nat.add_assoc, units_add hm (by omega)]
  exact Nat.mul_lt_mul_of_pos_right (Nat.lt_succ_self m) (twoTo_pos binade)

theorem strictMono_units (f : Format) : StrictMono f.units :=
  strictMono_nat_of_lt_succ f.units_lt_succ

@[simp] theorem units_zero (f : Format) : f.units 0 = 0 := by
  simp [units]

/-- Every short significand times a power of two is the magnitude of a rank. -/
theorem exists_units (f : Format) (power : Nat) :
    ∀ m < 2 * f.span, ∃ rank, f.units rank = m * twoTo power := by
  induction power with
  | zero =>
    intro m hm
    exact ⟨0 * f.span + m, units_add (Nat.le_of_lt hm) (.inl rfl)⟩
  | succ power ih =>
    intro m hm
    obtain hshort | hfull := Nat.lt_or_ge m f.span
    · obtain ⟨rank, hrank⟩ := ih (2 * m) (by omega)
      exact ⟨rank, by rw [hrank, twoTo_succ, Nat.mul_comm 2 m, Nat.mul_assoc]⟩
    · exact ⟨_, units_add (Nat.le_of_lt hm) (.inr hfull)⟩

/-! ## The interval of a rank -/

/-- The two ends of the interval, which belong to it when the rank is even. -/
theorem reads_iff {n d : Nat} : f.Reads rank n d = true ↔
    (f.units (rank - 1) + f.units rank) * d ≤ 2 * n * twoTo f.scale ∧
    2 * n * twoTo f.scale ≤ (f.units rank + f.units (rank + 1)) * d ∧
    (rank % 2 = 1 → (f.units (rank - 1) + f.units rank) * d < 2 * n * twoTo f.scale ∧
      2 * n * twoTo f.scale < (f.units rank + f.units (rank + 1)) * d) := by
  simp only [Reads]
  split
  · simp_all
  · simp only [Bool.and_eq_true, decide_eq_true_eq]
    constructor
    · intro h
      exact ⟨Nat.le_of_lt h.1, Nat.le_of_lt h.2, fun _ => h⟩
    · intro h
      exact h.2.2 (by omega)

theorem Reads.not_lt {n d r t : Nat} (hd : 0 < d) (hr : f.Reads r n d = true)
    (ht : f.Reads t n d = true) : ¬ r < t := by
  intro hlt
  obtain ⟨-, hr, hrodd⟩ := reads_iff.1 hr
  obtain ⟨ht, -, htodd⟩ := reads_iff.1 ht
  have hmono := f.strictMono_units.monotone
  have hnext : f.units r + f.units (r + 1) ≤ f.units (t - 1) + f.units t :=
    Nat.add_le_add (hmono (by omega)) (hmono hlt)
  have hmul := Nat.mul_le_mul_right d hnext
  have heq : f.units r + f.units (r + 1) = f.units (t - 1) + f.units t :=
    Nat.eq_of_mul_eq_mul_right hd (by omega)
  -- the two intervals share an end, so the ranks are neighbours and one of them is odd
  have hnear : t = r + 1 := by
    by_contra hfar
    have := f.strictMono_units (show r + 1 < t by omega)
    have := hmono (show r ≤ t - 1 by omega)
    omega
  subst hnear
  rw [heq] at hr hrodd
  obtain hodd | hodd : r % 2 = 1 ∨ (r + 1) % 2 = 1 := by omega
  · have := (hrodd hodd).2
    omega
  · have := (htodd hodd).1
    omega

theorem Reads.unique {n d r t : Nat} (hd : 0 < d) (hr : f.Reads r n d = true)
    (ht : f.Reads t n d = true) : r = t :=
  Nat.le_antisymm (Nat.not_lt.1 (Reads.not_lt hd ht hr)) (Nat.not_lt.1 (Reads.not_lt hd hr ht))

/-- Whether a quotient reads as a rank does not depend on the way it is written. -/
theorem Reads.of_quotient {n d n' d' : Nat} (hd : 0 < d) (hd' : 0 < d') (hsame : n' * d = n * d')
    (h : f.Reads rank n d = true) : f.Reads rank n' d' = true := by
  have hleft (a : Nat) : a * d' * d = a * d * d' := Nat.mul_right_comm a d' d
  have hright : 2 * n' * twoTo f.scale * d = 2 * n * twoTo f.scale * d' := by
    calc 2 * n' * twoTo f.scale * d = 2 * (n' * d) * twoTo f.scale := by ring
      _ = 2 * n * twoTo f.scale * d' := by rw [hsame]; ring
  rw [reads_iff] at *
  obtain ⟨hlow, hhigh, hodd⟩ := h
  refine ⟨Nat.le_of_mul_le_mul_right ?_ hd, Nat.le_of_mul_le_mul_right ?_ hd,
    fun h => ⟨Nat.lt_of_mul_lt_mul_right (a := d) ?_, Nat.lt_of_mul_lt_mul_right (a := d) ?_⟩⟩
  · rw [hleft, hright]
    exact Nat.mul_le_mul_right d' hlow
  · rw [hleft, hright]
    exact Nat.mul_le_mul_right d' hhigh
  · rw [hleft, hright]
    exact Nat.mul_lt_mul_of_pos_right (hodd h).1 hd'
  · rw [hleft, hright]
    exact Nat.mul_lt_mul_of_pos_right (hodd h).2 hd'

/-- A quotient that is the magnitude of a rank reads as that rank. -/
theorem reads_of_exact {n d : Nat} (hd : 0 < d) (h : n * twoTo f.scale = f.units rank * d) :
    f.Reads rank n d = true := by
  have htwice : 2 * n * twoTo f.scale = (f.units rank + f.units rank) * d := by
    rw [Nat.mul_assoc, h]; ring
  have hmono := f.strictMono_units.monotone
  rw [reads_iff, htwice]
  refine ⟨Nat.mul_le_mul_right d (Nat.add_le_add_right (hmono (Nat.sub_le rank 1)) _),
    Nat.mul_le_mul_right d (Nat.add_le_add_left (hmono (Nat.le_succ rank)) _), fun hodd => ?_⟩
  exact ⟨Nat.mul_lt_mul_of_pos_right
      (Nat.add_lt_add_right (f.strictMono_units (show rank - 1 < rank by omega)) _) hd,
    Nat.mul_lt_mul_of_pos_right (Nat.add_lt_add_left (f.units_lt_succ rank) _) hd⟩

/-! ## The nearest rank -/

/-- The step above a place is at least that of the binade. -/
theorem le_units_succ {binade m : Nat} (hm : m ≤ 2 * f.span) (hlow : binade = 0 ∨ f.span ≤ m) :
    (m + 1) * twoTo binade ≤ f.units (binade * f.span + m + 1) := by
  have hspan := f.span_pos
  obtain hm | rfl := Nat.lt_or_eq_of_le hm
  · rw [Nat.add_assoc, units_add hm (by omega)]
  · have hrank : binade * f.span + 2 * f.span + 1 = (binade + 1) * f.span + (f.span + 1) := by ring
    rw [hrank, units_add (by omega) (.inr (by omega)), twoTo_succ]
    nlinarith [twoTo_pos binade]

/-- The step below a place is that of the binade, unless the place opens it. -/
theorem units_pred_add {binade m : Nat} (hm : m ≤ 2 * f.span) (hpos : 0 < m)
    (hlow : binade = 0 ∨ f.span < m) :
    f.units (binade * f.span + m - 1) + twoTo binade = m * twoTo binade := by
  obtain ⟨m, rfl⟩ := Nat.exists_eq_succ_of_ne_zero (Nat.ne_of_gt hpos)
  rw [Nat.add_succ_sub_one, units_add (by omega) (by omega), Nat.succ_mul]

theorem even_span (hf : 0 < f.fraction) : f.span % 2 = 0 := by
  obtain ⟨bits, hbits⟩ := Nat.exists_eq_succ_of_ne_zero (Nat.ne_of_gt hf)
  rw [span, hbits, twoTo_succ, Nat.mul_mod_right]

/-- The shift leaves a significand that fills its binade. -/
theorem significand_bounds (f : Format) (whole : Nat) :
    whole / twoTo (whole.log2 - f.fraction) < 2 * f.span ∧
    (whole.log2 - f.fraction = 0 ∨ f.span ≤ whole / twoTo (whole.log2 - f.fraction)) := by
  have hpow := twoTo_pos (whole.log2 - f.fraction)
  rw [Nat.div_lt_iff_lt_mul hpow, Nat.le_div_iff_mul_le hpow, span, ← twoTo_succ, ← twoTo_add,
    ← twoTo_add]
  constructor
  · calc whole < twoTo (whole.log2 + 1) := Nat.lt_log2_self
      _ ≤ twoTo (f.fraction + 1 + (whole.log2 - f.fraction)) :=
        Nat.pow_le_pow_right (Nat.succ_pos 1) (by omega)
  · obtain hlong | hshort := Nat.lt_or_ge f.fraction whole.log2
    · have hwhole : whole ≠ 0 := by
        rintro rfl
        simp at hlong
      rw [Nat.add_sub_of_le (Nat.le_of_lt hlong)]
      exact .inr (Nat.log2_self_le hwhole)
    · exact .inl (by omega)

/-- The rank that a quotient is rounded to, before it is cut off at infinity. -/
theorem reads_rounded (hf : 0 < f.fraction) (n : Nat) {d shift : Nat} (hd : 0 < d)
    (hshift : shift = (n * twoTo f.scale / d).log2 - f.fraction) :
    f.Reads (shift * f.span + roundHalfEven (n * twoTo f.scale) (d * twoTo shift)) n d = true := by
  have hspan := f.span_pos
  have heven := even_span hf
  have htwice : 2 * n * twoTo f.scale = 2 * (n * twoTo f.scale) := Nat.mul_assoc ..
  generalize n * twoTo f.scale = units at *
  obtain ⟨hshort, hfull⟩ := f.significand_bounds (units / d)
  rw [← hshift, Nat.div_div_eq_div_mul] at hshort hfull
  have hwhole := div_le_roundHalfEven units (d * twoTo shift)
  have hm := roundHalfEven_le units (d * twoTo shift)
  obtain ⟨hhigh, hlow, hodd⟩ := roundHalfEven_near units (Nat.mul_pos hd (twoTo_pos shift))
  have hdivision : units / (d * twoTo shift) * (d * twoTo shift) ≤ units := Nat.div_mul_le_self ..
  generalize roundHalfEven units (d * twoTo shift) = m at *
  generalize units / (d * twoTo shift) = whole at *
  have hplace : shift = 0 ∨ f.span ≤ m := by omega
  have hparity : (shift * f.span + m) % 2 = m % 2 := by
    rw [Nat.add_mod, Nat.mul_mod, heven, Nat.mul_zero]
    omega
  have hupper : (2 * m + 1) * (d * twoTo shift) ≤
      (m * twoTo shift + f.units (shift * f.span + m + 1)) * d := by
    calc (2 * m + 1) * (d * twoTo shift) = (m * twoTo shift + (m + 1) * twoTo shift) * d := by ring
      _ ≤ _ := Nat.mul_le_mul_right d (Nat.add_le_add_left (le_units_succ (by omega) hplace) _)
  have hlower : (f.units (shift * f.span + m - 1) + m * twoTo shift) * d ≤ 2 * units ∧
      (m % 2 = 1 → (f.units (shift * f.span + m - 1) + m * twoTo shift) * d < 2 * units) := by
    obtain rfl | hpos := Nat.eq_zero_or_pos m
    · obtain rfl : shift = 0 := by omega
      simp
    by_cases hinside : shift = 0 ∨ f.span < m
    · have hstep : (f.units (shift * f.span + m - 1) + m * twoTo shift) * d + d * twoTo shift =
          2 * m * (d * twoTo shift) := by
        calc _ = (f.units (shift * f.span + m - 1) + twoTo shift + m * twoTo shift) * d := by ring
          _ = 2 * m * (d * twoTo shift) := by rw [units_pred_add (by omega) hpos hinside]; ring
      exact ⟨by omega, fun h => by have := (hodd h).2; omega⟩
    · -- the place opens its binade, and the quotient is not below it
      obtain rfl : m = whole := by omega
      have hbelow : (f.units (shift * f.span + m - 1) + m * twoTo shift) * d <
          2 * (m * (d * twoTo shift)) := by
        calc _ < (m * twoTo shift + m * twoTo shift) * d := by
              refine Nat.mul_lt_mul_of_pos_right (Nat.add_lt_add_right ?_ _) hd
              rw [← units_add (by omega) hplace]
              exact f.strictMono_units (by omega)
          _ = 2 * (m * (d * twoTo shift)) := by ring
      exact ⟨by omega, fun _ => by omega⟩
  rw [reads_iff, units_add (by omega) hplace, htwice, hparity]
  exact ⟨hlower.1, hhigh.trans hupper, fun h => ⟨hlower.2 h, (hodd h).1.trans_le hupper⟩⟩

/-- The rank that a quotient reads as is the nearest one. -/
theorem nearestRank_of_reads (hf : 0 < f.fraction) {n d : Nat} (hd : 0 < d)
    (h : f.Reads rank n d = true) (hrank : rank ≤ f.infinity) : f.nearestRank n d = rank := by
  rw [nearestRank, ← Reads.unique hd h (reads_rounded hf n hd rfl)]
  exact Nat.min_eq_left hrank

end Format

end FrameGraph.Number
