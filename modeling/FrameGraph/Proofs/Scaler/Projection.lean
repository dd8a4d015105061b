import FrameGraph.Proofs.Scaler.Preference

/-!
# Best fits of one axis

Sizes above the smallest are fitted by the nearest size that there is, so a size that there is fits itself, and larger
requests are not fitted by smaller sizes: of two sizes the larger is nearest only from the middle between them upwards.

* `Fit.Best.coprime`: a best fit is in lowest terms, since a ratio in lower terms has the same size and is preferred.
* `Fit.Best.achieved_pos`: no axis is fitted by an empty one, since each one can be scaled to a size of 1 or more.
* `Fit.Best.of_achieved`: a best fit is the best one for its own size, too.
* `Fit.Best.achieved_le`: the sizes of best fits are in the order of the requests.
* `bestFit_projects`: both for the fits that are answered.
-/

namespace FrameGraph
set_option autoImplicit false

namespace Ratio
variable {input requested : UInt32} {r s : Ratio}

/-- The larger of two sizes is the nearer one only from their middle upwards. -/
theorem middle_le_of_miss_le (hlt : s.size input < r.size input) (h : r.miss input requested ≤ s.miss input requested) :
    r.size input + s.size input ≤ 2 * requested.toNat := by
  unfold miss at h
  omega

/-- The smaller of two sizes is the nearer one only from their middle downwards. -/
theorem le_middle_of_miss_le (hlt : r.size input < s.size input) (h : r.miss input requested ≤ s.miss input requested) :
    2 * requested.toNat ≤ r.size input + s.size input := by
  unfold miss at h
  omega

/-- A ratio in lower terms makes the same of an axis. -/
theorem exists_lower_terms (h : r.Settable) : ∃ s : Ratio, s.Settable ∧ (∀ input, s.size input = r.size input) ∧
    s.denominator.toNat * r.numerator.toNat.gcd r.denominator.toNat = r.denominator.toNat := by
  obtain ⟨n, hn⟩ := Nat.gcd_dvd_left r.numerator.toNat r.denominator.toNat
  obtain ⟨d, hd⟩ := Nat.gcd_dvd_right r.numerator.toNat r.denominator.toNat
  have hcommon : 0 < r.numerator.toNat.gcd r.denominator.toNat := Nat.gcd_pos_of_pos_left _ h.numerator_pos
  generalize r.numerator.toNat.gcd r.denominator.toNat = g at *
  have hnumerator := h.numerator_le
  have hdenominator := h.denominator_le
  have hshrinks := h.shrinks
  have hpos := h.numerator_pos
  rw [hn] at hnumerator hpos
  rw [hd] at hdenominator
  rw [hn, hd] at hshrinks
  obtain ⟨s, hs, hsn, hsd⟩ := exists_settable (Nat.pos_of_mul_pos_left hpos)
    (Nat.le_trans (Nat.le_mul_of_pos_left n hcommon) hnumerator) (Nat.le_of_mul_le_mul_left hshrinks hcommon)
    (Nat.le_trans (Nat.le_mul_of_pos_left d hcommon) hdenominator)
  refine ⟨s, hs, fun input => ?_, by rw [hsd, hd, Nat.mul_comm]⟩
  rw [size, size, hsn, hsd, hn, hd, Nat.mul_left_comm, Nat.mul_div_mul_left _ _ hcommon]

end Ratio

namespace Fit.Best
variable {input requested : UInt32} {fit : Fit}

theorem coprime (h : fit.Best input requested) :
    fit.ratio.numerator.toNat.Coprime fit.ratio.denominator.toNat := by
  obtain ⟨s, hs, hsize, hlower⟩ := Ratio.exists_lower_terms h.settable
  have hmiss : fit.ratio.miss input requested = s.miss input requested := by rw [Ratio.miss, Ratio.miss, hsize]
  have hsimpler := Ratio.simplicity_le_of_cost_le (h.least s hs) hmiss
  have hdenominator : fit.ratio.denominator.toNat ≤ s.denominator.toNat :=
    (Prod.Lex.toLex_le_toLex'.mp hsimpler).1
  rw [← hlower] at hdenominator
  have hcommon : 0 < fit.ratio.numerator.toNat.gcd fit.ratio.denominator.toNat :=
    Nat.gcd_pos_of_pos_left _ h.settable.numerator_pos
  have hone := Nat.le_of_mul_le_mul_left (hdenominator.trans_eq (Nat.mul_one _).symm) hs.denominator_pos
  exact Nat.le_antisymm hone hcommon

/-- An axis that is shorter than the largest denominator can be scaled to the size 1, and a longer one not to less. -/
theorem achieved_pos (h : fit.Best input requested) (hrequested : 0 < requested.toNat) (hinput : 0 < input.toNat) :
    0 < fit.achieved.toNat := by
  rw [h.achieved]
  obtain hlong | hshort := Nat.le_total maxDenominator input.toNat
  · exact Nat.lt_of_lt_of_le (Nat.div_pos hlong (by decide)) (Ratio.le_size h.settable input)
  · obtain ⟨r, hr, hn, hd⟩ := Ratio.exists_settable Nat.one_pos (by decide) hinput hshort
    have hsize : r.size input = 1 := by rw [Ratio.size, hn, hd, Nat.mul_one, Nat.div_self hinput]
    have hnearest := Ratio.miss_le_of_cost_le (h.least r hr)
    rw [Ratio.miss, Ratio.miss, hsize] at hnearest
    omega

theorem of_achieved (h : fit.Best input requested) : fit.Best input fit.achieved := by
  refine ⟨h.settable, h.achieved, fun r hr => ?_⟩
  have hexact : fit.ratio.miss input fit.achieved = 0 := by rw [Ratio.miss, h.achieved]; omega
  obtain hmiss | hmiss := Nat.eq_zero_or_pos (r.miss input fit.achieved)
  · have hsize : r.size input = fit.ratio.size input := by
      rw [Ratio.miss, h.achieved] at hmiss
      omega
    have hsame : fit.ratio.miss input requested = r.miss input requested := by rw [Ratio.miss, Ratio.miss, hsize]
    exact Ratio.cost_le_cost (by omega) (Ratio.simplicity_le_of_cost_le (h.least r hr) hsame)
  · exact Ratio.cost_le_of_miss_lt (by omega)

/-- Were the sizes the other way round, both requests would be in the middle between them, so they would be one request,
which has one best fit. -/
theorem achieved_le {upper : UInt32} {other : Fit} (h : fit.Best input requested) (hother : other.Best input upper)
    (hle : requested.toNat ≤ upper.toNat) : fit.achieved.toNat ≤ other.achieved.toNat := by
  rw [h.achieved, hother.achieved]
  by_contra hgt
  have hgt := Nat.lt_of_not_le hgt
  have hlow := Ratio.middle_le_of_miss_le hgt (Ratio.miss_le_of_cost_le (h.least _ hother.settable))
  have hhigh := Ratio.le_middle_of_miss_le hgt (Ratio.miss_le_of_cost_le (hother.least _ h.settable))
  obtain rfl : requested = upper := UInt32.toNat_inj.mp (by omega)
  rw [h.unique hother] at hgt
  exact Nat.lt_irrefl _ hgt

end Fit.Best

/-- A fit that is answered for a request is answered for its own size as well, and of two requests the larger one is not
answered with a smaller size. -/
theorem bestFit_projects (input : UInt32) :
    (∀ requested fit, bestFit input requested = some fit → bestFit input fit.achieved = some fit) ∧
    ∀ lower upper fit other, lower ≤ upper → bestFit input lower = some fit → bestFit input upper = some other →
      fit.achieved ≤ other.achieved := by
  constructor
  · intro requested fit h
    obtain ⟨⟨hpos, hle, hlong⟩, hbest⟩ := bestFit_eq_some_iff.mp h
    refine bestFit_eq_some_iff.mpr ⟨⟨hbest.achieved_pos hpos (by omega), ?_, ?_⟩, hbest.of_achieved⟩
    · rw [hbest.achieved]
      exact Ratio.size_le hbest.settable input
    · rw [hbest.achieved]
      exact Ratio.le_size hbest.settable input
  · intro lower upper fit other hle h hother
    exact UInt32.le_iff_toNat_le.mpr ((bestFit_eq_some_iff.mp h).2.achieved_le (bestFit_eq_some_iff.mp hother).2
      (UInt32.le_iff_toNat_le.mp hle))

/-- A request in the middle between two sizes goes down to the one with the smaller denominator; the next one goes up. -/
theorem bestFit_projects_middle : bestFit 1280 92 = some ⟨⟨1, 14⟩, 91⟩ ∧ bestFit 1280 91 = some ⟨⟨1, 14⟩, 91⟩ ∧
    bestFit 1280 93 = some ⟨⟨3, 41⟩, 93⟩ ∧ (91 : UInt32) ≤ 93 := by
  have hmiddle : bestFit 1280 92 = some ⟨⟨1, 14⟩, 91⟩ := by decide +kernel
  have hnext : bestFit 1280 93 = some ⟨⟨3, 41⟩, 93⟩ := by decide +kernel
  exact ⟨hmiddle, (bestFit_projects 1280).1 _ _ hmiddle, hnext, (bestFit_projects 1280).2 92 93 _ _ (by decide) hmiddle hnext⟩

end FrameGraph
