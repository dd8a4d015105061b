import FrameGraph.Number.Floating

/-!
# The order of floating numbers

Numbers compare by their places, and what is not a number has none, so it neither stands before nor after anything.

* `below_iff`, `equals_iff`, `isPositive_iff`: the comparisons by places.
* `AtMost`: below or equal. `not_below_iff`: what is said by not being above.
* `eq_of_place_pos`: a number above zero is told by its place; the zeros are not.
* `unsigned`: zero without its sign, so that numbers in one place are one number.
-/

namespace FrameGraph.Number.Floating
set_option autoImplicit false
variable {f : Format}

theorem place_eq_none_iff {x : Floating f} : x.place = none ↔ x = .nan := by
  cases x with
  | nan => simp [place]
  | signed s rank => cases s <;> simp [place]

theorem below_iff {x y : Floating f} : x.below y = true ↔ ∃ p q, x.place = some p ∧ y.place = some q ∧ p < q := by
  unfold below
  split
  · rename_i a b ha hb
    simp [ha, hb]
  · rename_i hnone
    constructor
    · intro h
      cases h
    · rintro ⟨p, q, hx, hy, -⟩
      exact (hnone p q hx hy).elim

theorem equals_iff {x y : Floating f} : x.equals y = true ↔ ∃ p, x.place = some p ∧ y.place = some p := by
  unfold equals
  split
  · rename_i a b ha hb
    simp [ha, hb, eq_comm]
  · rename_i hnone
    constructor
    · intro h
      cases h
    · rintro ⟨p, hx, hy⟩
      exact (hnone p p hx hy).elim

/-- Below or equal, in the order of numbers. -/
def AtMost (x y : Floating f) : Prop :=
  x.below y = true ∨ x.equals y = true

theorem atMost_iff {x y : Floating f} : x.AtMost y ↔ ∃ p q, x.place = some p ∧ y.place = some q ∧ p ≤ q := by
  rw [AtMost, below_iff, equals_iff]
  constructor
  · rintro (⟨p, q, hx, hy, hlt⟩ | ⟨p, hx, hy⟩)
    · exact ⟨p, q, hx, hy, Int.le_of_lt hlt⟩
    · exact ⟨p, p, hx, hy, Int.le_refl p⟩
  · rintro ⟨p, q, hx, hy, hle⟩
    obtain hlt | rfl := Int.lt_or_eq_of_le hle
    · exact .inl ⟨p, q, hx, hy, hlt⟩
    · exact .inr ⟨p, hx, hy⟩

/-- Either is not a number, or they are in this order. -/
theorem not_below_iff {x y : Floating f} : y.below x = false ↔ x = .nan ∨ y = .nan ∨ x.AtMost y := by
  rw [← Bool.not_eq_true, below_iff, atMost_iff, ← place_eq_none_iff, ← place_eq_none_iff]
  cases x.place <;> cases y.place <;> simp

theorem isPositive_iff {x : Floating f} : x.isPositive = true ↔ ∃ p, x.place = some p ∧ 0 < p := by
  rw [isPositive, below_iff]
  constructor
  · rintro ⟨p, q, hzero, hx, hlt⟩
    cases hzero
    exact ⟨q, hx, hlt⟩
  · rintro ⟨q, hx, hlt⟩
    exact ⟨0, q, rfl, hx, hlt⟩

/-- What is neither below nor equal to zero is positive or not a number. -/
theorem not_atMost_zero_iff {x : Floating f} :
    (x.below (zero false) || x.equals (zero false)) = false ↔ x = .nan ∨ x.isPositive = true := by
  rw [Bool.or_eq_false_iff, ← Bool.not_eq_true, ← Bool.not_eq_true, below_iff, equals_iff, isPositive_iff,
    ← place_eq_none_iff]
  have hzero : (zero false : Floating f).place = some 0 := rfl
  rw [hzero]
  cases x.place with
  | none => simp
  | some p =>
    have htrichotomy : 0 ≤ p ∧ ¬0 = p ↔ 0 < p := by omega
    simpa using htrichotomy

/-- A number above zero is told by its place. -/
theorem of_place_pos {x : Floating f} {p : Int} (hx : x.place = some p) (hp : 0 < p) :
    ∃ rank, x = .signed false rank ∧ (rank.val : Int) = p := by
  cases x with
  | nan => cases hx
  | signed s rank =>
    cases s <;> simp only [place, Option.some_inj] at hx
    · exact ⟨rank, rfl, hx⟩
    · omega

theorem eq_of_place_pos {x y : Floating f} {p : Int} (hx : x.place = some p) (hy : y.place = some p) (hp : 0 < p) :
    x = y := by
  obtain ⟨rank, rfl, hrank⟩ := of_place_pos hx hp
  obtain ⟨other, rfl, hother⟩ := of_place_pos hy hp
  rw [Fin.ext (Int.ofNat_inj.mp (hrank.trans hother.symm))]

/-! ## The zeros as one -/

def unsigned (x : Floating f) : Floating f :=
  if x.place = some 0 then zero false else x

theorem unsigned_eq_of_place {x y : Floating f} {p : Int} (hx : x.place = some p) (hy : y.place = some p) :
    x.unsigned = y.unsigned := by
  unfold unsigned
  by_cases hzero : p = 0
  · rw [hx, hy, if_pos (congrArg some hzero), if_pos (congrArg some hzero)]
  · have hne : some p ≠ some (0 : Int) := fun h => hzero (Option.some.inj h)
    rw [hx, hy, if_neg hne, if_neg hne]
    cases x with
    | nan => cases hx
    | signed s rank => cases y with
      | nan => cases hy
      | signed t other =>
        cases s <;> cases t <;> simp only [place, Option.some_inj] at hx hy <;>
          first | omega | exact congrArg _ (Fin.ext (by omega))

theorem unsigned_cases (x : Floating f) : x.unsigned = x ∨ x.equals x.unsigned = true := by
  unfold unsigned
  split
  · rename_i hzero
    exact .inr (equals_iff.mpr ⟨0, hzero, rfl⟩)
  · exact .inl rfl

end FrameGraph.Number.Floating
