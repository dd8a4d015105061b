import FrameGraph.Proofs.Number.Ranks

/-!
# The shortest digits read back

The search for the shortest decimal goes through grids of multiples of powers of ten. What it finds on
any of them reads as the rank that it was sought for, and on the last grid it finds something.

* `reads_of_onGrid`: what is found on a grid reads back.
* `shortest_reads`: the shortest decimal of a positive rank is positive and reads as it.
-/

namespace FrameGraph.Number
set_option autoImplicit false

namespace Decimal

theorem quotient_pos (x : Decimal) : 0 < x.quotient.2 := by
  simp only [quotient]
  split
  · exact tenTo_pos _
  · exact Nat.succ_pos 0

end Decimal

namespace Format
variable {f : Format} {tie : Tie} {rank : Nat}

/-- The test that a multiple passes when it is found on a grid. -/
theorem reads_quotient {k : Nat} {power : Int}
    (h : (k != 0 && f.Reads rank (k * if power < 0 then 1 else tenTo power.natAbs)
      (if power < 0 then tenTo power.natAbs else 1)) = true) :
    k ≠ 0 ∧ f.Reads rank (Decimal.mk k power).quotient.1 (Decimal.mk k power).quotient.2 = true := by
  simp only [Bool.and_eq_true, bne_iff_ne, ne_eq] at h
  refine ⟨h.1, ?_⟩
  simp only [Decimal.quotient]
  split <;> simp_all

theorem reads_of_onGrid {power : Int} {x : Decimal} (h : f.onGrid tie rank power = some x) :
    x.digits ≠ 0 ∧ f.Reads rank x.quotient.1 x.quotient.2 = true := by
  unfold onGrid at h
  extract_lets up down n d low reads twice takeLow at h
  have hread (k : Nat) (hk : reads k = true) : k ≠ 0 ∧
      f.Reads rank (Decimal.mk k power).quotient.1 (Decimal.mk k power).quotient.2 = true :=
    reads_quotient hk
  clear_value takeLow
  split at h
  · rename_i hlow hhigh
    obtain rfl := Option.some.inj h
    cases takeLow
    · exact hread _ hhigh
    · exact hread _ hlow
  · rename_i hlow _
    obtain rfl := Option.some.inj h
    exact hread _ hlow
  · rename_i _ hhigh
    obtain rfl := Option.some.inj h
    exact hread _ hhigh
  · cases h

/-- On the finest grid lies every magnitude. -/
theorem exists_onGrid (hscale : 0 < f.scale) (hpos : 0 < rank) :
    ∃ x, f.onGrid tie rank (-(f.scale : Int)) = some x := by
  have hneg : -(f.scale : Int) < 0 := by omega
  have hten : tenTo f.scale = Nat.pow 5 f.scale * twoTo f.scale := Nat.mul_pow 5 2 f.scale
  have hunits : 0 < f.units rank := f.units_zero ▸ f.strictMono_units hpos
  have hlow : f.units rank * tenTo f.scale / twoTo f.scale = f.units rank * Nat.pow 5 f.scale := by
    rw [hten, ← Nat.mul_assoc, Nat.mul_div_cancel _ (twoTo_pos _)]
  have hread : f.Reads rank (f.units rank * Nat.pow 5 f.scale) (tenTo f.scale) = true :=
    reads_of_exact (tenTo_pos _) (by rw [hten, Nat.mul_assoc])
  have hne : f.units rank * Nat.pow 5 f.scale ≠ 0 :=
    Nat.ne_of_gt (Nat.mul_pos hunits (Nat.pow_pos (Nat.succ_pos 4)))
  simp only [onGrid, hneg, if_true, Int.natAbs_neg, Int.natAbs_natCast, Nat.mul_one, hlow]
  split
  · exact ⟨_, rfl⟩
  · exact ⟨_, rfl⟩
  · exact ⟨_, rfl⟩
  · rename_i hnone _
    rw [hread, Bool.and_true, bne_eq_false_iff_eq] at hnone
    exact absurd hnone hne

theorem shortest_reads (hscale : 0 < f.scale) (hpos : 0 < rank) :
    (f.shortest tie rank).digits ≠ 0 ∧
    f.Reads rank (f.shortest tie rank).quotient.1 (f.shortest tie rank).quotient.2 = true := by
  have hfound : ∃ x, (List.range (f.topPower + f.scale + 1)).findSome? (fun (i : Nat) =>
      f.onGrid tie rank ((f.topPower : Int) - i)) = some x := by
    rw [← Option.isSome_iff_exists, List.findSome?_isSome_iff]
    refine ⟨f.topPower + f.scale, List.mem_range.2 (Nat.lt_succ_self _), ?_⟩
    rw [show (f.topPower : Int) - (f.topPower + f.scale : Nat) = -(f.scale : Int) by omega]
    exact Option.isSome_iff_exists.2 (exists_onGrid hscale hpos)
  obtain ⟨x, hx⟩ := hfound
  obtain ⟨i, -, hi⟩ := List.exists_of_findSome?_eq_some hx
  simp only [shortest, hx, Option.getD_some]
  exact reads_of_onGrid hi

end Format

end FrameGraph.Number
