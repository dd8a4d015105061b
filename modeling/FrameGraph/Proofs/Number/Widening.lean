import FrameGraph.Proofs.Number.Ranks

/-!
# Widening loses nothing

A format with as long a fraction, as fine a unit and as high a range as another one holds every magnitude
of the other exactly, so a number that is widened and narrowed again is the same number.

* `Format.Widens`: what the wider format has to have.
* `Floating.convert_convert`: there and back again.
-/

namespace FrameGraph.Number
set_option autoImplicit false

namespace Format

structure Widens (g f : Format) : Prop where
  fraction_pos : 0 < f.fraction
  fraction : f.fraction ≤ g.fraction
  scale : f.scale ≤ g.scale
  range : f.units f.infinity * twoTo (g.scale - f.scale) ≤ g.units g.infinity

theorem double_widens_single : double.Widens single := by
  constructor <;> decide +kernel

variable {f g : Format} {rank : Nat}

/-- The rank that has the same magnitude in the wider format. -/
theorem Widens.exists_rank (h : g.Widens f) (hrank : rank < f.infinity) :
    ∃ wide < g.infinity, g.units wide * twoTo f.scale = f.units rank * twoTo g.scale := by
  obtain ⟨binade, m, hplace, hm, hlow⟩ := f.exists_binade rank
  have hunits : f.units rank = m * twoTo binade := by
    rw [hplace, units_add (Nat.le_of_lt hm) hlow]
  have hspan : f.span ≤ g.span := Nat.pow_le_pow_right (Nat.succ_pos 1) h.fraction
  obtain ⟨wide, hwide⟩ := g.exists_units (binade + (g.scale - f.scale)) m (by omega)
  have hshift : g.units wide = f.units rank * twoTo (g.scale - f.scale) := by
    rw [hwide, hunits, twoTo_add, Nat.mul_assoc]
  refine ⟨wide, g.strictMono_units.lt_iff_lt.1 ?_, ?_⟩
  · calc g.units wide = f.units rank * twoTo (g.scale - f.scale) := hshift
      _ < f.units f.infinity * twoTo (g.scale - f.scale) :=
        Nat.mul_lt_mul_of_pos_right (f.strictMono_units hrank) (twoTo_pos _)
      _ ≤ g.units g.infinity := h.range
  · rw [hshift, Nat.mul_assoc, ← twoTo_add, Nat.sub_add_cancel h.scale]

end Format

namespace Floating
variable {f g : Format}

theorem ofQuotient_eq {negative : Bool} {n d : Nat} {rank : Fin (f.infinity + 1)}
    (h : f.nearestRank n d = rank) : (ofQuotient negative n d : Floating f) = .signed negative rank := by
  simp only [ofQuotient, h]

/-- A finite number is widened to the rank of the same magnitude. -/
theorem convert_signed (h : g.Widens f) (negative : Bool) {rank : Fin (f.infinity + 1)}
    (hrank : rank.val < f.infinity) : ∃ wide : Fin (g.infinity + 1), wide.val < g.infinity ∧
      g.units wide * twoTo f.scale = f.units rank * twoTo g.scale ∧
      (convert (.signed negative rank : Floating f) : Floating g) = .signed negative wide := by
  obtain ⟨wide, hwide, hexact⟩ := h.exists_rank hrank
  refine ⟨⟨wide, Nat.lt_succ_of_lt hwide⟩, hwide, hexact, ?_⟩
  simp only [convert, Nat.ne_of_lt hrank, if_false]
  exact ofQuotient_eq (Format.nearestRank_of_reads (h.fraction_pos.trans_le h.fraction) (twoTo_pos _)
    (Format.reads_of_exact (twoTo_pos _) hexact.symm) (Nat.le_of_lt hwide))

theorem convert_convert (h : g.Widens f) (x : Floating f) :
    ((x.convert : Floating g).convert : Floating f) = x := by
  cases x with
  | nan => rfl
  | signed negative rank =>
    obtain hfinite | hinfinite := Nat.lt_or_eq_of_le (Nat.lt_succ_iff.1 rank.isLt)
    · obtain ⟨wide, hwide, hexact, hconvert⟩ := convert_signed h negative hfinite
      rw [hconvert]
      simp only [convert, Nat.ne_of_lt hwide, if_false]
      exact ofQuotient_eq (Format.nearestRank_of_reads h.fraction_pos (twoTo_pos _)
        (Format.reads_of_exact (twoTo_pos _) hexact) (Nat.le_of_lt hfinite))
    · obtain rfl : rank = ⟨f.infinity, Nat.lt_succ_self _⟩ := Fin.ext hinfinite
      simp [convert, infinite]

end Floating

end FrameGraph.Number
