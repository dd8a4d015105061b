import FrameGraph.Number.Layout
import FrameGraph.Proofs.Data.Digits
import Mathlib.Tactic.Common

/-!
# The characters of written numbers

Every layout writes a finite number with a sign, digits, a point and an exponent, and with a digit first
after the sign. That is all that a reader has to know to tell a number from other values.

* `signed`: a magnitude after its sign.
* `NumberChar`: the characters that stand in a number.
* `exists_text_eq`: a finite number as it is written.
-/

namespace FrameGraph.Data
set_option autoImplicit false
open Number

/-- The sign of a number, as it is written. -/
def signed (negative : Bool) (cs : List Char) : List Char :=
  if negative then '-' :: cs else cs

def NumberChar (c : Char) : Prop := isDigit c = true ∨ c ∈ ['-', '+', '.', 'e']

namespace NumberChar

instance : DecidablePred NumberChar := fun c =>
  inferInstanceAs (Decidable (isDigit c = true ∨ c ∈ ['-', '+', '.', 'e']))

theorem digits {cs : List Char} (h : AllDigits cs) : ∀ c ∈ cs, NumberChar c :=
  fun c hc => .inl (h c hc)

/-- Characters that stand in no number. -/
theorem not_mem {c : Char} (h : NumberChar c) (others : List Char)
    (hothers : others.any (NumberChar ·) = false) : c ∉ others := fun hc =>
  List.any_eq_false.1 hothers c hc (decide_eq_true h)

end NumberChar

/-- Whether a text starts with a digit and goes on as numbers do. -/
def IsMagnitude (cs : List Char) : Prop :=
  (∃ c tail, cs = c :: tail ∧ isDigit c = true) ∧ ∀ c ∈ cs, NumberChar c

namespace IsMagnitude
variable {a b : List Char}

theorem of_digits (h : AllDigits a) (hne : a ≠ []) : IsMagnitude a := by
  cases a with
  | nil => exact absurd rfl hne
  | cons c tail => exact ⟨⟨c, tail, rfl, (AllDigits.cons_iff.1 h).1⟩, .digits h⟩

theorem append (h : IsMagnitude a) (hb : ∀ c ∈ b, NumberChar c) : IsMagnitude (a ++ b) := by
  obtain ⟨⟨c, tail, rfl, hc⟩, ha⟩ := h
  exact ⟨⟨c, tail ++ b, rfl, hc⟩, List.forall_mem_append.2 ⟨ha, hb⟩⟩

theorem signed_ne_nil (h : IsMagnitude a) (negative : Bool) : signed negative a ≠ [] := by
  obtain ⟨⟨c, tail, rfl, -⟩, -⟩ := h
  cases negative <;> simp [signed]

theorem signed (h : IsMagnitude a) (negative : Bool) : ∀ c ∈ signed negative a, NumberChar c := by
  cases negative
  · exact h.2
  · exact List.forall_mem_cons.2 ⟨.inr (by decide), h.2⟩

end IsMagnitude

/-! ## Layouts -/

variable {digits : List Char}

theorem isMagnitude_aroundPoint (hdigits : AllDigits digits) (hne : digits ≠ []) (pointed : Bool)
    (power : Int) : IsMagnitude (Layout.aroundPoint pointed digits power) := by
  have hpoint : NumberChar '.' := .inr (by decide)
  have hzero : NumberChar '0' := .inl (by decide)
  simp only [Layout.aroundPoint]
  split
  · refine (IsMagnitude.append (.of_digits hdigits hne) (.digits (.zeros _))).append ?_
    split
    · exact List.forall_mem_cons.2 ⟨hpoint, List.forall_mem_singleton.2 hzero⟩
    · exact List.forall_mem_nil _
  split
  · rename_i hshort
    refine IsMagnitude.append (.of_digits (hdigits.take _) ?_)
      (List.forall_mem_cons.2 ⟨hpoint, .digits (hdigits.drop _)⟩)
    simp only [ne_eq, List.take_eq_nil_iff, hne, or_false]
    omega
  · exact ⟨⟨'0', _, rfl, by decide⟩, List.forall_mem_cons.2 ⟨hzero, List.forall_mem_cons.2 ⟨hpoint,
      .digits (AllDigits.append_iff.2 ⟨.zeros _, hdigits⟩)⟩⟩⟩

theorem isMagnitude_scientific (hdigits : AllDigits digits) (hne : digits ≠ []) (exponent : Int) :
    IsMagnitude (Layout.scientific digits exponent) := by
  refine IsMagnitude.append (IsMagnitude.append (.of_digits (hdigits.take 1) (by simp [hne])) ?_) ?_
  · split
    · exact List.forall_mem_nil _
    · exact List.forall_mem_cons.2 ⟨.inr (by decide), .digits (hdigits.drop 1)⟩
  · refine List.forall_mem_cons.2 ⟨.inr (by decide), List.forall_mem_cons.2 ⟨?_,
      .digits (allDigits_toDigits _)⟩⟩
    split <;> exact .inr (by decide)

theorem isMagnitude_decimal (layout : Layout) (x : Decimal) : IsMagnitude (layout.decimal x) := by
  have hdigits := allDigits_toDigits x.digits
  have hne : Nat.toDigits 10 x.digits ≠ [] := Nat.toDigits_ne_nil
  simp only [Layout.decimal]
  split
  · exact isMagnitude_aroundPoint hdigits hne _ _
  · exact isMagnitude_scientific hdigits hne _

/-- A finite number is a magnitude after its sign. -/
theorem exists_text_eq {f : Format} (layout : Layout) {x : Floating f} (hx : x.isFinite = true) :
    ∃ negative body, IsMagnitude body ∧ (x.text layout).toList = signed negative body := by
  cases x with
  | nan => cases hx
  | signed negative rank =>
    have hrank : rank.val ≠ f.infinity := by simpa [Floating.isFinite] using hx
    refine ⟨negative, _, ?_, by simp only [Floating.text, hrank, if_false, String.toList_ofList]; rfl⟩
    split <;> exact isMagnitude_decimal layout _

end FrameGraph.Data
