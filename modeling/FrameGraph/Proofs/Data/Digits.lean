import FrameGraph.Data.Text
import FrameGraph.Number.Power

/-!
# Decimal digits and what they stand for

* `AllDigits`: characters that are all decimal digits.
* `decimalValue_append`, `decimalValue_dropZeros`: the number of joined digits, and of digits without the
  zeros in front.
* `decimalValue_lt`, `le_decimalValue`: how large a number its digits can stand for.
* `decimalValue_toDigits`, `head_toDigits`: the digits that a number is written with.
-/

namespace FrameGraph.Data
set_option autoImplicit false
open Number

def AllDigits (cs : List Char) : Prop := ∀ c ∈ cs, isDigit c = true

namespace AllDigits
variable {a b : List Char} {c : Char}

@[simp] theorem nil : AllDigits [] := fun _ h => absurd h List.not_mem_nil

@[simp] theorem cons_iff : AllDigits (c :: a) ↔ isDigit c = true ∧ AllDigits a :=
  List.forall_mem_cons

@[simp] theorem append_iff : AllDigits (a ++ b) ↔ AllDigits a ∧ AllDigits b :=
  List.forall_mem_append

theorem zero : AllDigits ['0'] := by
  simp [isDigit]

theorem zeros (n : Nat) : AllDigits (List.replicate n '0') := fun c h => by
  rw [List.eq_of_mem_replicate h]
  rfl

theorem take (n : Nat) (h : AllDigits a) : AllDigits (a.take n) :=
  fun c hc => h c (List.mem_of_mem_take hc)

theorem drop (n : Nat) (h : AllDigits a) : AllDigits (a.drop n) :=
  fun c hc => h c (List.mem_of_mem_drop hc)

theorem dropWhile (p : Char → Bool) (h : AllDigits a) : AllDigits (a.dropWhile p) :=
  fun c hc => h c ((List.dropWhile_suffix p).subset hc)

end AllDigits

/-! ## Values -/

theorem isDigit_iff {c : Char} : isDigit c = true ↔ 48 ≤ c.toNat ∧ c.toNat ≤ 57 := by
  simp only [isDigit, Bool.and_eq_true, decide_eq_true_eq]
  rfl

theorem decimalValue_eq (cs : List Char) : decimalValue cs = Nat.ofDigitChars 10 cs 0 := by
  simp only [decimalValue, Nat.ofDigitChars_eq_foldl, Nat.mul_comm]

theorem decimalValue_append (a b : List Char) :
    decimalValue (a ++ b) = decimalValue a * tenTo b.length + decimalValue b := by
  simp only [decimalValue_eq, Nat.ofDigitChars_append]
  rw [Nat.ofDigitChars_eq_ofDigitChars_zero, Nat.mul_comm]
  rfl

theorem decimalValue_cons (c : Char) (cs : List Char) :
    decimalValue (c :: cs) = (c.toNat - 48) * tenTo cs.length + decimalValue cs := by
  rw [← List.singleton_append, decimalValue_append]
  simp [decimalValue]

@[simp] theorem decimalValue_zeros (n : Nat) : decimalValue (List.replicate n '0') = 0 := by
  rw [decimalValue_eq, Nat.ofDigitChars_replicate_zero, Nat.mul_zero]

theorem decimalValue_dropZeros (cs : List Char) :
    decimalValue (cs.dropWhile (· == '0')) = decimalValue cs := by
  induction cs with
  | nil => rfl
  | cons c cs ih =>
    by_cases h : c = '0'
    · subst h
      rw [List.dropWhile_cons_of_pos rfl, ih, decimalValue_cons]
      simp
    · rw [List.dropWhile_cons_of_neg (by simpa using h)]

theorem decimalValue_lt {cs : List Char} (h : AllDigits cs) : decimalValue cs < tenTo cs.length := by
  induction cs with
  | nil => exact Nat.succ_pos 0
  | cons c cs ih =>
    obtain ⟨hc, hcs⟩ := AllDigits.cons_iff.1 h
    have hdigit := isDigit_iff.1 hc
    have hten : tenTo (cs.length + 1) = tenTo cs.length * 10 := Nat.pow_succ 10 cs.length
    have hlead : (c.toNat - 48) * tenTo cs.length ≤ 9 * tenTo cs.length :=
      Nat.mul_le_mul_right _ (by omega)
    have := ih hcs
    rw [decimalValue_cons, List.length_cons, hten]
    omega

theorem le_decimalValue {c : Char} {cs : List Char} (hc : isDigit c = true) (hne : c ≠ '0') :
    tenTo cs.length ≤ decimalValue (c :: cs) := by
  have hdigit := isDigit_iff.1 hc
  have hzero : c.toNat ≠ 48 := fun h => hne (Char.toNat_inj.1 h)
  rw [decimalValue_cons]
  exact Nat.le_trans (Nat.le_mul_of_pos_left _ (show 0 < c.toNat - 48 by omega))
    (Nat.le_add_right ..)

/-! ## Leading digits -/

theorem spanDigits_append {digits rest : List Char} {c : Char} (hdigits : AllDigits digits)
    (hc : isDigit c = false) : spanDigits (digits ++ c :: rest) = (digits, c :: rest) := by
  simp [spanDigits, List.takeWhile_append_of_pos hdigits, List.dropWhile_append_of_pos hdigits, hc]

theorem spanDigits_digits {digits : List Char} (hdigits : AllDigits digits) :
    spanDigits digits = (digits, []) := by
  induction digits with
  | nil => rfl
  | cons c digits ih =>
    obtain ⟨hc, hdigits⟩ := AllDigits.cons_iff.1 hdigits
    have ih := ih hdigits
    simp only [spanDigits, Prod.mk.injEq] at ih
    simp [spanDigits, hc, ih]

/-- The leading digits of a text end at one place only. -/
theorem digits_unique {a b s t : List Char} {c d : Char} (ha : AllDigits a) (hb : AllDigits b)
    (hc : isDigit c = false) (hd : isDigit d = false) (h : a ++ c :: s = b ++ d :: t) :
    a = b ∧ c = d := by
  have hspan := congrArg spanDigits h
  rw [spanDigits_append ha hc, spanDigits_append hb hd] at hspan
  simp only [Prod.mk.injEq, List.cons.injEq] at hspan
  exact ⟨hspan.1, hspan.2.1⟩

/-! ## The digits of a number -/

theorem allDigits_toDigits (n : Nat) : AllDigits (Nat.toDigits 10 n) := fun c hc => by
  have := Nat.isDigit_of_mem_toDigits (by decide) (by decide) hc
  simp only [Char.isDigit, Bool.and_eq_true, decide_eq_true_eq] at this
  exact isDigit_iff.2 this

@[simp] theorem decimalValue_toDigits (n : Nat) : decimalValue (Nat.toDigits 10 n) = n := by
  rw [decimalValue_eq, Nat.ofDigitChars_ten_toDigits]

/-- A positive number is written without zeros in front. -/
theorem head_toDigits {n : Nat} (hn : 0 < n) : (Nat.toDigits 10 n).head? ≠ some '0' := by
  induction n using Nat.strongRecOn with
  | ind n ih =>
    rw [Nat.toDigits_eq_if (by decide)]
    split
    · rename_i hlt
      intro h
      have hzero : n.digitChar.toNat = 48 := congrArg Char.toNat (Option.some.inj h)
      rw [Nat.toNat_digitChar_of_lt_ten hlt] at hzero
      omega
    · rw [List.head?_append, Option.or_of_isSome (by simp)]
      exact ih (n / 10) (by omega) (by omega)

end FrameGraph.Data
