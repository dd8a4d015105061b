import FrameGraph.Data.Toml.Number
import FrameGraph.Proofs.Data.Numerals
import FrameGraph.Proofs.Number.Shortest
import FrameGraph.Proofs.Number.Widening
import Mathlib.Tactic.Ring

/-!
# Numbers read back from TOML

A floating number is written around a point, so its digits are taken for no moment and no whole number,
and the nearest number to them is the one that they are the shortest digits of. Powers of ten far outside
the range of the format never come up: the digits lie in the interval of a finite magnitude.

* `nearest_of_reads`: digits in the interval of a rank are rounded to it.
* `scanNumber?_text`: every floating number is read back.
* `scanNumber?_natural`: so is every natural number that fits 64 signed bits.
-/

namespace FrameGraph.Data.Toml
set_option autoImplicit false
open Number

/-! ## Rounding -/

theorem units_infinity_double : Format.double.units Format.double.infinity =
    twoTo 1024 * twoTo Format.double.scale := by
  decide +kernel

theorem twoTo_range_lt : twoTo 1024 < tenTo 400 ∧ 2 * twoTo Format.double.scale < tenTo 400 := by
  decide +kernel

theorem lt_of_tenTo_lt {m n : Nat} (h : tenTo m < tenTo n) : m < n :=
  (Nat.pow_lt_pow_iff_right (by decide)).1 h

variable {rank n places length : Nat}

/-- Digits that read as a positive rank do not stand too far behind the point. -/
theorem places_lt (hpos : 0 < rank) (h : Format.double.Reads rank n (tenTo places) = true)
    (hn : n < tenTo length) : places < length + 400 := by
  obtain ⟨hlow, -⟩ := Format.reads_iff.1 h
  have hunits : 0 < Format.double.units rank :=
    Format.units_zero _ ▸ Format.double.strictMono_units hpos
  refine lt_of_tenTo_lt ?_
  calc tenTo places ≤ (Format.double.units (rank - 1) + Format.double.units rank) * tenTo places :=
        Nat.le_mul_of_pos_left _ (by omega)
    _ ≤ n * (2 * twoTo Format.double.scale) := by rw [← Nat.mul_assoc, Nat.mul_comm n 2]; exact hlow
    _ ≤ n * tenTo 400 := Nat.mul_le_mul_left n (Nat.le_of_lt twoTo_range_lt.2)
    _ < tenTo length * tenTo 400 := Nat.mul_lt_mul_of_pos_right hn (tenTo_pos _)
    _ = tenTo (length + 400) := (tenTo_add ..).symm

/-- Digits that read as a finite rank do not stand too far in front of the point. -/
theorem length_lt (hfinite : rank < Format.double.infinity)
    (h : Format.double.Reads rank n (tenTo places) = true) (hn : tenTo length ≤ n) :
    length < 400 + places := by
  obtain ⟨-, hhigh, -⟩ := Format.reads_iff.1 h
  have hunits := Format.double.strictMono_units hfinite
  have hsucc := Format.double.strictMono_units.monotone (show rank + 1 ≤ _ from hfinite)
  have hscale := twoTo_pos Format.double.scale
  refine lt_of_tenTo_lt ?_
  calc tenTo length ≤ n := hn
    _ ≤ twoTo 1024 * tenTo places := by
      refine Nat.le_of_mul_le_mul_right (c := 2 * twoTo Format.double.scale) ?_ (by omega)
      calc n * (2 * twoTo Format.double.scale) = 2 * n * twoTo Format.double.scale := by
            rw [← Nat.mul_assoc, Nat.mul_comm n 2]
        _ ≤ _ := hhigh
        _ ≤ (2 * Format.double.units Format.double.infinity) * tenTo places :=
          Nat.mul_le_mul_right _ (by omega)
        _ = twoTo 1024 * tenTo places * (2 * twoTo Format.double.scale) := by
          rw [units_infinity_double]; ring
    _ < tenTo 400 * tenTo places := Nat.mul_lt_mul_of_pos_right twoTo_range_lt.1 (tenTo_pos _)
    _ = tenTo (400 + places) := (tenTo_add ..).symm

theorem nearest_of_reads {negative : Bool} {digits : List Char}
    {rank : Fin (Format.double.infinity + 1)} (hdigits : AllDigits digits) (hplaces : 0 < places)
    (hpos : 0 < rank.val) (hfinite : rank.val < Format.double.infinity)
    (h : Format.double.Reads rank (decimalValue digits) (tenTo places) = true) :
    nearest negative digits (-(places : Int)) = .signed negative rank := by
  have hkept := hdigits.dropWhile (· == '0')
  have hhead := List.head?_dropWhile_not (· == '0') digits
  rw [← decimalValue_dropZeros] at h
  simp only [nearest]
  generalize digits.dropWhile (· == '0') = kept at *
  have hplacesLt := places_lt hpos h (decimalValue_lt hkept)
  have hn : decimalValue kept ≠ 0 := by
    intro hzero
    obtain ⟨hlow, -⟩ := Format.reads_iff.1 h
    have hunits : 0 < Format.double.units rank :=
      Format.units_zero _ ▸ Format.double.strictMono_units hpos
    rw [hzero, Nat.mul_zero, Nat.zero_mul] at hlow
    have := Nat.mul_pos (Nat.add_pos_right (Format.double.units (rank - 1)) hunits) (tenTo_pos places)
    omega
  have hlength : kept.length ≤ 400 + places := by
    cases kept with
    | nil => exact Nat.zero_le _
    | cons c cs =>
      have hne : c ≠ '0' := by simpa using hhead
      exact length_lt hfinite h (le_decimalValue (AllDigits.cons_iff.1 hkept).1 hne)
  rw [if_neg (by simp only [overflowPower]; omega), if_neg (by simp only [overflowPower]; omega),
    if_pos (by omega), Int.natAbs_neg, Int.natAbs_natCast]
  exact Floating.ofQuotient_eq (Format.nearestRank_of_reads (by decide) (tenTo_pos _) h
    (Nat.le_of_lt hfinite))

/-! ## Digits around a point -/

structure Pointed (whole fraction : List Char) : Prop where
  whole_digits : AllDigits whole
  fraction_digits : AllDigits fraction
  whole_ne : whole ≠ []
  fraction_ne : fraction ≠ []
  /-- There are no needless zeros in front. -/
  lead : whole = ['0'] ∨ whole.head? ≠ some '0'

theorem exists_pointed {x : Decimal} (hx : 0 < x.digits ∨ x = ⟨0, 0⟩) : ∃ whole fraction,
    Layout.aroundPoint true (Nat.toDigits 10 x.digits) x.power = whole ++ '.' :: fraction ∧
    Pointed whole fraction ∧
    decimalValue (whole ++ fraction) * x.quotient.2 = x.quotient.1 * tenTo fraction.length := by
  have hdigits := allDigits_toDigits x.digits
  have hne : Nat.toDigits 10 x.digits ≠ [] := Nat.toDigits_ne_nil
  simp only [Layout.aroundPoint, Decimal.quotient]
  obtain hwhole | hbroken := lt_or_ge x.power 0
  · rw [if_neg (by omega), if_pos hwhole]
    have hplaces : 0 < x.power.natAbs := by omega
    have hlead : (Nat.toDigits 10 x.digits).head? ≠ some '0' := by
      obtain hpos | rfl := hx
      · exact head_toDigits hpos
      · exact absurd hwhole (by decide)
    split
    · rename_i hshort
      refine ⟨_, _, rfl, ⟨hdigits.take _, hdigits.drop _, ?_, ?_, .inr ?_⟩, ?_⟩
      · simp only [ne_eq, List.take_eq_nil_iff, hne, or_false]
        omega
      · simp only [ne_eq, List.drop_eq_nil_iff]
        omega
      · rw [List.head?_take, if_neg (by omega)]
        exact hlead
      · rw [List.take_append_drop, decimalValue_toDigits, List.length_drop,
          Nat.sub_sub_self (Nat.le_of_lt hshort)]
    · rename_i hlong
      refine ⟨['0'], _, rfl, ⟨.zero, AllDigits.append_iff.2 ⟨.zeros _, hdigits⟩, by simp,
        by simp [hne], .inl rfl⟩, ?_⟩
      rw [decimalValue_append, decimalValue_append, decimalValue_zeros, decimalValue_toDigits]
      simp [decimalValue, Nat.sub_add_cancel (Nat.le_of_not_lt hlong)]
  · rw [if_pos hbroken, if_neg (Int.not_lt.2 hbroken)]
    refine ⟨Nat.toDigits 10 x.digits ++ List.replicate x.power.natAbs '0', ['0'], rfl,
      ⟨AllDigits.append_iff.2 ⟨hdigits, .zeros _⟩, .zero, by simp [hne], by simp, ?_⟩, ?_⟩
    · obtain hpos | rfl := hx
      · rw [List.head?_append, Option.or_of_isSome (by simp)]
        exact .inr (head_toDigits hpos)
      · exact .inl rfl
    · rw [decimalValue_append, decimalValue_append, decimalValue_zeros, decimalValue_toDigits]
      simp [decimalValue]

/-! ## Scanning digits -/

theorem spanGroups_append {digits : List Char} {c : Char} (rest : List Char) (hdigits : AllDigits digits)
    (hc : isDigit c = false) (hline : c ≠ '_') :
    spanGroups isDigit (digits ++ c :: rest) = (digits, c :: rest) := by
  induction digits with
  | nil => cases rest <;> simp [spanGroups, hc]
  | cons d digits ih =>
    obtain ⟨hd, hdigits⟩ := AllDigits.cons_iff.1 hdigits
    have ih := ih hdigits
    cases digits with
    | nil => simpa [spanGroups, hd, hline, Prod.ext_iff] using ih
    | cons e digits =>
      have he : e ≠ '_' := by
        rintro rfl
        exact absurd (AllDigits.cons_iff.1 hdigits).1 (by decide)
      simp only [List.cons_append] at ih ⊢
      simp [spanGroups, hd, he, ih]

theorem scanWhole?_append {whole : List Char} {c : Char} (rest : List Char) (hdigits : AllDigits whole)
    (hne : whole ≠ []) (hlead : whole = ['0'] ∨ whole.head? ≠ some '0') (hc : isDigit c = false)
    (hline : c ≠ '_') : scanWhole? (whole ++ c :: rest) = some (whole, c :: rest) := by
  obtain rfl | hlead := hlead
  · rfl
  · cases whole with
    | nil => exact absurd rfl hne
    | cons d whole =>
      have hd : d ≠ '0' := by simpa using hlead
      have hspan := spanGroups_append rest hdigits hc hline
      rw [List.cons_append] at hspan ⊢
      simp [scanWhole?, hd, hspan]

/-! ## Moments -/

theorem eq_of_scanPlaces? {places low high value : Nat} {cs rest : List Char}
    (h : scanPlaces? places low high cs = some (value, rest)) :
    ∃ digits, digits.length = places ∧ AllDigits digits ∧ cs = digits ++ rest := by
  simp only [scanPlaces?] at h
  split at h
  · rename_i hplaces
    obtain ⟨-, rfl⟩ := Prod.mk.inj (Option.some.inj h)
    exact ⟨cs.take places, hplaces.1, List.all_eq_true.1 hplaces.2.1,
      (List.take_append_drop places cs).symm⟩
  · cases h

theorem afterWord_singleton {w : Char} {cs rest : List Char} (h : afterWord [w] cs = some rest) :
    cs = w :: rest := by
  cases cs with
  | nil => cases h
  | cons c cs =>
    simp only [afterWord] at h
    split at h
    · rename_i heq
      rw [heq, Option.some.inj h]
    · cases h

variable {digits rest left : List Char} {c : Char}

/-- Digits that some other character ends are followed by no mark of a date or a time. -/
theorem not_marked {places low high value : Nat} {mark : Char} (hdigits : AllDigits digits)
    (hc : isDigit c = false) (hmark : isDigit mark = false) (hend : digits = [] ∨ c ≠ mark)
    (hpos : 0 < places)
    (hplaces : scanPlaces? places low high (digits ++ c :: rest) = some (value, left)) :
    afterWord [mark] left = none := by
  refine Option.eq_none_iff_forall_ne_some.2 fun marked hword => ?_
  obtain ⟨others, hlength, hothers, heq⟩ := eq_of_scanPlaces? hplaces
  rw [afterWord_singleton hword] at heq
  obtain ⟨rfl, rfl⟩ := digits_unique hdigits hothers hc hmark heq
  obtain rfl | hne := hend
  · exact Nat.ne_of_gt hpos hlength.symm
  · exact hne rfl

theorem scanMoment?_eq_none (hdigits : AllDigits digits) (hc : isDigit c = false)
    (hend : digits = [] ∨ c ≠ '-' ∧ c ≠ ':') : scanMoment? (digits ++ c :: rest) = none := by
  have hdate : skipDate? (digits ++ c :: rest) = none := by
    cases hyear : scanPlaces? 4 0 9999 (digits ++ c :: rest) with
    | none => simp [skipDate?, hyear]
    | some year =>
      have := not_marked hdigits hc (by decide : isDigit '-' = false) (hend.imp_right And.left)
        (by decide) hyear
      simp [skipDate?, hyear, this]
  have htime : skipTime? (digits ++ c :: rest) = none := by
    cases hhour : scanPlaces? 2 0 23 (digits ++ c :: rest) with
    | none => simp [skipTime?, hhour]
    | some hour =>
      have := not_marked hdigits hc (by decide : isDigit ':' = false) (hend.imp_right And.right)
        (by decide) hhour
      simp [skipTime?, hhour, this]
  simp [scanMoment?, hdate, htime]

/-! ## Floating numbers -/

theorem scanSign_signed {negative : Bool} (hc : c ≠ '-' ∧ c ≠ '+') :
    scanSign (signed negative (c :: rest)) = (negative, c :: rest) := by
  cases negative
  · simp [signed, scanSign, hc.1, hc.2]
  · rfl

theorem scanSign_digit (negative : Bool) (hc : isDigit c = true) :
    scanSign (signed negative (c :: rest)) = (negative, c :: rest) := by
  refine scanSign_signed ⟨?_, ?_⟩ <;> rintro rfl <;> exact absurd hc (by decide)

/-- A number around a point, at the end of a line. -/
theorem scanNumber?_pointed {negative : Bool} {whole fraction : List Char}
    (h : Pointed whole fraction) :
    scanNumber? (signed negative (whole ++ '.' :: (fraction ++ '\n' :: rest))) =
      checkedNumeral? (nearest negative (whole ++ fraction) (-(fraction.length : Int)), '\n' :: rest) := by
  have hmoment : scanMoment? (signed negative (whole ++ '.' :: (fraction ++ '\n' :: rest))) = none := by
    cases negative
    · exact scanMoment?_eq_none h.whole_digits (by decide) (.inr (by decide))
    · exact scanMoment?_eq_none AllDigits.nil (by decide) (.inl rfl)
  have hsign : scanSign (signed negative (whole ++ '.' :: (fraction ++ '\n' :: rest))) =
      (negative, whole ++ '.' :: (fraction ++ '\n' :: rest)) := by
    cases hwhole : whole with
    | nil => exact absurd hwhole h.whole_ne
    | cons d ds => exact scanSign_digit negative (AllDigits.cons_iff.1 (hwhole ▸ h.whole_digits)).1
  have hwhole := scanWhole?_append (fraction ++ '\n' :: rest) h.whole_digits h.whole_ne h.lead
    (by decide : isDigit '.' = false) (by decide)
  have hfraction : scanFraction? ('.' :: (fraction ++ '\n' :: rest)) = some (fraction, '\n' :: rest) := by
    simp only [scanFraction?, scanDigits?,
      spanGroups_append rest h.fraction_digits (by decide : isDigit '\n' = false) (by decide)]
    cases hfraction : fraction with
    | nil => exact absurd hfraction h.fraction_ne
    | cons => rfl
  have hexponent : scanExponent? ('\n' :: rest) = none := by simp [scanExponent?]
  simp [scanNumber?, hmoment, scanNumeral?, hsign, hwhole, hfraction, hexponent]

/-- The value of a number around a point is the number that it is written for. -/
theorem nearest_pointed {negative : Bool} {rank : Fin (Format.double.infinity + 1)} {x : Decimal}
    {whole fraction : List Char} (hpointed : Pointed whole fraction)
    (hvalue : decimalValue (whole ++ fraction) * x.quotient.2 = x.quotient.1 * tenTo fraction.length)
    (hpos : 0 < rank.val) (hfinite : rank.val < Format.double.infinity)
    (hread : Format.double.Reads rank x.quotient.1 x.quotient.2 = true) :
    nearest negative (whole ++ fraction) (-(fraction.length : Int)) = .signed negative rank :=
  nearest_of_reads (AllDigits.append_iff.2 ⟨hpointed.whole_digits, hpointed.fraction_digits⟩)
    (List.length_pos_iff.2 hpointed.fraction_ne) hpos hfinite
    (Format.Reads.of_quotient x.quotient_pos (tenTo_pos _) hvalue hread)

theorem checkedNumeral?_finite {negative : Bool} {rank : Fin (Format.double.infinity + 1)}
    (hfinite : rank.val < Format.double.infinity) :
    checkedNumeral? (.signed negative rank, rest) = some (.real (.signed negative rank), rest) := by
  have hne : (.signed negative rank : Double) ≠ .infinite false := by
    intro h
    simp only [Floating.infinite, Floating.signed.injEq] at h
    exact Nat.ne_of_lt hfinite (congrArg Fin.val h.2)
  simp only [checkedNumeral?, hne, if_false]

/-- A decimal is read back as any number that its quotient is rounded to. -/
theorem scanNumber?_decimal {negative : Bool} {rank : Fin (Format.double.infinity + 1)} {x : Decimal}
    (hfinite : rank.val < Format.double.infinity)
    (hx : rank.val = 0 ∧ x = ⟨0, 0⟩ ∨ 0 < rank.val ∧ x.digits ≠ 0 ∧
      Format.double.Reads rank x.quotient.1 x.quotient.2 = true) :
    scanNumber? (signed negative (Layout.toml.decimal x) ++ '\n' :: rest) =
      some (.real (.signed negative rank), '\n' :: rest) := by
  obtain ⟨whole, fraction, hlayout, hpointed, hvalue⟩ := exists_pointed (x := x)
    (hx.symm.imp (fun h => Nat.pos_of_ne_zero h.2.1) And.right)
  have hdecimal : Layout.toml.decimal x = whole ++ '.' :: fraction := by
    simp only [Layout.decimal, Layout.toml, if_true, hlayout]
  have hnearest : nearest negative (whole ++ fraction) (-(fraction.length : Int)) =
      .signed negative rank := by
    obtain ⟨hzero, rfl⟩ | ⟨hpos, -, hread⟩ := hx
    · have hvalue : decimalValue (whole ++ fraction) = 0 := by simpa [Decimal.quotient] using hvalue
      obtain rfl : rank = ⟨0, Nat.succ_pos _⟩ := Fin.ext hzero
      simp [nearest, decimalValue_dropZeros, hvalue, Floating.zero]
    · exact nearest_pointed hpointed hvalue hpos hfinite hread
  have hsigned : signed negative (whole ++ '.' :: fraction) ++ '\n' :: rest =
      signed negative (whole ++ '.' :: (fraction ++ '\n' :: rest)) := by
    cases negative <;> simp [signed]
  rw [hdecimal, hsigned, scanNumber?_pointed hpointed, hnearest, checkedNumeral?_finite hfinite]

/-- A name of a value without digits. -/
theorem scanNumber?_named {negative : Bool} {x : Double}
    (hc : isDigit c = false ∧ c ≠ '_' ∧ c ≠ '-' ∧ c ≠ '+')
    (hname : scanNamed? (signed negative (c :: rest)) = some (x, left)) :
    scanNumber? (signed negative (c :: rest)) = some (.real x, left) := by
  have hmoment : scanMoment? (signed negative (c :: rest)) = none := by
    cases negative
    · exact scanMoment?_eq_none AllDigits.nil hc.1 (.inl rfl)
    · exact scanMoment?_eq_none AllDigits.nil (by decide) (.inl rfl)
  have hwhole : scanWhole? (c :: rest) = none := by
    have hzero : c ≠ '0' := by
      rintro rfl
      exact absurd hc.1 (by decide)
    have hspan := spanGroups_append rest AllDigits.nil hc.1 hc.2.1
    rw [List.nil_append] at hspan
    simp [scanWhole?, hzero, hspan]
  simp [scanNumber?, hmoment, scanNumeral?, scanSign_signed hc.2.2, hwhole, hname]

theorem scanNumber?_text (x : Double) (rest : List Char) :
    scanNumber? ((x.text .toml).toList ++ '\n' :: rest) = some (.real x, '\n' :: rest) := by
  cases x with
  | nan =>
    change scanNumber? (signed false ('n' :: 'a' :: 'n' :: '\n' :: rest)) = _
    exact scanNumber?_named (by decide) rfl
  | signed negative rank =>
    simp only [Floating.text]
    split
    · rename_i hinfinite
      obtain rfl : rank = ⟨Format.double.infinity, Nat.lt_succ_self _⟩ := Fin.ext hinfinite
      have htext : (Layout.toml.infinite negative).toList ++ '\n' :: rest =
          signed negative ('i' :: 'n' :: 'f' :: '\n' :: rest) := by
        cases negative <;> rfl
      rw [htext]
      refine scanNumber?_named (by decide) ?_
      simp [scanNamed?, scanSign_signed, afterWord, Floating.infinite]
    · rename_i hinfinite
      have hfinite : rank.val < Format.double.infinity := by have := rank.isLt; omega
      rw [String.toList_ofList]
      obtain hzero | hpos := Nat.eq_zero_or_pos rank.val
      · rw [if_pos hzero]
        exact scanNumber?_decimal hfinite (.inl ⟨hzero, rfl⟩)
      · rw [if_neg (Nat.ne_of_gt hpos)]
        exact scanNumber?_decimal hfinite (.inr ⟨hpos, Format.shortest_reads (by decide) hpos⟩)

/-! ## Whole numbers -/

theorem lead_toDigits (n : Nat) :
    Nat.toDigits 10 n = ['0'] ∨ (Nat.toDigits 10 n).head? ≠ some '0' := by
  obtain rfl | hpos := Nat.eq_zero_or_pos n
  · exact .inl rfl
  · exact .inr (head_toDigits hpos)

theorem scanNumber?_natural {n : Nat} (hn : n < UInt64.size / 2) (rest : List Char) :
    scanNumber? (Nat.toDigits 10 n ++ '\n' :: rest) = some (.whole n, '\n' :: rest) := by
  have hdigits := allDigits_toDigits n
  have hvalue := decimalValue_toDigits n
  have hlead := lead_toDigits n
  have hne : Nat.toDigits 10 n ≠ [] := Nat.toDigits_ne_nil
  have hline : isDigit '\n' = false := by decide
  have hmoment : scanMoment? (Nat.toDigits 10 n ++ '\n' :: rest) = none :=
    scanMoment?_eq_none hdigits hline (.inr (by decide))
  have hwhole := scanWhole?_append rest hdigits hne hlead hline (by decide)
  generalize Nat.toDigits 10 n = digits at *
  cases digits with
  | nil => exact absurd rfl hne
  | cons d ds =>
    rw [List.cons_append] at hmoment hwhole ⊢
    have hd := (AllDigits.cons_iff.1 hdigits).1
    have hsign : scanSign (d :: (ds ++ '\n' :: rest)) = (false, d :: (ds ++ '\n' :: rest)) :=
      scanSign_digit false hd
    have hnumeral : scanNumeral? (d :: (ds ++ '\n' :: rest)) = none := by
      rw [scanNumeral?, hsign]
      simp [hwhole, scanFraction?, scanExponent?]
    have hnamed : scanNamed? (d :: (ds ++ '\n' :: rest)) = none := by
      have hi : 'i' ≠ d := by rintro rfl; exact absurd hd (by decide)
      have hn : 'n' ≠ d := by rintro rfl; exact absurd hd (by decide)
      rw [scanNamed?, hsign]
      simp [afterWord, hi, hn]
    have hinteger : scanInteger? (d :: (ds ++ '\n' :: rest)) = scanDecimal? (d :: (ds ++ '\n' :: rest)) := by
      obtain heq | hzero := hlead
      · obtain ⟨rfl, rfl⟩ := List.cons.inj heq
        rfl
      · have hzero : d ≠ '0' := by simpa using hzero
        simp [scanInteger?, hzero]
    have hdecimal : scanDecimal? (d :: (ds ++ '\n' :: rest)) = some ((n : Int), '\n' :: rest) := by
      rw [scanDecimal?, hsign]
      simp [hwhole, hvalue, hn]
    rw [scanNumber?, hmoment, hnumeral, hnamed, hinteger, hdecimal]
    rfl

end FrameGraph.Data.Toml
