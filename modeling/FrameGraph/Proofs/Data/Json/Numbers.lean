import FrameGraph.Data.Json.Reader
import FrameGraph.Proofs.Data.Numerals

/-!
# Numbers read back from JSON

Inside a text a numeral is read as it is read alone, since what comes after a value continues no numeral.

* `Ends`: what may come after a value.
* `scan_append`: a numeral within a text.
* `scanValue_of_read?`: a number that is read back alone is read back within a text.
* `scanValue_natural`: natural numbers of 64 bits are read back.
-/

namespace FrameGraph.Data.Json
set_option autoImplicit false
open Number

/-- A value is followed by a comma, a line end or nothing. -/
def Ends (rest : List Char) : Prop := ∀ c ∈ rest.head?, c = ',' ∨ c = '\n'

theorem Ends.comma (rest : List Char) : Ends (',' :: rest) := fun _ hc => .inl (Option.some.inj hc).symm

theorem Ends.line (rest : List Char) : Ends ('\n' :: rest) := fun _ hc => .inr (Option.some.inj hc).symm

theorem Ends.nil : Ends [] := fun _ hc => by cases hc

namespace Numeral
variable {cs rest left : List Char}

theorem spanDigits_append (hrest : Ends rest) (cs : List Char) :
    spanDigits (cs ++ rest) = ((spanDigits cs).1, (spanDigits cs).2 ++ rest) := by
  have hnone : spanDigits rest = ([], rest) := by
    cases rest with
    | nil => rfl
    | cons c rest => obtain rfl | rfl := hrest c rfl <;> rfl
  induction cs with
  | nil => exact hnone
  | cons c cs ih =>
    simp only [spanDigits, Prod.mk.injEq] at ih ⊢
    by_cases hc : isDigit c = true
    · simp [hc, ih]
    · simp [hc]

theorem scanWhole_of_ne {c : Char} (hc : c ≠ '0') (cs : List Char) :
    scanWhole (c :: cs) = match spanDigits (c :: cs) with
      | ([], _) => none
      | (digits, rest) => some (digits, rest) := by
  unfold scanWhole
  split
  · rename_i h
    exact absurd (List.cons.inj h).1 hc
  · rfl

theorem scanWhole_append (hrest : Ends rest) {digits : List Char}
    (h : scanWhole cs = some (digits, left)) : scanWhole (cs ++ rest) = some (digits, left ++ rest) := by
  cases cs with
  | nil => simp [scanWhole, spanDigits] at h
  | cons c cs =>
    obtain rfl | hc := eq_or_ne c '0'
    · obtain ⟨rfl, rfl⟩ := Prod.mk.inj (Option.some.inj h)
      rfl
    · have happend := spanDigits_append hrest (c :: cs)
      rw [List.cons_append] at happend ⊢
      rw [scanWhole_of_ne hc] at h ⊢
      rw [happend]
      generalize spanDigits (c :: cs) = span at *
      obtain ⟨_ | ⟨d, ds⟩, after⟩ := span
      · cases h
      · obtain ⟨rfl, rfl⟩ := Prod.mk.inj (Option.some.inj h)
        rfl

theorem scanFraction_of_ne {c : Char} (hc : c ≠ '.') (cs : List Char) :
    scanFraction (c :: cs) = some (none, c :: cs) := by
  simp [scanFraction, hc]

theorem scanFraction_append (hrest : Ends rest) {digits : Option (List Char)}
    (h : scanFraction cs = some (digits, left)) :
    scanFraction (cs ++ rest) = some (digits, left ++ rest) := by
  cases cs with
  | nil =>
    obtain ⟨rfl, rfl⟩ := Prod.mk.inj (Option.some.inj h)
    cases rest with
    | nil => rfl
    | cons c rest => obtain rfl | rfl := hrest c rfl <;> rfl
  | cons c cs =>
    obtain rfl | hc := eq_or_ne c '.'
    · rw [List.cons_append]
      simp only [scanFraction] at h ⊢
      rw [spanDigits_append hrest]
      generalize spanDigits cs = span at *
      obtain ⟨_ | ⟨d, ds⟩, after⟩ := span
      · cases h
      · obtain ⟨rfl, rfl⟩ := Prod.mk.inj (Option.some.inj h)
        rfl
    · rw [scanFraction_of_ne hc] at h
      obtain ⟨rfl, rfl⟩ := Prod.mk.inj (Option.some.inj h)
      exact scanFraction_of_ne hc _

theorem scanSign_append (hrest : Ends rest) (cs : List Char) :
    scanSign (cs ++ rest) = ((scanSign cs).1, (scanSign cs).2 ++ rest) := by
  cases cs with
  | nil =>
    cases rest with
    | nil => rfl
    | cons c rest => obtain rfl | rfl := hrest c rfl <;> rfl
  | cons c cs =>
    rw [List.cons_append]
    simp only [scanSign]
    split <;> simp_all

theorem scanExponent_append (hrest : Ends rest) {exponent : Option (Bool × List Char)}
    (h : scanExponent cs = some (exponent, left)) :
    scanExponent (cs ++ rest) = some (exponent, left ++ rest) := by
  cases cs with
  | nil =>
    obtain ⟨rfl, rfl⟩ := Prod.mk.inj (Option.some.inj h)
    cases rest with
    | nil => rfl
    | cons c rest => obtain rfl | rfl := hrest c rfl <;> rfl
  | cons c cs =>
    rw [List.cons_append]
    simp only [scanExponent] at h ⊢
    split at h
    · rename_i hc
      rw [if_pos hc, scanSign_append hrest]
      simp only [spanDigits_append hrest]
      generalize spanDigits (scanSign cs).2 = span at *
      obtain ⟨_ | ⟨d, ds⟩, after⟩ := span
      · cases h
      · obtain ⟨rfl, rfl⟩ := Prod.mk.inj (Option.some.inj h)
        rfl
    · rename_i hc
      obtain ⟨rfl, rfl⟩ := Prod.mk.inj (Option.some.inj h)
      rw [if_neg hc]
      rfl

/-- A numeral after its sign. -/
def scanMagnitude (negative : Bool) (cs : List Char) : Option (Numeral × List Char) := do
  let (whole, cs) ← scanWhole cs
  let (fraction, cs) ← scanFraction cs
  let (exponent, cs) ← scanExponent cs
  return (⟨negative, whole, fraction, exponent⟩, cs)

theorem scan_of_ne {c : Char} (hc : c ≠ '-') (cs : List Char) :
    scan (c :: cs) = scanMagnitude false (c :: cs) := by
  simp [scan, scanMagnitude, hc]

theorem scanMagnitude_append (hrest : Ends rest) {negative : Bool} {n : Numeral}
    (h : scanMagnitude negative cs = some (n, left)) :
    scanMagnitude negative (cs ++ rest) = some (n, left ++ rest) := by
  simp only [scanMagnitude, Option.bind_eq_bind, Option.bind_eq_some_iff] at h ⊢
  obtain ⟨⟨whole, cs₁⟩, hwhole, ⟨fraction, cs₂⟩, hfraction, ⟨exponent, cs₃⟩, hexponent, hn⟩ := h
  obtain ⟨rfl, rfl⟩ := Prod.mk.inj (Option.some.inj hn)
  exact ⟨_, scanWhole_append hrest hwhole, _, scanFraction_append hrest hfraction, _,
    scanExponent_append hrest hexponent, rfl⟩

theorem scan_append (hrest : Ends rest) {n : Numeral} (h : scan cs = some (n, left)) :
    scan (cs ++ rest) = some (n, left ++ rest) := by
  cases cs with
  | nil => simp [scan, scanWhole, spanDigits] at h
  | cons c cs =>
    rw [List.cons_append]
    obtain rfl | hc := eq_or_ne c '-'
    · exact scanMagnitude_append hrest h
    · rw [scan_of_ne hc] at h ⊢
      exact scanMagnitude_append hrest h

/-! ## What is left -/

theorem suffix_of_scanWhole {digits : List Char} (h : scanWhole cs = some (digits, left)) :
    left <:+ cs := by
  unfold scanWhole at h
  split at h
  · obtain ⟨rfl, rfl⟩ := Prod.mk.inj (Option.some.inj h)
    exact List.suffix_cons ..
  · split at h
    · cases h
    · rename_i hspan
      obtain ⟨rfl, rfl⟩ := Prod.mk.inj (Option.some.inj h)
      exact (Prod.mk.inj hspan).2 ▸ List.dropWhile_suffix _

theorem suffix_of_scanFraction {digits : Option (List Char)}
    (h : scanFraction cs = some (digits, left)) : left <:+ cs := by
  unfold scanFraction at h
  split at h
  · split at h
    · cases h
    · rename_i hspan
      obtain ⟨rfl, rfl⟩ := Prod.mk.inj (Option.some.inj h)
      exact (Prod.mk.inj hspan).2 ▸ (List.dropWhile_suffix _).trans (List.suffix_cons ..)
  · obtain ⟨rfl, rfl⟩ := Prod.mk.inj (Option.some.inj h)
    exact List.suffix_refl _

theorem suffix_scanSign (cs : List Char) : (scanSign cs).2 <:+ cs := by
  unfold scanSign
  split
  · exact List.suffix_cons ..
  · exact List.suffix_cons ..
  · exact List.suffix_refl _

theorem suffix_of_scanExponent {exponent : Option (Bool × List Char)}
    (h : scanExponent cs = some (exponent, left)) : left <:+ cs := by
  cases cs with
  | nil =>
    obtain ⟨rfl, rfl⟩ := Prod.mk.inj (Option.some.inj h)
    exact List.suffix_refl _
  | cons c cs =>
    simp only [scanExponent] at h
    split at h
    · split at h
      · cases h
      · rename_i hspan
        obtain ⟨rfl, rfl⟩ := Prod.mk.inj (Option.some.inj h)
        exact (Prod.mk.inj hspan).2 ▸ ((List.dropWhile_suffix _).trans (suffix_scanSign _)).trans
          (List.suffix_cons ..)
    · obtain ⟨rfl, rfl⟩ := Prod.mk.inj (Option.some.inj h)
      exact List.suffix_refl _

theorem suffix_of_scan {n : Numeral} (h : scan cs = some (n, left)) : left <:+ cs := by
  have hmagnitude {negative : Bool} {body : List Char}
      (h : scanMagnitude negative body = some (n, left)) : left <:+ body := by
    simp only [scanMagnitude, Option.bind_eq_bind, Option.bind_eq_some_iff] at h
    obtain ⟨⟨whole, cs₁⟩, hwhole, ⟨fraction, cs₂⟩, hfraction, ⟨exponent, cs₃⟩, hexponent, hn⟩ := h
    obtain ⟨rfl, rfl⟩ := Prod.mk.inj (Option.some.inj hn)
    exact (suffix_of_scanExponent hexponent).trans
      ((suffix_of_scanFraction hfraction).trans (suffix_of_scanWhole hwhole))
  cases cs with
  | nil => simp [scan, scanWhole, spanDigits] at h
  | cons c cs =>
    obtain rfl | hc := eq_or_ne c '-'
    · exact (hmagnitude h).trans (List.suffix_cons ..)
    · exact hmagnitude (scan_of_ne hc cs ▸ h)

end Numeral

/-! ## Numbers within a text -/

variable {c : Char} {cs rest : List Char} {d : Datum}

theorem skipBlanks_cons (hc : isBlank c = false) : skipBlanks (c :: rest) = c :: rest := by
  simp [skipBlanks, hc]

theorem isBlank_of_numberChar (hc : NumberChar c) : isBlank c = false := by
  have hblanks := hc.not_mem [' ', '\n', '\t', '\r'] (by decide)
  simp only [List.mem_cons, List.not_mem_nil, or_false, not_or] at hblanks
  simp [isBlank, hblanks]

theorem scanValue_number (fuel : Nat) (hc : NumberChar c) :
    scanValue (fuel + 1) (c :: rest) = scanNumber (c :: rest) := by
  have hothers := hc.not_mem ['\x7b', '[', '"', 'n', 't', 'f'] (by decide)
  simp only [List.mem_cons, List.not_mem_nil, or_false, not_or] at hothers
  rw [scanValue, skipBlanks_cons (isBlank_of_numberChar hc)]
  simp [hothers]

/-- A number that is read back alone is read back within a text. -/
theorem scanValue_of_read? {text : String} (hne : text.toList ≠ [])
    (hall : ∀ c ∈ text.toList, NumberChar c) (h : read? text = some d) (fuel : Nat)
    (hrest : Ends rest) : scanValue (fuel + 1) (text.toList ++ rest) = some (d, rest) := by
  simp only [read?, Option.bind_eq_bind, Option.bind_eq_some_iff] at h
  obtain ⟨⟨value, left⟩, hvalue, hend⟩ := h
  cases hcs : text.toList with
  | nil => exact absurd hcs hne
  | cons c cs =>
    have hc : NumberChar c := hall c (hcs ▸ List.mem_cons_self)
    rw [hcs, scanValue_number _ hc] at hvalue
    simp only [scanNumber, Option.map_eq_some_iff] at hvalue
    obtain ⟨⟨n, left'⟩, hscan, heq⟩ := hvalue
    obtain ⟨rfl, rfl⟩ := Prod.mk.inj heq
    have hleft : left' = [] := by
      cases left' with
      | nil => rfl
      | cons b after =>
        have hb : NumberChar b := hall b (hcs ▸ (Numeral.suffix_of_scan hscan).subset List.mem_cons_self)
        rw [skipBlanks_cons (isBlank_of_numberChar hb)] at hend
        cases hend
    subst hleft
    obtain rfl := Option.some.inj hend
    rw [List.cons_append, scanValue_number _ hc, scanNumber, ← List.cons_append,
      Numeral.scan_append hrest hscan]
    rfl

/-! ## Whole numbers -/

theorem scan_natural (n : Nat) :
    Numeral.scan (Nat.toDigits 10 n) = some (⟨false, Nat.toDigits 10 n, none, none⟩, []) := by
  have hdigits := allDigits_toDigits n
  have hhead : 0 < n → (Nat.toDigits 10 n).head? ≠ some '0' := head_toDigits
  have hspan := spanDigits_digits hdigits
  obtain rfl | hpos := Nat.eq_zero_or_pos n
  · rfl
  · have hhead := hhead hpos
    have hne : Nat.toDigits 10 n ≠ [] := Nat.toDigits_ne_nil
    generalize Nat.toDigits 10 n = digits at *
    cases digits with
    | nil => exact absurd rfl hne
    | cons c cs =>
      have hc : c ≠ '-' := by
        rintro rfl
        exact absurd (AllDigits.cons_iff.1 hdigits).1 (by decide)
      rw [Numeral.scan_of_ne hc, Numeral.scanMagnitude,
        Numeral.scanWhole_of_ne (by simpa using hhead), hspan]
      rfl

theorem scanValue_natural {n : Nat} (hn : n < UInt64.size) (fuel : Nat) (hrest : Ends rest) :
    scanValue (fuel + 1) (Nat.toDigits 10 n ++ rest) = some (.whole n, rest) := by
  have hscan := Numeral.scan_append hrest (scan_natural n)
  have hdatum : Numeral.datum ⟨false, Nat.toDigits 10 n, none, none⟩ = .whole n := by
    simp [Numeral.datum, Numeral.integer?, hn]
  have hdigits := allDigits_toDigits n
  have hne : Nat.toDigits 10 n ≠ [] := Nat.toDigits_ne_nil
  generalize Nat.toDigits 10 n = digits at *
  cases digits with
  | nil => exact absurd rfl hne
  | cons c cs =>
    have hc : NumberChar c := .inl (AllDigits.cons_iff.1 hdigits).1
    rw [List.cons_append] at hscan ⊢
    rw [scanValue_number _ hc, scanNumber, hscan]
    exact congrArg (fun d => some (d, rest)) hdatum

end FrameGraph.Data.Json
