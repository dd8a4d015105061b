import FrameGraph.Data.Toml.Printer
import FrameGraph.Data.Toml.Quoted
import Mathlib.Tactic.Common

/-!
# Strings read back from TOML

A string is written in the first of four forms that can hold it. In the forms with escapes each character
is read back on its own; in the long forms quotes of the string may stand next to the closing ones, and
what is read as the end is always three of them with up to two more after it.

* `scanBasic_escapeAll`, `scanLiteral_append`: the forms on one line.
* `scanLongBasic_escapeAll`, `scanLongLiteral_append`: the forms over several lines.
* `scanString_quote`: every string is read back.
* `return_not_mem_quote`: unifying line ends changes no string.
-/

namespace FrameGraph.Data.Toml
set_option autoImplicit false

variable {c : Char} {cs rest : List Char}

/-! ## Characters -/

theorem coded?_fourPlaces : ∀ n < 128,
    coded? (fourPlaces (fun n => (Nat.digitChar n).toUpper) n) = some (Char.ofNat n) := by
  decide +kernel

theorem toNat_lt_of_isControl (h : isControl c = true) : c.toNat < 128 := by
  simp only [isControl, Bool.and_eq_true, Bool.or_eq_true, decide_eq_true_eq, beq_iff_eq] at h
  obtain ⟨⟨hlow | rfl, -⟩, -⟩ := h
  · exact Nat.lt_trans hlow (by decide)
  · decide

theorem isPlain_of_not_isControl (h : isControl c = false) (hline : c ≠ '\n') : isPlain c = true := by
  by_cases htab : c = '\t'
  · subst htab
    rfl
  · simp only [isControl, Bool.and_eq_false_iff, Bool.or_eq_false_iff, decide_eq_false_iff_not,
      bne_eq_false_iff_eq, htab, hline, or_false, beq_eq_false_iff_ne] at h
    simp [isPlain, h.2, Char.not_lt.1 h.1]

/-- The escape of a control character by its number is read as the character. -/
theorem coded?_of_isControl (h : isControl c = true) :
    coded? (fourPlaces (fun n => (Nat.digitChar n).toUpper) c.toNat) = some c := by
  rw [coded?_fourPlaces _ (toNat_lt_of_isControl h), Char.ofNat_toNat]

/-- What stands for a character in a basic string is read as the character. -/
theorem scanBasic_escape? (hquote : c ≠ '"') (rest : List Char) :
    scanBasic ((escape? false c).getD [c] ++ rest) = consRead (some c) (scanBasic rest) := by
  unfold escape?
  split
  iterate 6 simp [scanBasic, escaped?]
  rename_i hline _ _ hslash
  split
  · rename_i hcontrol
    have hcoded := coded?_of_isControl hcontrol
    simp only [fourPlaces] at hcoded
    simp [scanBasic, fourPlaces, hcoded]
  · rename_i hcontrol
    have hslash : c ≠ '\\' := hslash
    have hplain := isPlain_of_not_isControl (Bool.eq_false_iff.2 hcontrol) hline
    simp [scanBasic, hslash, hplain]

/-! ## One line -/

theorem escapeAll_cons (long : Bool) (allowed row : Nat) (hquote : c ≠ '"') :
    escapeAll long allowed row (c :: cs) = (escape? long c).getD [c] ++ escapeAll long allowed 0 cs := by
  simp [escapeAll]

theorem scanBasic_escapeAll (cs rest : List Char) :
    scanBasic (escapeAll false 0 0 cs ++ '"' :: rest) = some (cs, rest) := by
  induction cs with
  | nil => simp [escapeAll, scanBasic]
  | cons c cs ih =>
    by_cases hquote : c = '"'
    · subst hquote
      simp [escapeAll, scanBasic, escaped?, ih, consRead]
    · rw [escapeAll_cons _ _ _ hquote, List.append_assoc, scanBasic_escape? hquote, ih]
      rfl

theorem scanLiteral_append (hcontrol : cs.any isControl = false) (hline : '\n' ∉ cs)
    (hquote : '\'' ∉ cs) (rest : List Char) :
    scanLiteral (cs ++ '\'' :: rest) = some (cs, rest) := by
  induction cs with
  | nil => simp [scanLiteral]
  | cons c cs ih =>
    simp only [List.any_cons, Bool.or_eq_false_iff, List.mem_cons, not_or] at hcontrol hline hquote
    have hplain := isPlain_of_not_isControl hcontrol.1 (Ne.symm hline.1)
    have hc : c ≠ '\'' := Ne.symm hquote.1
    rw [List.cons_append]
    simp [scanLiteral, hplain, ih hcontrol.2 hline.2 hquote.2, consRead]

/-! ## Several lines -/

/-- A character that stands for itself, and a quote among fewer than three. -/
theorem scanLongBasic_self (hself : isPlain c = true ∨ c = '\n') (hslash : c ≠ '\\')
    (hquote : c = '"' → ∀ tail, rest ≠ '"' :: '"' :: tail) :
    scanLongBasic false (c :: rest) = consRead (some c) (scanLongBasic false rest) := by
  rw [scanLongBasic]
  · simp [hself, hslash]
  · exact fun tail hc => hquote hc tail
  · exact fun _ _ _ _ _ hc => absurd hc hslash
  · exact fun _ _ _ _ _ _ _ _ _ hc => absurd hc hslash
  · exact fun _ _ hc => absurd hc hslash

/-- In a long string a line end stands for itself. -/
theorem scanLongBasic_escape? (hquote : c ≠ '"') (rest : List Char) :
    scanLongBasic false ((escape? true c).getD [c] ++ rest) =
      consRead (some c) (scanLongBasic false rest) := by
  unfold escape?
  split
  · simp [scanLongBasic, escaped?, isBlank]
  · simp [scanLongBasic, escaped?, isBlank]
  · exact scanLongBasic_self (.inr rfl) (by decide) fun h => absurd h hquote
  · simp [scanLongBasic, escaped?, isBlank]
  · simp [scanLongBasic, escaped?, isBlank]
  · simp [scanLongBasic, escaped?, isBlank]
  rename_i hline _ _ hslash
  split
  · rename_i hcontrol
    have hcoded := coded?_of_isControl hcontrol
    simp only [fourPlaces] at hcoded
    simp [scanLongBasic, fourPlaces, hcoded]
  · rename_i hcontrol
    exact scanLongBasic_self (.inl (isPlain_of_not_isControl (Bool.eq_false_iff.2 hcontrol) hline))
      hslash fun h => absurd h hquote

theorem scanLongBasic_escaped_quote (rest : List Char) :
    scanLongBasic false ('\\' :: '"' :: rest) = consRead (some '"') (scanLongBasic false rest) := by
  simp [scanLongBasic, escaped?, isBlank]

/-- What stands for a character starts with the character or with a backslash. -/
theorem head_escape?_ne {long : Bool} {d : Char} (hc : c ≠ d) (hd : '\\' ≠ d) (tail : List Char) :
    ((escape? long c).getD [c] ++ tail).head? ≠ some d := by
  unfold escape?
  split
  iterate 2 simpa using hd
  · split
    · simpa using hc
    · simpa using hd
  iterate 3 simpa using hd
  split
  · simpa using hd
  · simpa using hc

theorem closing_append (quote : Char) (hrest : rest.head? ≠ some quote) :
    closing quote rest = ([], rest) ∧ closing quote (quote :: rest) = ([quote], rest) ∧
    closing quote (quote :: quote :: rest) = ([quote, quote], rest) := by
  cases rest with
  | nil => simp [closing]
  | cons a rest =>
    have ha : a ≠ quote := by simpa using hrest
    cases rest <;> simp [closing, ha]

theorem scanLongBasic_quotes (hrest : rest.head? ≠ some '"') :
    scanLongBasic false ('"' :: rest) = consRead (some '"') (scanLongBasic false rest) ∧
    scanLongBasic false ('"' :: '"' :: rest) =
      consRead (some '"') (consRead (some '"') (scanLongBasic false rest)) := by
  have hone : scanLongBasic false ('"' :: rest) = consRead (some '"') (scanLongBasic false rest) :=
    scanLongBasic_self (.inl (by decide)) (by decide) fun _ tail h => hrest (by rw [h]; rfl)
  refine ⟨hone, ?_⟩
  rw [scanLongBasic_self (.inl (by decide)) (by decide)
    fun _ tail h => hrest (by rw [(List.cons.inj h).2]; rfl), hone]

/-- Quotes stand in twos at most, and the induction takes them together with what comes after them. -/
theorem scanLongBasic_escapeAll {rest : List Char} (hrest : rest.head? ≠ some '"') :
    ∀ cs : List Char, scanLongBasic false (escapeAll true 2 0 cs ++ '"' :: '"' :: '"' :: rest) =
      some (cs, rest)
  | [] => by simp [escapeAll, scanLongBasic, (closing_append '"' hrest).1]
  | c :: cs => by
    obtain hc | rfl := ne_or_eq c '"'
    · rw [escapeAll_cons _ _ _ hc, List.append_assoc, scanLongBasic_escape? hc,
        scanLongBasic_escapeAll hrest cs]
      rfl
    match cs with
    | [] => simp [escapeAll, scanLongBasic, (closing_append '"' hrest).2.1]
    | d :: ds =>
      obtain hd | rfl := ne_or_eq d '"'
      · have hquote : escapeAll true 2 0 ('"' :: d :: ds) = '"' :: escapeAll true 2 1 (d :: ds) := rfl
        rw [hquote, escapeAll_cons _ _ _ hd, List.cons_append, List.append_assoc,
          (scanLongBasic_quotes (head_escape?_ne hd (by decide) _)).1, scanLongBasic_escape? hd,
          scanLongBasic_escapeAll hrest ds]
        rfl
      match ds with
      | [] => simp [escapeAll, scanLongBasic, (closing_append '"' hrest).2.2]
      | e :: es =>
        have hquotes : escapeAll true 2 0 ('"' :: '"' :: e :: es) =
            '"' :: '"' :: escapeAll true 2 2 (e :: es) := rfl
        rw [hquotes, List.cons_append, List.cons_append]
        obtain he | rfl := ne_or_eq e '"'
        · rw [escapeAll_cons _ _ _ he, List.append_assoc,
            (scanLongBasic_quotes (head_escape?_ne he (by decide) _)).2, scanLongBasic_escape? he,
            scanLongBasic_escapeAll hrest es]
          rfl
        · have hescaped : escapeAll true 2 2 ('"' :: es) = '\\' :: '"' :: escapeAll true 2 0 es := rfl
          rw [hescaped, List.cons_append, List.cons_append, (scanLongBasic_quotes (by simp)).2,
            scanLongBasic_escaped_quote, scanLongBasic_escapeAll hrest es]
          rfl

/-! ## Runs of quotes -/

/-- The run that a character ends, and the longest one so far. -/
def runStep (quote : Char) (run : Nat × Nat) (c : Char) : Nat × Nat :=
  let here := if c = quote then run.1 + 1 else 0
  (here, max run.2 here)

theorem longestRun_eq (quote : Char) (cs : List Char) :
    longestRun quote cs = (cs.foldl (runStep quote) (0, 0)).2 := rfl

theorem foldl_runStep_mono (quote : Char) : ∀ (cs : List Char) {a b : Nat × Nat},
    a.1 ≤ b.1 → a.2 ≤ b.2 → (cs.foldl (runStep quote) a).2 ≤ (cs.foldl (runStep quote) b).2
  | [], _, _, _, h => h
  | c :: cs, a, b, h₁, h₂ => by
    refine foldl_runStep_mono quote cs ?_ ?_ <;> simp only [runStep] <;> split <;> omega

theorem le_foldl_runStep (quote : Char) : ∀ (cs : List Char) (run : Nat × Nat),
    run.2 ≤ (cs.foldl (runStep quote) run).2
  | [], _ => Nat.le_refl _
  | c :: cs, run =>
    Nat.le_trans (Nat.le_max_left _ _) (le_foldl_runStep quote cs (runStep quote run c))

theorem longestRun_le_cons (quote c : Char) (cs : List Char) :
    longestRun quote cs ≤ longestRun quote (c :: cs) :=
  foldl_runStep_mono quote cs (Nat.zero_le _) (Nat.zero_le _)

theorem not_mem_of_longestRun (h : longestRun c cs = 0) : c ∉ cs := by
  induction cs with
  | nil => exact List.not_mem_nil
  | cons d cs ih =>
    rintro (_ | ⟨_, hmem⟩)
    · have := le_foldl_runStep c cs (runStep c (0, 0) c)
      rw [longestRun_eq, List.foldl_cons] at h
      simp [runStep] at this h
      omega
    · have := longestRun_le_cons c d cs
      exact ih (by omega) hmem

theorem three_le_longestRun (quote : Char) (cs : List Char) :
    3 ≤ longestRun quote (quote :: quote :: quote :: cs) := by
  have := le_foldl_runStep quote cs
    (runStep quote (runStep quote (runStep quote (0, 0) quote) quote) quote)
  simpa [longestRun_eq, runStep] using this

theorem scanLongLiteral_self (hself : isPlain c = true ∨ c = '\n')
    (hquote : c = '\'' → ∀ tail, rest ≠ '\'' :: '\'' :: tail) :
    scanLongLiteral (c :: rest) = consRead (some c) (scanLongLiteral rest) := by
  rw [scanLongLiteral]
  · simp [hself]
  · exact fun tail hc => hquote hc tail

theorem scanLongLiteral_append {rest : List Char} (hrest : rest.head? ≠ some '\'') :
    ∀ {cs : List Char}, cs.any isControl = false → longestRun '\'' cs ≤ 2 →
      scanLongLiteral (cs ++ '\'' :: '\'' :: '\'' :: rest) = some (cs, rest)
  | [], _, _ => by simp [scanLongLiteral, (closing_append '\'' hrest).1]
  | c :: cs, hcontrol, hrun => by
    obtain ⟨hc, hcontrol⟩ := Bool.or_eq_false_iff.1 hcontrol
    by_cases hlast : c = '\'' ∧ (cs = [] ∨ cs = ['\''])
    · obtain ⟨rfl, rfl | rfl⟩ := hlast
      · simp [scanLongLiteral, (closing_append '\'' hrest).2.1]
      · simp [scanLongLiteral, (closing_append '\'' hrest).2.2]
    have hself : isPlain c = true ∨ c = '\n' :=
      or_iff_not_imp_right.2 (isPlain_of_not_isControl hc)
    have hquote : c = '\'' → ∀ tail, cs ++ '\'' :: '\'' :: '\'' :: rest ≠ '\'' :: '\'' :: tail := by
      rintro rfl tail heq
      match cs with
      | [] => exact hlast ⟨rfl, .inl rfl⟩
      | [d] => exact hlast ⟨rfl, .inr (by rw [(List.cons.inj heq).1])⟩
      | d :: e :: es =>
        simp only [List.cons_append, List.cons.injEq] at heq
        obtain ⟨rfl, rfl, -⟩ := heq
        exact absurd (three_le_longestRun '\'' es) (by omega)
    rw [List.cons_append, scanLongLiteral_self hself hquote,
      scanLongLiteral_append hrest hcontrol (Nat.le_trans (longestRun_le_cons '\'' c cs) hrun)]
    rfl

/-! ## All forms -/

theorem scanString_basic (cs rest : List Char) :
    scanString (basic cs ++ '\n' :: rest) = some (cs, '\n' :: rest) := by
  have htext : basic cs ++ '\n' :: rest = '"' :: (escapeAll false 0 0 cs ++ '"' :: '\n' :: rest) := by
    simp [basic]
  rw [htext, scanString]
  · exact scanBasic_escapeAll cs _
  · intro tail heq
    cases cs with
    | nil => simp [escapeAll] at heq
    | cons c cs =>
      obtain hc | rfl := ne_or_eq c '"'
      · rw [escapeAll_cons _ _ _ hc, List.append_assoc] at heq
        exact head_escape?_ne hc (by decide) _ (by rw [heq]; rfl)
      · simp [escapeAll] at heq

theorem scanString_literal (hcontrol : cs.any isControl = false) (hline : '\n' ∉ cs)
    (hquote : '\'' ∉ cs) (rest : List Char) :
    scanString (literal cs ++ '\n' :: rest) = some (cs, '\n' :: rest) := by
  have htext : literal cs ++ '\n' :: rest = '\'' :: (cs ++ '\'' :: '\n' :: rest) := by
    simp [literal]
  rw [htext, scanString]
  · exact scanLiteral_append hcontrol hline hquote _
  · intro tail heq
    cases cs with
    | nil => simp at heq
    | cons c cs => exact hquote (by simp [(List.cons.inj heq).1])

/-- The line end that opens a long string is skipped, and none that belongs to it. -/
theorem skipFirstLineEnd_opening {body : List Char} (hbody : '\n' ∉ cs → body.head? ≠ some '\n') :
    skipFirstLineEnd (opening cs ++ body) = body := by
  simp only [opening, List.contains_eq_mem, decide_eq_true_eq]
  split
  · rfl
  · rename_i hline
    have hbody := hbody hline
    cases body with
    | nil => rfl
    | cons b body =>
      have hb : b ≠ '\n' := by simpa using hbody
      simp [skipFirstLineEnd, hb]

theorem scanString_longBasic (cs rest : List Char) :
    scanString (longBasic cs ++ '\n' :: rest) = some (cs, '\n' :: rest) := by
  have htext : longBasic cs ++ '\n' :: rest = '"' :: '"' :: '"' ::
      (opening cs ++ (escapeAll true 2 0 cs ++ '"' :: '"' :: '"' :: '\n' :: rest)) := by
    simp [longBasic]
  rw [htext, scanString, skipFirstLineEnd_opening]
  · exact scanLongBasic_escapeAll (by simp) cs
  · intro hline
    cases cs with
    | nil => simp [escapeAll]
    | cons c cs =>
      obtain hc | rfl := ne_or_eq c '"'
      · rw [escapeAll_cons _ _ _ hc, List.append_assoc]
        exact head_escape?_ne (fun h => hline (by simp [h])) (by decide) _
      · simp [escapeAll]

theorem scanString_longLiteral (hcontrol : cs.any isControl = false)
    (hrun : longestRun '\'' cs ≤ 2) (rest : List Char) :
    scanString (longLiteral cs ++ '\n' :: rest) = some (cs, '\n' :: rest) := by
  have htext : longLiteral cs ++ '\n' :: rest = '\'' :: '\'' :: '\'' ::
      (opening cs ++ (cs ++ '\'' :: '\'' :: '\'' :: '\n' :: rest)) := by
    simp [longLiteral]
  rw [htext, scanString, skipFirstLineEnd_opening]
  · exact scanLongLiteral_append (by simp) hcontrol hrun
  · intro hline
    cases cs with
    | nil => simp
    | cons c cs => exact fun h => hline (by simp [Option.some.inj h])

theorem scanString_quote (s : String) (rest : List Char) :
    scanString (quote s ++ '\n' :: rest) = some (s.toList, '\n' :: rest) := by
  simp only [quote]
  split
  · exact scanString_basic _ _
  · split
    · rename_i h
      simp only [Bool.and_eq_true, Bool.not_eq_true', beq_iff_eq, List.contains_eq_mem,
        decide_eq_false_iff_not] at h
      exact scanString_literal h.1.1 h.1.2 (not_mem_of_longestRun h.2) rest
    · split
      · exact scanString_longBasic _ _
      · split
        · rename_i h
          simp only [Bool.and_eq_true, Bool.not_eq_true', decide_eq_true_eq] at h
          exact scanString_longLiteral h.1 h.2 rest
        · split
          · exact scanString_longBasic _ _
          · exact scanString_basic _ _

theorem exists_quote_eq (s : String) :
    ∃ c tail, quote s = c :: tail ∧ (c = '"' ∨ c = '\'') := by
  simp only [quote]
  split
  · exact ⟨'"', _, rfl, .inl rfl⟩
  split
  · exact ⟨'\'', _, rfl, .inr rfl⟩
  split
  · exact ⟨'"', _, rfl, .inl rfl⟩
  split
  · exact ⟨'\'', _, rfl, .inr rfl⟩
  split <;> exact ⟨'"', _, rfl, .inl rfl⟩

/-! ## Line ends -/

theorem return_not_mem_fourPlaces : ∀ n < 128,
    '\r' ∉ fourPlaces (fun n => (Nat.digitChar n).toUpper) n := by
  decide +kernel

theorem return_not_mem_escape? (long : Bool) (c : Char) : '\r' ∉ (escape? long c).getD [c] := by
  unfold escape?
  split
  iterate 2 simp
  · split <;> simp
  iterate 3 simp
  rename_i hreturn _
  split
  · rename_i hcontrol
    simpa using return_not_mem_fourPlaces _ (toNat_lt_of_isControl hcontrol)
  · simpa using fun h => hreturn h.symm

theorem return_not_mem_escapeAll (long : Bool) (allowed row : Nat) (cs : List Char) :
    '\r' ∉ escapeAll long allowed row cs := by
  induction cs generalizing row with
  | nil => simp [escapeAll]
  | cons c cs ih =>
    obtain hc | rfl := ne_or_eq c '"'
    · rw [escapeAll_cons _ _ _ hc, List.mem_append, not_or]
      exact ⟨return_not_mem_escape? long c, ih 0⟩
    · simp only [escapeAll]
      split <;> simp [ih]

theorem return_not_mem_of_not_control (h : cs.any isControl = false) : '\r' ∉ cs := fun hmem =>
  absurd (List.any_eq_false.1 h _ hmem) (by decide)

/-- No string is written with the line end of two characters in it. -/
theorem return_not_mem_quote (s : String) : '\r' ∉ quote s := by
  have hopening : '\r' ∉ opening s.toList := by
    simp only [opening]
    split <;> simp
  have hbasic : '\r' ∉ basic s.toList := by simp [basic, return_not_mem_escapeAll]
  have hlongBasic : '\r' ∉ longBasic s.toList := by
    simp [longBasic, return_not_mem_escapeAll, hopening]
  simp only [quote]
  split
  · exact hbasic
  split
  · rename_i h
    simp only [Bool.and_eq_true, Bool.not_eq_true'] at h
    simp [literal, return_not_mem_of_not_control h.1.1]
  split
  · exact hlongBasic
  split
  · rename_i h
    simp only [Bool.and_eq_true, Bool.not_eq_true'] at h
    simp [longLiteral, hopening, return_not_mem_of_not_control h.1]
  split
  · exact hlongBasic
  · exact hbasic

end FrameGraph.Data.Toml
