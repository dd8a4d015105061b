import FrameGraph.Data.Toml.Printer
import FrameGraph.Data.Toml.Reader
import FrameGraph.Proofs.Data.Tables
import FrameGraph.Proofs.Data.Toml.Numbers
import FrameGraph.Proofs.Data.Toml.Strings

/-!
# Lines read back from TOML

What is written in a table is a value after a bare name. A value is read back as it was, but for a
32-bit number, which comes back as the number of 64 bits with the same magnitude.

* `reread`: what a scalar is read back as.
* `Written`: what a reader has to know of a written value, and `written_of_scalar?`.
* `scanLine_assignment`, `scanLine_header`: the two kinds of lines.
-/

namespace FrameGraph.Data.Toml
set_option autoImplicit false
open Number

/-! ## Values -/

def reread : Datum → Datum
  | .single x => .real x.convert
  | d => d

/-- The characters `cs` are read back as the value, at the end of a line. -/
structure Written (d : Datum) (cs : List Char) : Prop where
  scans (fuel room : Nat) (rest : List Char) :
    scanValue (fuel + 1) room (cs ++ '\n' :: rest) = some (reread d, '\n' :: rest)
  starts (rest : List Char) : skipBlanks (cs ++ rest) = cs ++ rest
  returns : '\r' ∉ cs

variable {c : Char} {cs rest : List Char} {d : Datum}

theorem scanValue_number (fuel room : Nat) (hc : c ∉ ['[', '\x7b', 't', 'f', '"', '\'']) :
    scanValue (fuel + 1) room (c :: rest) = scanNumber? (c :: rest) := by
  simp only [List.mem_cons, List.not_mem_nil, or_false, not_or] at hc
  simp [scanValue, hc]

theorem skipBlanks_cons (hc : isBlank c = false) : skipBlanks (c :: rest) = c :: rest := by
  simp [skipBlanks, hc]

theorem written_flag (b : Bool) (h : scalar? (.flag b) = some cs) : Written (.flag b) cs := by
  cases b <;> obtain rfl := Option.some.inj h
  · exact ⟨fun _ _ _ => rfl, fun _ => rfl, by decide⟩
  · exact ⟨fun _ _ _ => rfl, fun _ => rfl, by decide⟩

theorem written_text (s : String) (h : scalar? (.text s) = some cs) : Written (.text s) cs := by
  obtain rfl := Option.some.inj h
  obtain ⟨c, tail, hquote, hc⟩ := exists_quote_eq s
  refine ⟨fun fuel room rest => ?_, fun rest => ?_, return_not_mem_quote s⟩
  · have hscan := scanString_quote s rest
    rw [hquote, List.cons_append] at hscan ⊢
    obtain rfl | rfl := hc <;> simp [scanValue, hscan, reread]
  · rw [hquote]
    exact skipBlanks_cons (by obtain rfl | rfl := hc <;> rfl)

/-- A number that starts as no other value does. -/
theorem written_number (hc : c ∉ ['[', '\x7b', 't', 'f', '"', '\'']) (hblank : c ∉ [' ', '\t'])
    (hreturn : '\r' ∉ c :: cs)
    (hscan : ∀ rest, scanNumber? (c :: cs ++ '\n' :: rest) = some (reread d, '\n' :: rest)) :
    Written d (c :: cs) := by
  refine ⟨fun fuel room rest => ?_, fun rest => skipBlanks_cons ?_, hreturn⟩
  · rw [List.cons_append, scanValue_number fuel room hc]
    exact hscan rest
  · simpa [isBlank] using hblank

theorem written_digits (hne : cs ≠ []) (hall : ∀ c ∈ cs, NumberChar c)
    (hscan : ∀ rest, scanNumber? (cs ++ '\n' :: rest) = some (reread d, '\n' :: rest)) :
    Written d cs := by
  cases cs with
  | nil => exact absurd rfl hne
  | cons c cs =>
    have hc := hall c List.mem_cons_self
    exact written_number (hc.not_mem _ (by decide)) (hc.not_mem _ (by decide))
      (fun h => (hall _ h).not_mem ['\r'] (by decide) List.mem_cons_self) hscan

theorem written_natural (n : Nat) (h : scalar? (.whole n) = some cs) : Written (.whole n) cs := by
  simp only [scalar?, Option.ite_none_right_eq_some, Option.some.injEq] at h
  obtain ⟨hn, rfl⟩ := h
  have htext : (toString (n : Int)).toList = Nat.toDigits 10 n := Nat.toList_repr
  rw [htext]
  exact written_digits Nat.toDigits_ne_nil (.digits (allDigits_toDigits n))
    fun rest => scanNumber?_natural (by omega) rest

/-- The names of the values without digits. -/
theorem text_named {y : Double} (hy : y.isFinite = false) :
    (y.text .toml).toList ∈ [['n', 'a', 'n'], ['i', 'n', 'f'], ['-', 'i', 'n', 'f']] := by
  cases y with
  | nan => exact List.mem_cons_self
  | signed negative rank =>
    have hrank : rank.val = Format.double.infinity := by simpa [Floating.isFinite] using hy
    simp only [Floating.text, hrank, if_true]
    cases negative
    · exact List.mem_cons_of_mem _ List.mem_cons_self
    · exact List.mem_cons_of_mem _ (List.mem_cons_of_mem _ List.mem_cons_self)

theorem written_single (x : Single) (h : scalar? (.single x) = some cs) : Written (.single x) cs := by
  obtain rfl := Option.some.inj h
  have hscan (rest : List Char) :
      scanNumber? (((x.convert : Double).text .toml).toList ++ '\n' :: rest) =
        some (reread (.single x), '\n' :: rest) :=
    scanNumber?_text x.convert rest
  cases hfinite : (x.convert : Double).isFinite with
  | true =>
    obtain ⟨negative, body, hbody, htext⟩ := exists_text_eq .toml hfinite
    rw [htext] at hscan ⊢
    exact written_digits (hbody.signed_ne_nil _) (hbody.signed _) hscan
  | false =>
    have hnamed := text_named hfinite
    generalize ((x.convert : Double).text .toml).toList = cs at *
    simp only [List.mem_cons, List.not_mem_nil, or_false] at hnamed
    obtain rfl | rfl | rfl := hnamed <;>
      exact written_number (by decide) (by decide) (by decide) hscan

theorem written_of_scalar? (hd : Scalar d) (h : scalar? d = some cs) : Written d cs := by
  cases hd with
  | flag b => exact written_flag b h
  | natural n => exact written_natural n h
  | single x => exact written_single x h
  | text s => exact written_text s h

/-! ## Names -/

/-- A name that stands without quotes. -/
def Bare (name : String) : Prop :=
  name.toList ≠ [] ∧ name.toList.all isBare = true

instance (name : String) : Decidable (Bare name) :=
  inferInstanceAs (Decidable (_ ∧ _))

/-- Characters that stand in no bare name. -/
theorem not_mem_of_isBare (hc : isBare c = true) (others : List Char)
    (hothers : others.any isBare = false) : c ∉ others := fun h =>
  List.any_eq_false.1 hothers c h hc

theorem Bare.exists_cons {name : String} (hname : Bare name) :
    ∃ n ns, name.toList = n :: ns ∧ isBare n = true := by
  obtain ⟨hne, hall⟩ := hname
  cases hcs : name.toList with
  | nil => exact absurd hcs hne
  | cons n ns =>
    rw [hcs] at hall
    exact ⟨n, ns, rfl, (Bool.and_eq_true_iff.1 hall).1⟩

theorem scanKey?_bare {name : String} (hname : Bare name) (hc : isBare c = false) :
    scanKey? (skipBlanks (name.toList ++ c :: rest)) = some (name, c :: rest) := by
  have hall := List.all_eq_true.1 hname.2
  have hspan : (name.toList ++ c :: rest).takeWhile isBare = name.toList ∧
      (name.toList ++ c :: rest).dropWhile isBare = c :: rest := by
    simp [List.takeWhile_append_of_pos hall, List.dropWhile_append_of_pos hall, hc]
  have hlist : String.ofList name.toList = name := String.ofList_toList
  obtain ⟨n, ns, hcs, hn⟩ := hname.exists_cons
  have hothers := not_mem_of_isBare hn [' ', '\t', '"', '\''] (by decide)
  simp only [List.mem_cons, List.not_mem_nil, or_false, not_or] at hothers
  rw [hcs] at hlist
  rw [hcs, List.cons_append] at hspan ⊢
  rw [skipBlanks_cons (by simp [isBlank, hothers])]
  simp [scanKey?, hothers, hspan, hlist]

theorem scanPath?_bare {name : String} (hname : Bare name) (room : Nat) (hc : isBare c = false)
    (hdot : (skipBlanks (c :: rest)).head? ≠ some '.') :
    scanPath? (room + 1) (name.toList ++ c :: rest) = some (([], name), skipBlanks (c :: rest)) := by
  rw [scanPath?, scanKey?_bare hname hc]
  cases hafter : skipBlanks (c :: rest) with
  | nil => simp [hafter]
  | cons d ds =>
    have hd : d ≠ '.' := by simpa [hafter] using hdot
    simp [hafter, hd]

/-! ## Lines -/

theorem endLine?_end (rest : List Char) : endLine? ('\n' :: rest) = some rest := by
  simp [endLine?, skipBlanks_cons (show isBlank '\n' = false by decide), skipComment]

/-- A line that starts with a bare name is an assignment. -/
theorem scanLine_bare {name : String} (hname : Bare name) (rest : List Char) :
    scanLine (name.toList ++ rest) = (do
      let ((path, key), rest) ← scanPath? depthLimit (name.toList ++ rest)
      let rest ← afterWord ['='] rest
      let (d, rest) ← scanValue (2 * rest.length + 2) depthLimit (skipBlanks rest)
      let rest ← endLine? rest
      return (.assignment path key d, rest)) := by
  obtain ⟨n, ns, hcs, hn⟩ := hname.exists_cons
  have hothers := not_mem_of_isBare hn [' ', '\t', '\n', '#', '['] (by decide)
  simp only [List.mem_cons, List.not_mem_nil, or_false, not_or] at hothers
  rw [hcs, List.cons_append, scanLine, skipBlanks_cons (by simp [isBlank, hothers])]
  simp [hothers]

theorem scanLine_assignment {name : String} (hname : Bare name) (hd : Written d cs)
    (rest : List Char) :
    scanLine (name.toList ++ ' ' :: '=' :: ' ' :: (cs ++ '\n' :: rest)) =
      some (.assignment [] name (reread d), rest) := by
  have hpath : scanPath? depthLimit (name.toList ++ ' ' :: '=' :: ' ' :: (cs ++ '\n' :: rest)) =
      some (([], name), '=' :: ' ' :: (cs ++ '\n' :: rest)) :=
    scanPath?_bare hname _ (by decide) (by simp [skipBlanks, isBlank])
  have hskip : skipBlanks (' ' :: (cs ++ '\n' :: rest)) = cs ++ '\n' :: rest := hd.starts _
  rw [scanLine_bare hname, hpath]
  simp [afterWord, hskip, hd.scans, endLine?_end]

theorem scanLine_header {name : String} (hname : Bare name) (rest : List Char) :
    scanLine ('[' :: (name.toList ++ ']' :: '\n' :: rest)) = some (.header [] name, rest) := by
  have hpath : scanPath? depthLimit (name.toList ++ ']' :: '\n' :: rest) =
      some (([], name), ']' :: '\n' :: rest) :=
    scanPath?_bare hname _ (by decide) (by simp [skipBlanks, isBlank])
  obtain ⟨n, ns, hcs, hn⟩ := hname.exists_cons
  have hrepeated : n ≠ '[' := by simpa using not_mem_of_isBare hn ['['] (by decide)
  rw [hcs, List.cons_append] at hpath ⊢
  rw [scanLine, skipBlanks_cons (by decide)]
  simp [hrepeated, hpath, afterWord, endLine?_end]

theorem scanLine_empty (rest : List Char) : scanLine ('\n' :: rest) = some (.empty, rest) := by
  rw [scanLine, skipBlanks_cons (by decide)]
  rfl

end FrameGraph.Data.Toml
