import FrameGraph.Data.Json.Quoted
import Mathlib.Tactic.Common

/-!
# Strings read back from JSON

A character is written as itself, as an escape by a letter or, where it is a control character without a
letter, as a 16-bit unit. No unit that is written is a surrogate, so the pieces of a string join again.

* `piece`: what a written character is read as.
* `scanText_quote`: every string is read back.
-/

namespace FrameGraph.Data.Json
set_option autoImplicit false

/-- What a written character is read as. -/
def piece (c : Char) : Piece :=
  if c < ' ' ∧ c ∉ ['\x08', '\x0c', '\n', '\r', '\t'] then .unit c.toNat else .char c

theorem numeral?_fourPlaces : ∀ n < 32, numeral? 16 (fourPlaces hexDigit n) = some n := by
  decide +kernel

theorem scanPieces_quoteChar (c : Char) (rest : List Char) :
    scanPieces (quoteChar c ++ rest) =
      (scanPieces rest).map fun (pieces, rest) => (piece c :: pieces, rest) := by
  unfold quoteChar
  split
  iterate 7 cases h : scanPieces rest <;> simp [scanPieces, escaped?, piece, h]
  rename_i hquote hslash hback hfeed hline hreturn htab
  split
  · rename_i hlow
    have hpiece : piece c = .unit c.toNat := by
      rw [piece, if_pos]
      refine ⟨hlow, ?_⟩
      simp only [List.mem_cons, List.not_mem_nil, or_false, not_or]
      exact ⟨hback, hfeed, hline, hreturn, htab⟩
    have hnumeral := numeral?_fourPlaces c.toNat hlow
    simp only [fourPlaces] at hnumeral
    cases h : scanPieces rest <;> simp [scanPieces, fourPlaces, hnumeral, hpiece, h]
  · rename_i hhigh
    have hpiece : piece c = .char c := if_neg fun h => hhigh h.1
    have hslash : c ≠ '\\' := hslash
    cases h : scanPieces rest <;> simp [scanPieces, hhigh, hslash, hpiece, h]

theorem scanPieces_quoted (cs rest : List Char) :
    scanPieces (cs.flatMap quoteChar ++ '"' :: rest) = some (cs.map piece, rest) := by
  induction cs with
  | nil => simp [scanPieces]
  | cons c cs ih => rw [List.flatMap_cons, List.append_assoc, scanPieces_quoteChar, ih]; rfl

/-- A unit that is no surrogate stands for a character of its own, whatever comes next. -/
theorem joinPieces_unit {n : Nat} (hn : n < 0xd800) (pieces : List Piece) :
    joinPieces (.unit n :: pieces) = (joinPieces pieces).map (Char.ofNat n :: ·) := by
  have hhigh : isHighSurrogate n = false := by
    simp only [isHighSurrogate, Bool.and_eq_false_iff, decide_eq_false_iff_not]
    omega
  have hlow : isLowSurrogate n = false := by
    simp only [isLowSurrogate, Bool.and_eq_false_iff, decide_eq_false_iff_not]
    omega
  cases pieces with
  | nil => simp [joinPieces, hhigh, hlow]
  | cons next pieces => cases next <;> simp [joinPieces, hhigh, hlow]

theorem joinPieces_piece (cs : List Char) : joinPieces (cs.map piece) = some cs := by
  induction cs with
  | nil => rfl
  | cons c cs ih =>
    rw [List.map_cons]
    by_cases h : c < ' ' ∧ c ∉ ['\x08', '\x0c', '\n', '\r', '\t']
    · have hc : c.toNat < 0xd800 := Nat.lt_trans h.1 (by decide)
      rw [piece, if_pos h, joinPieces_unit hc, ih, Char.ofNat_toNat]
      rfl
    · rw [piece, if_neg h, joinPieces, ih]
      rfl

theorem scanText_quote (s : String) (rest : List Char) :
    scanText (s.toList.flatMap quoteChar ++ '"' :: rest) = some (some s, rest) := by
  simp [scanText, scanPieces_quoted, joinPieces_piece]

end FrameGraph.Data.Json
