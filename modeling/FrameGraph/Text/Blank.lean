import FrameGraph.Text.Ranges

/-!
# Blanks

The white space of all scripts, in version 17 of Unicode: blanks on a line and ends of lines.

* `trimmed`: a text without the blanks at its ends.
* `isBlank_of_isWhitespace`: the space, the tabulator and the two common line ends are among them.
-/

namespace FrameGraph.Text
set_option autoImplicit false

def blanks : Ranges where
  bounds := [
  (0x9, 0xd), (0x20, 0x20), (0x85, 0x85), (0xa0, 0xa0), (0x1680, 0x1680), (0x2000, 0x200a),
  (0x2028, 0x2029), (0x202f, 0x202f), (0x205f, 0x205f), (0x3000, 0x3000)]

def isBlank (c : Char) : Bool :=
  blanks.contains c

theorem isBlank_of_isWhitespace {c : Char} (h : c.isWhitespace = true) : isBlank c = true := by
  simp only [Char.isWhitespace, Bool.or_eq_true, decide_eq_true_eq] at h
  obtain ((rfl | rfl) | rfl) | rfl := h <;> decide

def trimmed (cs : List Char) : List Char :=
  ((cs.dropWhile isBlank).reverse.dropWhile isBlank).reverse

end FrameGraph.Text
