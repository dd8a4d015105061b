import FrameGraph.Text.Combining
import FrameGraph.Text.Invisible
import FrameGraph.Text.Unassigned

/-!
# Quoted text

Names inside lists and reports stand between double quotes. A backslash stands before a quote and
before a backslash, the common control characters have letters of their own, and every other
character that would not stand there as one of its own is written by its code point.
-/

namespace FrameGraph.Text
set_option autoImplicit false

/-- Whether a character is shown, and shown apart from the one before it. -/
def isPrintable (c : Char) : Bool :=
  !isInvisible c && !isCombining c && !isUnassigned c

/-- One character as it stands between quotes. -/
def quoteChar (c : Char) : List Char :=
  match c with
  | '"' => ['\\', '"']
  | '\\' => ['\\', '\\']
  | '\n' => ['\\', 'n']
  | '\r' => ['\\', 'r']
  | '\t' => ['\\', 't']
  | '\x00' => ['\\', '0']
  | c =>
    if isPrintable c then [c]
    else ['\\', 'u', '\x7b'] ++ Nat.toDigits 16 c.toNat ++ ['\x7d']

def quote (s : String) : String :=
  String.ofList ('"' :: s.toList.flatMap quoteChar ++ ['"'])

def bracketed (items : List String) : String :=
  "[" ++ ", ".intercalate items ++ "]"

end FrameGraph.Text
