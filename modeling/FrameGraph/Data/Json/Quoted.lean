import FrameGraph.Data.Text

/-!
# Strings in JSON

Between its quotes a string holds characters and escapes. An escape by number stands for a 16-bit
unit, and two units that form a surrogate pair stand for one character.

* `Piece` and `scanPieces`: the inside of a string by the grammar.
* `joinPieces`: the characters it stands for, none when a surrogate has no partner.
* `quote`: a string as it is written.
-/

namespace FrameGraph.Data.Json
set_option autoImplicit false

inductive Piece where
  | char (c : Char)
  | unit (n : Nat)
deriving DecidableEq, Repr

/-! ## Reading -/

/-- The character that a letter after a backslash stands for. -/
def escaped? : Char → Option Char
  | '"' => some '"'
  | '\\' => some '\\'
  | '/' => some '/'
  | 'b' => some '\x08'
  | 'f' => some '\x0c'
  | 'n' => some '\n'
  | 'r' => some '\r'
  | 't' => some '\t'
  | _ => none

/-- The pieces up to the closing quote, and what comes after it. -/
def scanPieces : List Char → Option (List Piece × List Char)
  | [] => none
  | '"' :: rest => some ([], rest)
  | '\\' :: 'u' :: a :: b :: c :: d :: rest =>
    match numeral? 16 [a, b, c, d], scanPieces rest with
    | some n, some (pieces, rest) => some (.unit n :: pieces, rest)
    | _, _ => none
  | '\\' :: c :: rest =>
    match escaped? c, scanPieces rest with
    | some e, some (pieces, rest) => some (.char e :: pieces, rest)
    | _, _ => none
  | c :: rest =>
    if c < ' ' ∨ c = '\\' then none
    else match scanPieces rest with
      | some (pieces, rest) => some (.char c :: pieces, rest)
      | none => none

def isHighSurrogate (n : Nat) : Bool :=
  decide (0xd800 ≤ n) && decide (n < 0xdc00)

def isLowSurrogate (n : Nat) : Bool :=
  decide (0xdc00 ≤ n) && decide (n < 0xe000)

def pairChar (high low : Nat) : Char :=
  Char.ofNat (0x10000 + (high - 0xd800) * 0x400 + (low - 0xdc00))

def joinPieces : List Piece → Option (List Char)
  | [] => some []
  | .char c :: rest => (joinPieces rest).map (c :: ·)
  | .unit high :: .unit low :: rest =>
    if isHighSurrogate high then
      if isLowSurrogate low then (joinPieces rest).map (pairChar high low :: ·) else none
    else if isLowSurrogate high then none
    else (joinPieces (.unit low :: rest)).map (Char.ofNat high :: ·)
  | .unit n :: rest =>
    if isHighSurrogate n || isLowSurrogate n then none
    else (joinPieces rest).map (Char.ofNat n :: ·)

/-- The text after an opening quote; its characters are none when it stands for no text. -/
def scanText (cs : List Char) : Option (Option String × List Char) :=
  (scanPieces cs).map fun (pieces, rest) => ((joinPieces pieces).map String.ofList, rest)

/-! ## Writing -/

def hexDigit (n : Nat) : Char :=
  Nat.digitChar n

/-- One character as it stands between the quotes. -/
def quoteChar (c : Char) : List Char :=
  match c with
  | '"' => ['\\', '"']
  | '\\' => ['\\', '\\']
  | '\x08' => ['\\', 'b']
  | '\x0c' => ['\\', 'f']
  | '\n' => ['\\', 'n']
  | '\r' => ['\\', 'r']
  | '\t' => ['\\', 't']
  | c => if c < ' ' then '\\' :: 'u' :: fourPlaces hexDigit c.toNat else [c]

def quote (s : String) : List Char :=
  '"' :: s.toList.flatMap quoteChar ++ ['"']

end FrameGraph.Data.Json
