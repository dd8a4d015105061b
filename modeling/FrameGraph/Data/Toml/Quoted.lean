import FrameGraph.Data.Text

/-!
# Strings in TOML

A basic string stands between double quotes and knows escapes, a literal one stands between single
quotes and knows none. Either may run over several lines between tripled quotes. Line ends are
single characters here: `Toml.Reader` unifies them first.

* `scanString`: a string of any form, after the text has been seen to start with a quote.
* `scanBasic`, `scanLiteral`: the forms on one line, which also serve as keys.
-/

namespace FrameGraph.Data.Toml
set_option autoImplicit false

def isBlank (c : Char) : Bool :=
  c == ' ' || c == '\t'

def skipBlanks (cs : List Char) : List Char :=
  cs.dropWhile isBlank

/-- Characters that may stand in a line: all but control characters, tabs excepted. -/
def isPlain (c : Char) : Bool :=
  c == '\t' || (decide (' ' ≤ c) && c != '\x7f')

/-- The character that a letter after a backslash stands for. -/
def escaped? : Char → Option Char
  | 'b' => some '\x08'
  | 't' => some '\t'
  | 'n' => some '\n'
  | 'f' => some '\x0c'
  | 'r' => some '\r'
  | '"' => some '"'
  | '\\' => some '\\'
  | _ => none

/-- The character that a number in hexadecimal digits stands for. -/
def coded? (digits : List Char) : Option Char :=
  (numeral? 16 digits).bind fun n => if n.isValidChar then some (Char.ofNat n) else none

/-- One more character in front of what has been read. -/
def consRead (c : Option Char) (r : Option (List Char × List Char)) :
    Option (List Char × List Char) :=
  match c, r with
  | some c, some (cs, rest) => some (c :: cs, rest)
  | _, _ => none

/-! ## On one line -/

/-- The inside of a basic string, after its opening quote. -/
def scanBasic : List Char → Option (List Char × List Char)
  | [] => none
  | '"' :: rest => some ([], rest)
  | '\\' :: 'u' :: a :: b :: c :: d :: rest => consRead (coded? [a, b, c, d]) (scanBasic rest)
  | '\\' :: 'U' :: a :: b :: c :: d :: e :: f :: g :: h :: rest =>
    consRead (coded? [a, b, c, d, e, f, g, h]) (scanBasic rest)
  | '\\' :: c :: rest => consRead (escaped? c) (scanBasic rest)
  | c :: rest => if isPlain c && c != '\\' then consRead (some c) (scanBasic rest) else none

/-- The inside of a literal string, after its opening quote. -/
def scanLiteral : List Char → Option (List Char × List Char)
  | [] => none
  | '\'' :: rest => some ([], rest)
  | c :: rest => if isPlain c then consRead (some c) (scanLiteral rest) else none

/-! ## Over several lines -/

/-- After three closing quotes: up to two more belong to the string. -/
def closing (quote : Char) : List Char → List Char × List Char
  | a :: b :: rest =>
    if a = quote then if b = quote then ([a, b], rest) else ([a], b :: rest) else ([], a :: b :: rest)
  | [a] => if a = quote then ([a], []) else ([], [a])
  | [] => ([], [])

/-- Whether nothing but blanks comes before the next line end. -/
def endsLine (cs : List Char) : Bool :=
  (skipBlanks cs).head? == some '\n'

/-- The inside of a long basic string. A backslash at the end of a line removes the line end and all
blanks and line ends after it; `trim` says that such a backslash has just been read. -/
def scanLongBasic (trim : Bool) : List Char → Option (List Char × List Char)
  | [] => none
  | '"' :: '"' :: '"' :: rest => some (closing '"' rest)
  | '\\' :: 'u' :: a :: b :: c :: d :: rest =>
    consRead (coded? [a, b, c, d]) (scanLongBasic false rest)
  | '\\' :: 'U' :: a :: b :: c :: d :: e :: f :: g :: h :: rest =>
    consRead (coded? [a, b, c, d, e, f, g, h]) (scanLongBasic false rest)
  | '\\' :: c :: rest =>
    if isBlank c || c == '\n' then
      if endsLine (c :: rest) then scanLongBasic true rest else none
    else consRead (escaped? c) (scanLongBasic false rest)
  | c :: rest =>
    if trim && (isBlank c || c == '\n') then scanLongBasic true rest
    else if (isPlain c || c == '\n') && c != '\\' then
      consRead (some c) (scanLongBasic false rest)
    else none

/-- The inside of a long literal string. -/
def scanLongLiteral : List Char → Option (List Char × List Char)
  | [] => none
  | '\'' :: '\'' :: '\'' :: rest => some (closing '\'' rest)
  | c :: rest =>
    if isPlain c || c == '\n' then consRead (some c) (scanLongLiteral rest) else none

/-- A line end right after the opening quotes does not belong to the string. -/
def skipFirstLineEnd : List Char → List Char
  | '\n' :: rest => rest
  | cs => cs

def scanString : List Char → Option (List Char × List Char)
  | '"' :: '"' :: '"' :: rest => scanLongBasic false (skipFirstLineEnd rest)
  | '"' :: rest => scanBasic rest
  | '\'' :: '\'' :: '\'' :: rest => scanLongLiteral (skipFirstLineEnd rest)
  | '\'' :: rest => scanLiteral rest
  | _ => none

end FrameGraph.Data.Toml
