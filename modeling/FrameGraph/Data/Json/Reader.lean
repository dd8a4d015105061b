import FrameGraph.Data.Json.Number
import FrameGraph.Data.Json.Quoted

/-!
# Reading JSON

`read?` takes a text that holds one value between blanks. Strings with a broken surrogate pair,
numbers out of range and records with such strings for names are well-formed, but nothing can be
made of them: they become `Datum.unreadable`.
-/

namespace FrameGraph.Data.Json
set_option autoImplicit false

def isBlank (c : Char) : Bool :=
  c == ' ' || c == '\n' || c == '\t' || c == '\r'

def skipBlanks (cs : List Char) : List Char :=
  cs.dropWhile isBlank

/-- A record from its entries, whose names may be unreadable. -/
def recordOf (entries : List (Option String × Datum)) : Datum :=
  match entries.mapM fun entry => entry.1.map fun name => (name, entry.2) with
  | some entries => .record entries
  | none => .unreadable

/-- Reads `word`, which stands for `d`. -/
def scanWord (word : String) (d : Datum) (cs : List Char) : Option (Datum × List Char) :=
  (afterWord word.toList cs).map fun rest => (d, rest)

def scanNumber (cs : List Char) : Option (Datum × List Char) :=
  (Numeral.scan cs).map fun (n, rest) => (n.datum, rest)

mutual

/-- One value. Each call takes one unit of fuel and at least one character, or ends. -/
def scanValue : Nat → List Char → Option (Datum × List Char)
  | 0, _ => none
  | fuel + 1, cs =>
    match skipBlanks cs with
    | '\x7b' :: rest => match skipBlanks rest with
      | '\x7d' :: rest => some (.record [], rest)
      | rest => (scanEntries fuel rest).map fun (entries, rest) => (recordOf entries, rest)
    | '[' :: rest => match skipBlanks rest with
      | ']' :: rest => some (.list [], rest)
      | rest => (scanItems fuel rest).map fun (items, rest) => (.list items, rest)
    | '"' :: rest => (scanText rest).map fun
      | (some s, rest) => (.text s, rest)
      | (none, rest) => (.unreadable, rest)
    | 'n' :: rest => scanWord "ull" .null rest
    | 't' :: rest => scanWord "rue" (.flag true) rest
    | 'f' :: rest => scanWord "alse" (.flag false) rest
    | rest => scanNumber rest

/-- The items of a list, one or more, up to its end. -/
def scanItems : Nat → List Char → Option (List Datum × List Char)
  | 0, _ => none
  | fuel + 1, cs => do
    let (item, rest) ← scanValue fuel cs
    match skipBlanks rest with
    | ']' :: rest => return ([item], rest)
    | ',' :: rest =>
      let (items, rest) ← scanItems fuel rest
      return (item :: items, rest)
    | _ => none

/-- The entries of a record, one or more, up to its end. -/
def scanEntries : Nat → List Char → Option (List (Option String × Datum) × List Char)
  | 0, _ => none
  | fuel + 1, cs => do
    let '"' :: rest := skipBlanks cs | none
    let (name, rest) ← scanText rest
    let ':' :: rest := skipBlanks rest | none
    let (value, rest) ← scanValue fuel rest
    match skipBlanks rest with
    | '\x7d' :: rest => return ([(name, value)], rest)
    | ',' :: rest =>
      let (entries, rest) ← scanEntries fuel rest
      return ((name, value) :: entries, rest)
    | _ => none

end

/-- The value of a text, none when the text is not one value. -/
def read? (text : String) : Option Datum := do
  let cs := text.toList
  let (value, rest) ← scanValue (2 * cs.length + 2) cs
  if (skipBlanks rest).isEmpty then some value else none

end FrameGraph.Data.Json
