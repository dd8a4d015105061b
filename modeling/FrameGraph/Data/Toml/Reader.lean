import FrameGraph.Data.Toml.Number
import FrameGraph.Data.Toml.Quoted
import FrameGraph.Data.Toml.Table

/-!
# Reading TOML

A document is a sequence of lines: headers, assignments, comments and empty lines. `scanLine` reads
one of them, and `Line.apply` adds it to the tables read so far.

* `read?`: the record of a document, none when a line is malformed or contradicts an earlier one.
-/

namespace FrameGraph.Data.Toml
set_option autoImplicit false

/-! ## Keys -/

def isBare (c : Char) : Bool :=
  isDigit c || (decide ('a' ≤ c) && decide (c ≤ 'z')) || (decide ('A' ≤ c) && decide (c ≤ 'Z')) ||
    c == '_' || c == '-'

def scanKey? : List Char → Option (String × List Char)
  | '"' :: rest => (scanBasic rest).map fun (cs, rest) => (String.ofList cs, rest)
  | '\'' :: rest => (scanLiteral rest).map fun (cs, rest) => (String.ofList cs, rest)
  | cs => match cs.takeWhile isBare with
    | [] => none
    | key => some (String.ofList key, cs.dropWhile isBare)

/-- Levels of nested values, and keys on one path. -/
def depthLimit : Nat := 79

/-- The keys of a path, at most `room` of them: those before the last, and the last. -/
def scanPath? : Nat → List Char → Option ((List String × String) × List Char)
  | 0, _ => none
  | room + 1, cs => do
    let (key, rest) ← scanKey? (skipBlanks cs)
    match skipBlanks rest with
    | '.' :: rest =>
      let ((path, last), rest) ← scanPath? room rest
      return ((key :: path, last), rest)
    | rest => return (([], key), rest)

/-! ## Values -/

def skipComment : List Char → List Char
  | '#' :: rest => rest.dropWhile isPlain
  | cs => cs

def skipLines : Nat → List Char → List Char
  | 0, cs => cs
  | fuel + 1, cs => match skipBlanks cs with
    | '\n' :: rest => skipLines fuel rest
    | '#' :: rest => match rest.dropWhile isPlain with
      | '\n' :: rest => skipLines fuel rest
      | _ => '#' :: rest
    | rest => rest

/-- The table of entries between braces. -/
def bracedDatum (entries : List ((List String × String) × Datum)) : Option Datum :=
  (entries.foldlM (fun table ((path, key), d) => assign path key d .defined table) []).map
    fun table => .record (entriesData table)

mutual

/-- One value, nested at most `room` levels deep. Each call takes one unit of fuel. -/
def scanValue : (fuel room : Nat) → List Char → Option (Datum × List Char)
  | 0, _, _ => none
  | fuel + 1, room, cs =>
    match cs with
    | '[' :: rest => match room with
      | 0 => none
      | room + 1 => match skipLines rest.length rest with
        | ']' :: rest => some (.list [], rest)
        | rest => (scanItems fuel room rest).map fun (items, rest) => (.list items, rest)
    | '\x7b' :: rest => match room with
      | 0 => none
      | room + 1 => match skipBlanks rest with
        | '\x7d' :: rest => some (.record [], rest)
        | rest => (scanEntries fuel room rest).bind fun (entries, rest) =>
          (bracedDatum entries).map fun d => (d, rest)
    | 't' :: rest => (afterWord ['r', 'u', 'e'] rest).map fun rest => (.flag true, rest)
    | 'f' :: rest => (afterWord ['a', 'l', 's', 'e'] rest).map fun rest => (.flag false, rest)
    | c :: rest =>
      if c = '"' ∨ c = '\'' then
        (scanString (c :: rest)).map fun (cs, rest) => (.text (String.ofList cs), rest)
      else scanNumber? (c :: rest)
    | [] => none

/-- The items of a list, one or more, up to its end; a comma may follow the last one. -/
def scanItems : (fuel room : Nat) → List Char → Option (List Datum × List Char)
  | 0, _, _ => none
  | fuel + 1, room, cs => do
    let (item, rest) ← scanValue fuel room (skipLines cs.length cs)
    match skipLines rest.length rest with
    | ']' :: rest => return ([item], rest)
    | ',' :: rest => match skipLines rest.length rest with
      | ']' :: rest => return ([item], rest)
      | rest =>
        let (items, rest) ← scanItems fuel room rest
        return (item :: items, rest)
    | _ => none

/-- The entries between braces, one or more, all on one line. -/
def scanEntries : (fuel room : Nat) → List Char →
    Option (List ((List String × String) × Datum) × List Char)
  | 0, _, _ => none
  | fuel + 1, room, cs => do
    let (path, rest) ← scanPath? depthLimit cs
    let '=' :: rest := rest | none
    let (d, rest) ← scanValue fuel room (skipBlanks rest)
    match skipBlanks rest with
    | '\x7d' :: rest => return ([(path, d)], rest)
    | ',' :: rest =>
      let (entries, rest) ← scanEntries fuel room rest
      return ((path, d) :: entries, rest)
    | _ => none

end

/-! ## Lines -/

inductive Line where
  /-- A comment or an empty line. -/
  | empty
  | header (path : List String) (key : String)
  | repeatedHeader (path : List String) (key : String)
  | assignment (path : List String) (key : String) (d : Datum)

/-- Skips what may follow in a line, and its end. -/
def endLine? (cs : List Char) : Option (List Char) :=
  match skipComment (skipBlanks cs) with
  | [] => some []
  | '\n' :: rest => some rest
  | _ => none

def scanLine (cs : List Char) : Option (Line × List Char) :=
  match skipBlanks cs with
  | [] => some (.empty, [])
  | '\n' :: rest => some (.empty, rest)
  | '#' :: rest => (endLine? ('#' :: rest)).map fun rest => (.empty, rest)
  | '[' :: '[' :: rest => do
    let ((path, key), rest) ← scanPath? depthLimit rest
    let rest ← afterWord [']', ']'] rest
    let rest ← endLine? rest
    return (.repeatedHeader path key, rest)
  | '[' :: rest => do
    let ((path, key), rest) ← scanPath? depthLimit rest
    let rest ← afterWord [']'] rest
    let rest ← endLine? rest
    return (.header path key, rest)
  | cs => do
    let ((path, key), rest) ← scanPath? depthLimit cs
    let rest ← afterWord ['='] rest
    let (d, rest) ← scanValue (2 * rest.length + 2) depthLimit (skipBlanks rest)
    let rest ← endLine? rest
    return (.assignment path key d, rest)

/-- The tables read so far, and the header under which the next lines stand. -/
structure Document where
  header : List String := []
  root : Entries := []

def Line.apply (doc : Document) : Line → Option Document
  | .empty => some doc
  | .header path key => (openTable path key doc.root).map fun root => ⟨path ++ [key], root⟩
  | .repeatedHeader path key =>
    (openRepeated path key doc.root).map fun root => ⟨path ++ [key], root⟩
  | .assignment path key d =>
    (assignIn doc.header path key d doc.root).map fun root => { doc with root }

def scanLines : Nat → Document → List Char → Option Document
  | _, doc, [] => some doc
  | 0, _, _ :: _ => none
  | fuel + 1, doc, cs => do
    let (line, rest) ← scanLine cs
    scanLines fuel (← line.apply doc) rest

/-! ## Documents -/

/-- Line ends of two characters become one. -/
def unifyLineEnds : List Char → List Char
  | '\r' :: '\n' :: rest => '\n' :: unifyLineEnds rest
  | c :: rest => c :: unifyLineEnds rest
  | [] => []

/-- Skips the mark that may open a text. -/
def skipMark : List Char → List Char
  | '\ufeff' :: rest => rest
  | cs => cs

def read? (text : String) : Option Datum :=
  let cs := unifyLineEnds (skipMark text.toList)
  (scanLines cs.length {} cs).map fun doc => .record (entriesData doc.root)

end FrameGraph.Data.Toml
