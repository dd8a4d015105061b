import FrameGraph.Data.Datum
import FrameGraph.Data.Text
import FrameGraph.Number.Layout

/-!
# Writing TOML

* `quote`: a string in the plainest form that can hold it.
* `document?`: a record of records, as one table after the other. Null entries are left out, and a
  whole number that does not fit 64 signed bits cannot be written.
-/

namespace FrameGraph.Data.Toml
set_option autoImplicit false
open Number

/-! ## Strings -/

/-- Characters that no string can hold as they are. -/
def isControl (c : Char) : Bool :=
  (decide (c < ' ') || c == '\x7f') && c != '\t' && c != '\n'

def longestRun (c : Char) (cs : List Char) : Nat :=
  (cs.foldl (fun (run : Nat × Nat) d =>
    let here := if d = c then run.1 + 1 else 0
    (here, max run.2 here)) (0, 0)).2

/-- The escape of a character between double quotes, if it needs one. -/
def escape? (long : Bool) (c : Char) : Option (List Char) :=
  match c with
  | '\x08' => some ['\\', 'b']
  | '\t' => some ['\\', 't']
  | '\n' => if long then none else some ['\\', 'n']
  | '\x0c' => some ['\\', 'f']
  | '\r' => some ['\\', 'r']
  | '\\' => some ['\\', '\\']
  | c => if isControl c then some ('\\' :: 'u' :: fourPlaces (fun n => (Nat.digitChar n).toUpper) c.toNat)
    else none

/-- The inside of a basic string. At most `allowed` double quotes may stand in a row, of which `row`
have just been written. -/
def escapeAll (long : Bool) (allowed row : Nat) : List Char → List Char
  | [] => []
  | '"' :: rest =>
    if row < allowed then '"' :: escapeAll long allowed (row + 1) rest
    else '\\' :: '"' :: escapeAll long allowed 0 rest
  | c :: rest => (escape? long c).getD [c] ++ escapeAll long allowed 0 rest

def basic (cs : List Char) : List Char :=
  '"' :: escapeAll false 0 0 cs ++ ['"']

def literal (cs : List Char) : List Char :=
  '\'' :: cs ++ ['\'']

/-- The line end that opens a long string of several lines. -/
def opening (cs : List Char) : List Char :=
  if cs.contains '\n' then ['\n'] else []

def longBasic (cs : List Char) : List Char :=
  ['"', '"', '"'] ++ opening cs ++ escapeAll true 2 0 cs ++ ['"', '"', '"']

def longLiteral (cs : List Char) : List Char :=
  ['\'', '\'', '\''] ++ opening cs ++ cs ++ ['\'', '\'', '\'']

/-- The first form that needs no escapes, and one with escapes if there is none. -/
def quote (s : String) : List Char :=
  let cs := s.toList
  let controls := cs.any isControl
  let slashes := cs.contains '\\'
  let lines := cs.contains '\n'
  let doubles := longestRun '"' cs
  let singles := longestRun '\'' cs
  if !controls && !slashes && !lines && doubles == 0 then basic cs
  else if !controls && !lines && singles == 0 then literal cs
  else if !controls && !slashes && doubles ≤ 2 then longBasic cs
  else if !controls && singles ≤ 2 then longLiteral cs
  else if lines then longBasic cs
  else basic cs

/-! ## Tables -/

/-- A value in an assignment, none when it cannot be written. -/
def scalar? : Datum → Option (List Char)
  | .flag true => some "true".toList
  | .flag false => some "false".toList
  | .whole n => if n < (UInt64.size / 2 : Nat) then some (toString n).toList else none
  | .real x => some (x.text .toml).toList
  | .single x => some ((x.convert : Double).text .toml).toList
  | .text s => some (quote s)
  | _ => none

def assignments? : List (String × Datum) → Option (List Char)
  | [] => some []
  | (_, .null) :: rest => assignments? rest
  | (name, d) :: rest => do
    let value ← scalar? d
    let more ← assignments? rest
    return name.toList ++ [' ', '=', ' '] ++ value ++ '\n' :: more

def table? (name : String) : Datum → Option (List Char)
  | .record entries =>
    (assignments? entries).map fun lines => '[' :: name.toList ++ ']' :: '\n' :: lines
  | _ => none

/-- Tables with an empty line between them. -/
def tables? : List (String × Datum) → Option (List Char)
  | [] => some []
  | [(name, d)] => table? name d
  | (name, d) :: rest => do
    let first ← table? name d
    let more ← tables? rest
    return first ++ '\n' :: more

def document? : Datum → Option String
  | .record entries => (tables? entries).map String.ofList
  | _ => none

end FrameGraph.Data.Toml
