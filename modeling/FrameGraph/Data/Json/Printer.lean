import FrameGraph.Data.Json.Quoted
import FrameGraph.Number.Layout

/-!
# Writing JSON

* `compact`: a value without blanks.
* `pretty`: each item and entry on a line of its own, two blanks further in than what holds it.

Numbers that are not finite are written as null.
-/

namespace FrameGraph.Data.Json
set_option autoImplicit false
open Number

def scalar : Datum → List Char
  | .flag true => "true".toList
  | .flag false => "false".toList
  | .whole n => (toString n).toList
  | .real x => (x.text .json).toList
  | .single x => (x.text .json).toList
  | .text s => quote s
  | _ => "null".toList

mutual

def compact : Datum → List Char
  | .list items => '[' :: (compactItems items ++ [']'])
  | .record entries => '\x7b' :: (compactEntries entries ++ ['\x7d'])
  | d => scalar d

def compactItems : List Datum → List Char
  | [] => []
  | [d] => compact d
  | d :: rest => compact d ++ ',' :: compactItems rest

def compactEntries : List (String × Datum) → List Char
  | [] => []
  | [(name, d)] => quote name ++ ':' :: compact d
  | (name, d) :: rest => quote name ++ ':' :: (compact d ++ ',' :: compactEntries rest)

end

def newLine (depth : Nat) : List Char :=
  '\n' :: List.replicate (2 * depth) ' '

mutual

def pretty (depth : Nat) : Datum → List Char
  | .list [] => ['[', ']']
  | .list items => '[' :: (prettyItems (depth + 1) items ++ newLine depth ++ [']'])
  | .record [] => ['\x7b', '\x7d']
  | .record entries =>
    '\x7b' :: (prettyEntries (depth + 1) entries ++ newLine depth ++ ['\x7d'])
  | d => scalar d

def prettyItems (depth : Nat) : List Datum → List Char
  | [] => []
  | [d] => newLine depth ++ pretty depth d
  | d :: rest => newLine depth ++ pretty depth d ++ ',' :: prettyItems depth rest

def prettyEntries (depth : Nat) : List (String × Datum) → List Char
  | [] => []
  | [(name, d)] => newLine depth ++ quote name ++ ':' :: ' ' :: pretty depth d
  | (name, d) :: rest =>
    newLine depth ++ quote name ++ ':' :: ' ' :: (pretty depth d ++ ',' :: prettyEntries depth rest)

end

end FrameGraph.Data.Json
