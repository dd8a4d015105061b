import FrameGraph.Data.Datum

/-!
# Tables of a TOML document

A table comes into being by its own header or braces, as a step on the path of another table's
header, or as a step of a dotted key. How it came into being says what may be added to it later:

* a dotted key passes through tables made by headers' or keys' paths, never through one that has a
  header of its own, and it adds its value only to a table that dotted keys have made;
* a header may be given once for each table, and not for a table that dotted keys have made.

`Table.assign`, `Table.open` and `Table.append` are the three changes, and `Table.datum` the record.
-/

namespace FrameGraph.Data.Toml
set_option autoImplicit false

inductive Origin where
  /-- By a header of its own, or by braces. -/
  | defined
  /-- On the path of a header. -/
  | implied
  /-- On the path of a dotted key. -/
  | dotted
deriving DecidableEq, Repr

inductive Item where
  | value (d : Datum)
  | table (origin : Origin) (entries : List (String × Item))
  /-- The tables of repeated headers, the last one first. -/
  | tables (elements : List (List (String × Item)))

abbrev Entries := List (String × Item)

namespace Entries

def get? (key : String) : Entries → Option Item
  | [] => none
  | (name, item) :: rest => if name = key then some item else get? key rest

/-- Puts an item in place of the one with the same key, or at the end. -/
def put (key : String) (item : Item) : Entries → Entries
  | [] => [(key, item)]
  | (name, old) :: rest =>
    if name = key then (name, item) :: rest else (name, old) :: put key item rest

/-- Adds an entry whose key is new. -/
def add? (key : String) (item : Item) (entries : Entries) : Option Entries :=
  match get? key entries with
  | none => some (put key item entries)
  | some _ => none

end Entries

/-- Changes the table at the end of a path. Steps that do not exist yet are made, and of repeated
tables the last one is meant. A dotted path makes dotted tables and passes by no defined one. -/
def descend (dotted : Bool) (act : Origin → Entries → Option Entries) :
    List String → Origin → Entries → Option Entries
  | [], origin, entries => act origin entries
  | key :: path, _, entries =>
    match entries.get? key with
    | none =>
      let origin := if dotted then Origin.dotted else Origin.implied
      (descend dotted act path origin []).map fun sub => entries.put key (.table origin sub)
    | some (.value _) => none
    | some (.table origin sub) =>
      if dotted && origin == .defined then none
      else (descend dotted act path origin sub).map fun sub => entries.put key (.table origin sub)
    | some (.tables []) => none
    | some (.tables (last :: earlier)) =>
      (descend dotted act path .defined last).map fun last =>
        entries.put key (.tables (last :: earlier))

/-- Gives a value to a key, after the steps of a dotted key. -/
def assign (path : List String) (key : String) (d : Datum) (origin : Origin) (entries : Entries) :
    Option Entries :=
  descend true (fun origin entries =>
    if (origin == .dotted) == path.isEmpty then none else entries.add? key (.value d))
    path origin entries

/-- Gives a value to a key in the table of a header. -/
def assignIn (header path : List String) (key : String) (d : Datum) (root : Entries) :
    Option Entries :=
  descend false (assign path key d) header .defined root

def openTable (path : List String) (key : String) (root : Entries) : Option Entries :=
  descend false (fun _ entries =>
    match entries.get? key with
    | none => some (entries.put key (.table .defined []))
    | some (.table .implied sub) => some (entries.put key (.table .defined sub))
    | some _ => none)
    path .defined root

/-- Opens one more of the tables of a repeated header. -/
def openRepeated (path : List String) (key : String) (root : Entries) : Option Entries :=
  descend false (fun _ entries =>
    match entries.get? key with
    | none => some (entries.put key (.tables [[]]))
    | some (.tables elements) => some (entries.put key (.tables ([] :: elements)))
    | some _ => none)
    path .defined root

/-! ## As data -/

mutual

def Item.datum : Item → Datum
  | .value d => d
  | .table _ entries => .record (entriesData entries)
  | .tables elements => .list (elementsData elements).reverse

def entriesData : List (String × Item) → List (String × Datum)
  | [] => []
  | (key, item) :: rest => (key, item.datum) :: entriesData rest

def elementsData : List (List (String × Item)) → List Datum
  | [] => []
  | entries :: rest => .record (entriesData entries) :: elementsData rest

end

end FrameGraph.Data.Toml
