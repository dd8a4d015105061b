import FrameGraph.Data.Datum

/-!
# Records of tables

Data of two levels: a record whose entries are tables, each of which is a record of scalars and nulls.
Both formats hold such data, each in its own way.

* `Scalar`: the values that stand in a table.
* `tablesDatum`: a record of tables.
-/

namespace FrameGraph.Data
set_option autoImplicit false
open Number

inductive Scalar : Datum → Prop where
  | flag (b : Bool) : Scalar (.flag b)
  | natural (n : Nat) : Scalar (.whole n)
  | single (x : Single) : Scalar (.single x)
  | text (s : String) : Scalar (.text s)

abbrev Table := List (String × Datum)

def tableEntries (tables : List (String × Table)) : List (String × Datum) :=
  tables.map fun t => (t.1, .record t.2)

/-- A record of tables as data. -/
def tablesDatum (tables : List (String × Table)) : Datum :=
  .record (tableEntries tables)

end FrameGraph.Data
