import FrameGraph.Number.Floating

/-!
# Data and records of fields

A `Datum` is what a data format writes or reads: a scalar, a list or a record. A `Codec` takes values
of a type to data and back, and a list of `Field`s makes the codec of a structure whose fields all
have defaults.

* `Codec.text`, `Codec.flag`, `Codec.whole`, `Codec.single`, `Codec.choice`, `Codec.optional`, `Codec.pair`.
* `Field.of`: a field by its name, its codec and its place in the structure.
* `Codec.ofFields`: a structure is a record of its fields, or a list of them in order. Fields that
  are not given keep their defaults, entries that no field has are left aside, and a field that is
  given twice is refused.
-/

namespace FrameGraph.Data
set_option autoImplicit false
open Number

inductive Datum where
  | null
  | flag (value : Bool)
  | whole (value : Int)
  | real (value : Double)
  /-- A 32-bit number, as it is written. -/
  | single (value : Single)
  | text (value : String)
  | list (items : List Datum)
  | record (entries : List (String × Datum))
  /-- Well-formed data that stands for no value. Nothing reads it, but it may be left aside. -/
  | unreadable

/-- What a format allows beyond its values. -/
structure Leniency where
  /-- Items of a list that come after the last field may be left aside. -/
  surplusItems : Bool
deriving DecidableEq, Repr

structure Codec (β : Type) where
  read : Leniency → Datum → Option β
  write : β → Datum

namespace Codec
variable {β γ : Type}

def text : Codec String where
  read _
    | .text s => some s
    | _ => none
  write := .text

def flag : Codec Bool where
  read _
    | .flag b => some b
    | _ => none
  write := .flag

/-- Whole numbers below `top`. -/
def natBelow (top : Nat) : Codec Nat where
  read _
    | .whole n => if 0 ≤ n ∧ n < top then some n.toNat else none
    | _ => none
  write n := .whole n

def map (f : β → γ) (g : γ → β) (c : Codec β) : Codec γ where
  read leniency d := (c.read leniency d).map f
  write x := c.write (g x)

def uint64 : Codec UInt64 :=
  (natBelow UInt64.size).map UInt64.ofNat UInt64.toNat

def uint32 : Codec UInt32 :=
  (natBelow UInt32.size).map UInt32.ofNat UInt32.toNat

/-- A 32-bit number is read from any number and rounded to it. -/
def single : Codec Single where
  read _
    | .whole n => some (.ofInt n)
    | .real x => some x.convert
    | .single x => some x
    | _ => none
  write := .single

/-- One of the named values, as its name or as a record from its name to null. -/
def choice (values : List β) (name : β → String) : Codec β where
  read _
    | .text s => values.find? fun v => name v == s
    | .record [(s, .null)] => values.find? fun v => name v == s
    | _ => none
  write v := .text (name v)

/-- Null stands for none. -/
def optional (c : Codec β) : Codec (Option β) where
  read leniency
    | .null => some none
    | d => (c.read leniency d).map some
  write
    | none => .null
    | some x => c.write x

/-- Two values of one kind in a list. -/
def pair (c : Codec β) : Codec (β × β) where
  read leniency
    | .list [a, b] => match c.read leniency a, c.read leniency b with
      | some x, some y => some (x, y)
      | _, _ => none
    | _ => none
  write p := .list [c.write p.1, c.write p.2]

end Codec

/-! ## Fields -/

structure Field (σ : Type) where
  name : String
  /-- The structure with the field read from data. -/
  load : Leniency → Datum → σ → Option σ
  write : σ → Datum

variable {σ β : Type}

def Field.of (name : String) (codec : Codec β) (get : σ → β) (put : β → σ → σ) : Field σ where
  name
  load leniency d s := (codec.read leniency d).map fun x => put x s
  write s := codec.write (get s)

/-- Loads the entries one after the other into the fields of their names. -/
def loadEntries (leniency : Leniency) (fields : List (Field σ)) :
    List (String × Datum) → σ → Option σ
  | [], s => some s
  | (name, d) :: rest, s =>
    match fields.find? fun field => field.name == name with
    | none => loadEntries leniency fields rest s
    | some field => (field.load leniency d s).bind (loadEntries leniency fields rest)

/-- Loads the items into the fields in order. -/
def loadItems (leniency : Leniency) : List (Field σ) → List Datum → σ → Option σ
  | _, [], s => some s
  | [], _ :: _, s => if leniency.surplusItems then some s else none
  | field :: fields, d :: rest, s => (field.load leniency d s).bind (loadItems leniency fields rest)

/-- Whether two of the entries stand for one field. -/
def repeatsField (fields : List (Field σ)) : List (String × Datum) → Bool
  | [] => false
  | (name, _) :: rest =>
    (fields.any fun field => field.name == name) && (rest.any fun entry => entry.1 == name) ||
      repeatsField fields rest

def Codec.ofFields (fields : List (Field σ)) (default : σ) : Codec σ where
  read leniency
    | .record entries =>
      if repeatsField fields entries then none else loadEntries leniency fields entries default
    | .list items => loadItems leniency fields items default
    | _ => none
  write s := .record (fields.map fun field => (field.name, field.write s))

end FrameGraph.Data
