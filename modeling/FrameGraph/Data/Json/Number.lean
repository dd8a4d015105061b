import FrameGraph.Data.Text

/-!
# Numbers in JSON

A numeral without fraction and exponent is a whole number as long as it fits 64 bits, unsigned when
it is positive and signed when it is negative. Every other numeral is a 64-bit floating number.

* `Numeral.scan`: the parts of a numeral by the grammar.
* `Numeral.datum`: its value. The *significand* holds as many leading digits as fit 64 bits; it is
  rounded, and then scaled by a power of ten and rounded again.
-/

namespace FrameGraph.Data.Json
set_option autoImplicit false
open Number

structure Numeral where
  negative : Bool
  whole : List Char
  fraction : Option (List Char)
  /-- Whether the exponent is negative, and its digits. -/
  exponent : Option (Bool × List Char)
deriving DecidableEq, Repr

namespace Numeral

/-! ## Grammar -/

def scanWhole : List Char → Option (List Char × List Char)
  | '0' :: rest => some (['0'], rest)
  | cs => match spanDigits cs with
    | ([], _) => none
    | (digits, rest) => some (digits, rest)

def scanFraction : List Char → Option (Option (List Char) × List Char)
  | '.' :: rest => match spanDigits rest with
    | ([], _) => none
    | (digits, rest) => some (some digits, rest)
  | cs => some (none, cs)

def scanSign : List Char → Bool × List Char
  | '-' :: rest => (true, rest)
  | '+' :: rest => (false, rest)
  | cs => (false, cs)

def scanExponent : List Char → Option (Option (Bool × List Char) × List Char)
  | c :: rest =>
    if c = 'e' ∨ c = 'E' then
      let (negative, rest) := scanSign rest
      match spanDigits rest with
      | ([], _) => none
      | (digits, rest) => some (some (negative, digits), rest)
    else some (none, c :: rest)
  | [] => some (none, [])

def scan (cs : List Char) : Option (Numeral × List Char) := do
  let (negative, cs) := match cs with
    | '-' :: rest => (true, rest)
    | cs => (false, cs)
  let (whole, cs) ← scanWhole cs
  let (fraction, cs) ← scanFraction cs
  let (exponent, cs) ← scanExponent cs
  return (⟨negative, whole, fraction, exponent⟩, cs)

/-! ## Value -/

/-- Extends a significand by the leading digits that still fit 64 bits, and counts the others. -/
def accumulate (significand : Nat) : List Char → Nat × Nat
  | [] => (significand, 0)
  | c :: rest =>
    let next := significand * 10 + (c.toNat - '0'.toNat)
    if next < UInt64.size then accumulate next rest else (significand, rest.length + 1)

def powerOfTen (e : Nat) : Double :=
  .ofNat (tenTo e)

/-- The largest power of ten that is a finite floating number. -/
def topPower : Nat := 308

/-- A magnitude scaled by a power of ten, none when it overflows. Below `topPower` it is divided
twice, and further down nothing is left of it. -/
def scale (significand : Nat) (exponent : Int) : Option Double :=
  let x : Double := .ofNat significand
  let e := exponent.natAbs
  if 0 ≤ exponent then
    if significand = 0 then some x
    else if e ≤ topPower then
      let y := x.mul (powerOfTen e)
      if y.isFinite then some y else none
    else none
  else if e ≤ topPower then some (x.div (powerOfTen e))
  else if e ≤ 2 * topPower then
    some ((x.div (powerOfTen topPower)).div (powerOfTen (e - topPower)))
  else some (.zero false)

/-- Exponents beyond 32 bits are not added up: they give zero or overflow at once. -/
def exponentTop : Nat := UInt32.size / 2 - 1

/-- The magnitude of a numeral as a floating number, none when it overflows. -/
def magnitude (n : Numeral) : Option Double :=
  let (significand, skipped) := accumulate 0 n.whole
  let digits := n.fraction.getD []
  let (significand, unread) := accumulate significand digits
  let start : Int := skipped - (digits.length - unread : Nat)
  match n.exponent with
  | none => scale significand start
  | some (negative, power) =>
    let power := decimalValue power
    if exponentTop < power then
      if negative ∨ significand = 0 then some (.zero false) else none
    else scale significand (if negative then start - power else start + power)

def negate : Double → Double
  | .nan => .nan
  | .signed s rank => .signed (!s) rank

/-- The whole number that a numeral is written as, if it fits 64 bits. -/
def integer? (n : Numeral) : Option Int :=
  if n.fraction.isSome ∨ n.exponent.isSome then none
  else
    let value := decimalValue n.whole
    if n.negative then
      if 0 < value ∧ value ≤ UInt64.size / 2 then some (-(value : Int)) else none
    else if value < UInt64.size then some value else none

def datum (n : Numeral) : Datum :=
  match n.integer? with
  | some value => .whole value
  | none => match n.magnitude with
    | some x => .real (if n.negative then negate x else x)
    | none => .unreadable

end Numeral

end FrameGraph.Data.Json
