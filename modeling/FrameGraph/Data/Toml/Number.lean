import FrameGraph.Data.Text

/-!
# Numbers and moments in TOML

* `scanInteger?`: whole numbers of 64 bits, in decimal with a sign or in another base after `0x`,
  `0o` or `0b`. One underscore may stand between two digits.
* `scanNumeral?`, `scanNamed?`: floating numbers, rounded to nearest. A numeral that overflows upwards is refused.
* `scanMoment?`: dates, times and both, with their ranges.
-/

namespace FrameGraph.Data.Toml
set_option autoImplicit false
open Number

/-! ## Digits -/

/-- The digits at the start of a text, without the underscores between them. -/
def spanGroups (isDigit : Char → Bool) : List Char → List Char × List Char
  | [] => ([], [])
  | [c] => if isDigit c then ([c], []) else ([], [c])
  | c :: d :: rest =>
    if isDigit c then
      if d = '_' then match rest with
        | [] => ([c], ['_'])
        | e :: _ =>
          if isDigit e then
            let (digits, rest) := spanGroups isDigit rest
            (c :: digits, rest)
          else ([c], d :: rest)
      else
        let (digits, rest) := spanGroups isDigit (d :: rest)
        (c :: digits, rest)
    else ([], c :: d :: rest)

def scanSign : List Char → Bool × List Char
  | '-' :: rest => (true, rest)
  | '+' :: rest => (false, rest)
  | cs => (false, cs)

/-- Decimal digits without needless zeros in front. -/
def scanWhole? : List Char → Option (List Char × List Char)
  | '0' :: rest => some (['0'], rest)
  | cs => match spanGroups isDigit cs with
    | ([], _) => none
    | (digits, rest) => some (digits, rest)

/-- Decimal digits, one at least. -/
def scanDigits? (cs : List Char) : Option (List Char × List Char) :=
  match spanGroups isDigit cs with
  | ([], _) => none
  | (digits, rest) => some (digits, rest)

/-! ## Whole numbers -/

def isBelowBase (base : Nat) (c : Char) : Bool :=
  match hexValue? c with
  | some d => decide (d < base)
  | none => false

/-- A number in another base, after the mark of the base. -/
def scanBased? (base : Nat) (cs : List Char) : Option (Int × List Char) := do
  let (digits, rest) := spanGroups (isBelowBase base) cs
  let value ← numeral? base digits
  if digits.isEmpty ∨ UInt64.size / 2 ≤ value then none else some (value, rest)

def scanDecimal? (cs : List Char) : Option (Int × List Char) := do
  let (negative, cs) := scanSign cs
  let (digits, rest) ← scanWhole? cs
  let value := decimalValue digits
  if negative then
    if value ≤ UInt64.size / 2 then some (-(value : Int), rest) else none
  else if value < UInt64.size / 2 then some (value, rest) else none

def scanInteger? : List Char → Option (Int × List Char)
  | '0' :: 'x' :: rest => scanBased? 16 rest
  | '0' :: 'o' :: rest => scanBased? 8 rest
  | '0' :: 'b' :: rest => scanBased? 2 rest
  | cs => scanDecimal? cs

/-! ## Floating numbers -/

/-- A power of ten above every finite number of the format. -/
def overflowPower : Int := 400

/-- The number nearest to `digits * 10 ^ power`. Far outside the range of the format it is zero or
infinity, and the power of ten is not worked out. -/
def nearest (negative : Bool) (digits : List Char) (power : Int) : Double :=
  let digits := digits.dropWhile (· == '0')
  let n := decimalValue digits
  let exponent := power + digits.length
  if n = 0 ∨ exponent < -overflowPower then .zero negative
  else if overflowPower < exponent then .infinite negative
  else if power < 0 then .ofQuotient negative n (tenTo power.natAbs)
  else .ofQuotient negative (n * tenTo power.natAbs) 1

def scanFraction? : List Char → Option (List Char × List Char)
  | '.' :: rest => scanDigits? rest
  | _ => none

def scanExponent? : List Char → Option (Int × List Char)
  | c :: rest =>
    if c = 'e' ∨ c = 'E' then do
      let (negative, rest) := scanSign rest
      let (digits, rest) ← scanDigits? rest
      let value : Int := decimalValue digits
      return (if negative then -value else value, rest)
    else none
  | [] => none

/-- A numeral with a fraction, an exponent or both. -/
def scanNumeral? (cs : List Char) : Option (Double × List Char) := do
  let (negative, cs) := scanSign cs
  let (whole, cs) ← scanWhole? cs
  match scanFraction? cs with
  | some (fraction, cs) =>
    let (exponent, rest) := (scanExponent? cs).getD (0, cs)
    return (nearest negative (whole ++ fraction) (exponent - fraction.length), rest)
  | none =>
    let (exponent, rest) ← scanExponent? cs
    return (nearest negative whole exponent, rest)

/-- The names of the values without digits. -/
def scanNamed? (cs : List Char) : Option (Double × List Char) :=
  let (negative, cs) := scanSign cs
  match afterWord ['i', 'n', 'f'] cs with
  | some rest => some (.infinite negative, rest)
  | none => (afterWord ['n', 'a', 'n'] cs).map fun rest => (.nan, rest)

/-! ## Moments -/

/-- A number of exactly `places` digits within bounds. -/
def scanPlaces? (places low high : Nat) (cs : List Char) : Option (Nat × List Char) :=
  let digits := cs.take places
  let value := decimalValue digits
  if digits.length = places ∧ digits.all isDigit ∧ low ≤ value ∧ value ≤ high
  then some (value, cs.drop places) else none

def daysInMonth (year month : Nat) : Nat :=
  if month = 2 then
    if year % 4 = 0 ∧ (year % 100 ≠ 0 ∨ year % 400 = 0) then 29 else 28
  else if month = 4 ∨ month = 6 ∨ month = 9 ∨ month = 11 then 30
  else 31

/-- What is left after a date. -/
def skipDate? (cs : List Char) : Option (List Char) := do
  let (year, cs) ← scanPlaces? 4 0 9999 cs
  let cs ← afterWord ['-'] cs
  let (month, cs) ← scanPlaces? 2 1 12 cs
  let cs ← afterWord ['-'] cs
  let (_, cs) ← scanPlaces? 2 1 (daysInMonth year month) cs
  return cs

/-- What is left after the decimal places of a second, if there are any. -/
def skipPlaces : List Char → List Char
  | '.' :: c :: rest => if isDigit c then rest.dropWhile isDigit else '.' :: c :: rest
  | cs => cs

/-- What is left after a time of day. -/
def skipTime? (cs : List Char) : Option (List Char) := do
  let (_, cs) ← scanPlaces? 2 0 23 cs
  let cs ← afterWord [':'] cs
  let (_, cs) ← scanPlaces? 2 0 59 cs
  let cs ← afterWord [':'] cs
  let (_, cs) ← scanPlaces? 2 0 60 cs
  return skipPlaces cs

/-- What is left after the distance from universal time. -/
def skipOffset? : List Char → Option (List Char)
  | 'Z' :: rest | 'z' :: rest => some rest
  | c :: rest =>
    if c = '+' ∨ c = '-' then do
      let (_, cs) ← scanPlaces? 2 0 23 rest
      let cs ← afterWord [':'] cs
      let (_, cs) ← scanPlaces? 2 0 59 cs
      return cs
    else none
  | [] => none

/-- What is left after the time that may follow a date. -/
def skipTimeOfDate? : List Char → Option (List Char)
  | c :: rest =>
    if c = 'T' ∨ c = 't' ∨ c = ' ' then
      (skipTime? rest).map fun rest => (skipOffset? rest).getD rest
    else none
  | [] => none

/-- What is left after a date, a time or both. -/
def scanMoment? (cs : List Char) : Option (List Char) :=
  match skipDate? cs with
  | some rest => some ((skipTimeOfDate? rest).getD rest)
  | none => skipTime? cs

/-! ## All of them -/

/-- A moment is a record of its own kind: no structure here has a field for its name. -/
def momentDatum : Datum :=
  .record [("moment", .unreadable)]

/-- The number of a numeral. One that is too large is refused; one that is too small, as a negative
number, is infinity. -/
def checkedNumeral? : Double × List Char → Option (Datum × List Char)
  | (x, rest) => if x = .infinite false then none else some (.real x, rest)

def scanNumber? (cs : List Char) : Option (Datum × List Char) :=
  match scanMoment? cs with
  | some rest => some (momentDatum, rest)
  | none => match scanNumeral? cs with
    | some r => checkedNumeral? r
    | none => match scanNamed? cs with
      | some (x, rest) => some (.real x, rest)
      | none => (scanInteger? cs).map fun (n, rest) => (.whole n, rest)

end FrameGraph.Data.Toml
