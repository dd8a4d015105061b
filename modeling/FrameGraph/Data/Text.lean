import FrameGraph.Data.Datum

/-!
# Characters and digits of data formats

Readers work on lists of characters and return what is left of them. The functions here are those
that all formats share.
-/

namespace FrameGraph.Data
set_option autoImplicit false

/-- What is left of `cs` after `word`, if it starts with it. -/
def afterWord : List Char → List Char → Option (List Char)
  | [], cs => some cs
  | _ :: _, [] => none
  | w :: ws, c :: cs => if w = c then afterWord ws cs else none

def isDigit (c : Char) : Bool :=
  decide ('0' ≤ c) && decide (c ≤ '9')

def hexValue? (c : Char) : Option Nat :=
  if isDigit c then some (c.toNat - '0'.toNat)
  else if 'a' ≤ c ∧ c ≤ 'f' then some (c.toNat - 'a'.toNat + 10)
  else if 'A' ≤ c ∧ c ≤ 'F' then some (c.toNat - 'A'.toNat + 10)
  else none

/-- The number that digits stand for, none if one of them is not below the base. -/
def numeral? (base : Nat) (digits : List Char) : Option Nat :=
  digits.foldl (fun (total : Option Nat) c =>
    total.bind fun n => (hexValue? c).bind fun d => if d < base then some (n * base + d) else none)
    (some 0)

/-- The leading decimal digits, and what comes after them. -/
def spanDigits (cs : List Char) : List Char × List Char :=
  (cs.takeWhile isDigit, cs.dropWhile isDigit)

def decimalValue (digits : List Char) : Nat :=
  digits.foldl (fun n c => n * 10 + (c.toNat - '0'.toNat)) 0

/-- A number in four places of a base up to sixteen, with the given letters. -/
def fourPlaces (digit : Nat → Char) (n : Nat) : List Char :=
  [digit (n / 4096 % 16), digit (n / 256 % 16), digit (n / 16 % 16), digit (n % 16)]

end FrameGraph.Data
