import FrameGraph.Number.Power
import FrameGraph.Number.Rounding

/-!
# Binary floating numbers

A `Format` says how many bits hold the fraction and how many the exponent. Every finite number of a
format is a whole multiple of its smallest positive one, the *unit* `2 ^ (-scale)`, so all
arithmetic is done exactly on natural numbers and rounded once, to nearest, ties to even.

* `Floating f`: not a number, or a sign with a *rank*. Ranks count the magnitudes of the format from
  zero upwards, and the last rank is infinity, so magnitudes compare as their ranks do.
* `units`: the magnitude of a rank, in units.
* `Floating.ofQuotient`: the number of the format nearest to a quotient.
* `Single` and `Double`: the 32-bit and the 64-bit format.
-/

namespace FrameGraph.Number
set_option autoImplicit false

structure Format where
  /-- Bits of the fraction that are stored. -/
  fraction : Nat
  /-- Bits of the exponent field. -/
  exponent : Nat
deriving DecidableEq, Repr

namespace Format

def single : Format := ⟨23, 8⟩

def double : Format := ⟨52, 11⟩

/-- The smallest positive number of the format is `2 ^ (-scale)`. -/
def scale (f : Format) : Nat :=
  twoTo (f.exponent - 1) + f.fraction - 2

/-- How many numbers lie between a power of two and the next one. -/
def span (f : Format) : Nat :=
  twoTo f.fraction

/-- The rank of infinity: one more than that of the largest finite magnitude. -/
def infinity (f : Format) : Nat :=
  (twoTo f.exponent - 1) * f.span

/-- The magnitude of a rank, in units of `2 ^ (-scale)`. The rank of infinity continues the row of
the finite ones, which is where overflow starts to round up. -/
def units (f : Format) (rank : Nat) : Nat :=
  let binade := rank / f.span
  if binade = 0 then rank
  else (f.span + rank % f.span) * twoTo (binade - 1)

/-- The rank nearest to `n / d`, ties to the even one. Past the largest finite magnitude this is the
rank of infinity. -/
def nearestRank (f : Format) (n d : Nat) : Nat :=
  let inUnits := n * twoTo f.scale
  let shift := (inUnits / d).log2 - f.fraction
  min (shift * f.span + roundHalfEven inUnits (d * twoTo shift)) f.infinity

theorem nearestRank_le (f : Format) (n d : Nat) : f.nearestRank n d ≤ f.infinity :=
  Nat.min_le_right _ _

end Format

inductive Floating (f : Format) where
  | nan
  | signed (negative : Bool) (rank : Fin (f.infinity + 1))
deriving DecidableEq

abbrev Single := Floating Format.single

abbrev Double := Floating Format.double

namespace Floating
variable {f g : Format}

/-- The number nearest to `n / d`, with the given sign. -/
def ofQuotient (negative : Bool) (n d : Nat) : Floating f :=
  .signed negative ⟨f.nearestRank n d, Nat.lt_succ_of_le (f.nearestRank_le n d)⟩

def ofNat (n : Nat) : Floating f :=
  ofQuotient false n 1

def ofInt (n : Int) : Floating f :=
  ofQuotient (decide (n < 0)) n.natAbs 1

def zero (negative : Bool) : Floating f :=
  .signed negative ⟨0, Nat.succ_pos _⟩

def infinite (negative : Bool) : Floating f :=
  .signed negative ⟨f.infinity, Nat.lt_succ_self _⟩

def isFinite : Floating f → Bool
  | .nan => false
  | .signed _ rank => rank.val != f.infinity

/-! ## Comparison -/

/-- Where a number stands among all that compare with it: its rank under its sign. Both zeros stand
in the same place. -/
def place : Floating f → Option Int
  | .nan => none
  | .signed true rank => some (-(rank.val : Int))
  | .signed false rank => some rank.val

/-- Below in the order of numbers; nothing is below or above what is not a number. -/
def below (x y : Floating f) : Bool :=
  match x.place, y.place with
  | some a, some b => decide (a < b)
  | _, _ => false

/-- Equal as numbers: the zeros are equal, and what is not a number equals nothing. -/
def equals (x y : Floating f) : Bool :=
  match x.place, y.place with
  | some a, some b => decide (a = b)
  | _, _ => false

def isPositive (x : Floating f) : Bool :=
  (zero false).below x

/-! ## Arithmetic -/

def convert : Floating f → Floating g
  | .nan => .nan
  | .signed s rank =>
    if rank.val = f.infinity then infinite s
    else ofQuotient s (f.units rank) (twoTo f.scale)

def mul : Floating f → Floating f → Floating f
  | .signed s a, .signed t b =>
    if a.val = f.infinity ∨ b.val = f.infinity then
      if a.val = 0 ∨ b.val = 0 then .nan else infinite (s != t)
    else ofQuotient (s != t) (f.units a * f.units b) (twoTo f.scale * twoTo f.scale)
  | _, _ => .nan

def div : Floating f → Floating f → Floating f
  | .signed s a, .signed t b =>
    if b.val = f.infinity then
      if a.val = f.infinity then .nan else zero (s != t)
    else if a.val = f.infinity then infinite (s != t)
    else if b.val = 0 then
      if a.val = 0 then .nan else infinite (s != t)
    else ofQuotient (s != t) (f.units a) (f.units b)
  | _, _ => .nan

/-- A whole number made from the exact magnitude, given as a quotient, and kept within `0 … top`:
what is not a number and all negative numbers give zero, infinity gives `top`. -/
def toNatWithin (whole : Nat → Nat → Nat) (top : Nat) : Floating f → Nat
  | .nan => 0
  | .signed true _ => 0
  | .signed false rank =>
    if rank.val = f.infinity then top
    else min (whole (f.units rank) (twoTo f.scale)) top

end Floating

end FrameGraph.Number
