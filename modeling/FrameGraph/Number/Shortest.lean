import FrameGraph.Number.Floating

/-!
# The shortest decimal that reads back

Around each magnitude of a format lies the interval of the reals that round to it; its ends belong
to it when the rank is even. A decimal reads back as the number when it lies in that interval.

* `Reads f rank n d`: the quotient `n / d` lies in the interval of `rank`.
* `onGrid`: of the multiples of one power of ten that read back, the nearest to the magnitude.
* `shortest`: the same on the coarsest grid that has such a multiple, hence with the fewest digits.
-/

namespace FrameGraph.Number
set_option autoImplicit false

/-- Which of two equally near neighbours is taken. -/
inductive Tie where
  | up
  | toEven
deriving DecidableEq, Repr

/-- The decimal `digits * 10 ^ power`. -/
structure Decimal where
  digits : Nat
  power : Int
deriving DecidableEq, Repr

namespace Decimal

def quotient (x : Decimal) : Nat × Nat :=
  if x.power < 0 then (x.digits, tenTo x.power.natAbs) else (x.digits * tenTo x.power.natAbs, 1)

end Decimal

namespace Format

/-- The quotient `n / d` lies in the interval of the reals that round to `rank`. -/
def Reads (f : Format) (rank n d : Nat) : Bool :=
  let twice := 2 * n * twoTo f.scale
  let lower := (f.units (rank - 1) + f.units rank) * d
  let upper := (f.units rank + f.units (rank + 1)) * d
  if rank % 2 = 0 then decide (lower ≤ twice) && decide (twice ≤ upper)
  else decide (lower < twice) && decide (twice < upper)

/-- The multiple of `10 ^ power` that reads back and is nearest to the magnitude of `rank`. -/
def onGrid (f : Format) (tie : Tie) (rank : Nat) (power : Int) : Option Decimal :=
  let up := if power < 0 then tenTo power.natAbs else 1
  let down := if power < 0 then 1 else tenTo power.natAbs
  let n := f.units rank * up
  let d := twoTo f.scale * down
  let low := n / d
  let reads (k : Nat) : Bool := k != 0 && f.Reads rank (k * down) up
  let twice := 2 * (n % d)
  let takeLow : Bool :=
    if twice < d then true
    else if d < twice then false
    else match tie with
      | .up => false
      | .toEven => low % 2 == 0
  match reads low, reads (low + 1) with
  | true, true => some ⟨if takeLow then low else low + 1, power⟩
  | true, false => some ⟨low, power⟩
  | false, true => some ⟨low + 1, power⟩
  | false, false => none

/-- A power of ten above every finite magnitude of the format. -/
def topPower (f : Format) : Nat :=
  twoTo (f.exponent - 1) / 3 + 1

/-- The shortest decimal that reads back as the finite magnitude of a positive rank. The search
goes from coarse grids to fine ones and ends at `10 ^ (-scale)`, on which every magnitude lies. -/
def shortest (f : Format) (tie : Tie) (rank : Nat) : Decimal :=
  ((List.range (f.topPower + f.scale + 1)).findSome? fun (i : Nat) =>
    f.onGrid tie rank ((f.topPower : Int) - i)).getD ⟨0, 0⟩

end Format

end FrameGraph.Number
