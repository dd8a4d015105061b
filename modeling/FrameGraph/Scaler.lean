/-!
# The hardware scaler

Each axis of a frame is scaled by a ratio of small whole numbers. A numerator goes up to
`maxNumerator`, a denominator up to `maxDenominator`, and the scaler never enlarges.

* `scaledSize`: the size that a ratio makes of an axis, cut down to 32 bits.
* `Ratio.candidates`: the ratios in the order of preference between equally good ones.
* `bestFit`: the ratio whose size is nearest to a requested one.
-/

namespace FrameGraph
set_option autoImplicit false

def maxNumerator : Nat := 16

def maxDenominator : Nat := 63

structure Ratio where
  numerator : UInt32
  denominator : UInt32
deriving DecidableEq, Repr

/-- The low 32 bits of `⌊input * numerator / denominator⌋`; a zero denominator gives zero. -/
def scaledSize (input numerator denominator : UInt32) : UInt32 :=
  if denominator = 0 then 0
  else UInt32.ofNat (input.toNat * numerator.toNat / denominator.toNat)

namespace Ratio

def identity : Ratio := ⟨1, 1⟩

def apply (r : Ratio) (input : UInt32) : UInt32 :=
  scaledSize input r.numerator r.denominator

/-- The ratios with one denominator, smaller numerators first. -/
def withDenominator (d : Nat) : List Ratio :=
  (List.range (min d maxNumerator)).map fun n => ⟨UInt32.ofNat (n + 1), UInt32.ofNat d⟩

/-- Every ratio of the scaler, smaller denominators first. -/
def candidates : List Ratio :=
  (List.range maxDenominator).flatMap fun d => withDenominator (d + 1)

end Ratio

/-- A ratio together with the size it reaches. -/
structure Fit where
  ratio : Ratio
  achieved : UInt32
deriving DecidableEq, Repr

def distance (a b : UInt32) : Nat :=
  (a.toNat - b.toNat) + (b.toNat - a.toNat)

/-- The first candidate at the least distance from `requested`, given the best one so far. -/
def closest (input requested : UInt32) (best : Fit) : List Ratio → Fit
  | [] => best
  | r :: rest =>
    let fit : Fit := ⟨r, r.apply input⟩
    if distance fit.achieved requested < distance best.achieved requested
    then closest input requested fit rest
    else closest input requested best rest

/-- The ratio that brings an axis nearest to a requested size. Of equally near ones it is the first
of `Ratio.candidates`. None when the request is zero, above the axis, or below the size that the
smallest ratio reaches. -/
def bestFit (input requested : UInt32) : Option Fit :=
  if requested = 0 ∨ input < requested ∨
      requested < scaledSize input 1 (UInt32.ofNat maxDenominator) then none
  else some (closest input requested ⟨.identity, Ratio.identity.apply input⟩ Ratio.candidates)

end FrameGraph
