import FrameGraph.Number.Shortest

/-!
# Floating numbers as text

A `Layout` says how the shortest digits of a number are laid out: how ties are broken, for which
exponents the digits are written around a point, whether a whole number keeps its `.0`, and what
stands for the values without digits.

* `Layout.plain`: always positional, whole numbers without a point. It is the form in messages.
* `Layout.json`: a whole number keeps `.0`, far exponents are written with `e`.
* `Layout.toml`: positional, and a whole number keeps `.0`.
-/

namespace FrameGraph.Number
set_option autoImplicit false

structure Layout where
  tie : Tie
  /-- The scientific exponents that are written positionally. -/
  positional : Int → Bool
  /-- Whether a whole number ends in `.0`. -/
  pointed : Bool
  nan : String
  infinite : Bool → String

namespace Layout

def plain : Layout where
  tie := .up
  positional _ := true
  pointed := false
  nan := "NaN"
  infinite negative := if negative then "-inf" else "inf"

def json : Layout where
  tie := .toEven
  positional e := decide (-6 ≤ e) && decide (e ≤ 12)
  pointed := true
  nan := "null"
  infinite _ := "null"

def toml : Layout where
  tie := .up
  positional _ := true
  pointed := true
  nan := "nan"
  infinite negative := if negative then "-inf" else "inf"

/-- Digits written around a point. -/
def aroundPoint (pointed : Bool) (digits : List Char) (power : Int) : List Char :=
  if 0 ≤ power then
    digits ++ List.replicate power.natAbs '0' ++ (if pointed then ['.', '0'] else [])
  else
    let places := power.natAbs
    if places < digits.length then
      digits.take (digits.length - places) ++ '.' :: digits.drop (digits.length - places)
    else
      '0' :: '.' :: (List.replicate (places - digits.length) '0' ++ digits)

/-- One digit before the point, and the scientific exponent with its sign. -/
def scientific (digits : List Char) (exponent : Int) : List Char :=
  let fraction := match digits.drop 1 with
    | [] => []
    | rest => '.' :: rest
  digits.take 1 ++ fraction ++ 'e' :: (if exponent < 0 then '-' else '+') ::
    Nat.toDigits 10 exponent.natAbs

def decimal (layout : Layout) (x : Decimal) : List Char :=
  let digits := Nat.toDigits 10 x.digits
  let exponent := x.power + digits.length - 1
  if layout.positional exponent then aroundPoint layout.pointed digits x.power
  else scientific digits exponent

end Layout

def Floating.text {f : Format} (layout : Layout) : Floating f → String
  | .nan => layout.nan
  | .signed negative rank =>
    if rank.val = f.infinity then layout.infinite negative
    else
      let body := if rank.val = 0 then layout.decimal ⟨0, 0⟩
        else layout.decimal (f.shortest layout.tie rank)
      String.ofList (if negative then '-' :: body else body)

end FrameGraph.Number
