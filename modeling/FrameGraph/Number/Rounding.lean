/-!
# Rounding quotients of natural numbers

A quotient `n / d` of natural numbers lies between `n / d` and `n / d + 1` in the sense of natural
division. The functions here say which of the two stands for it.

* `roundHalfEven`: the nearer one, and of two equally near ones the even one.
* `roundHalfUp`: the nearer one, and of two equally near ones the larger one.
* `ceilDiv`: the least natural number that is not below the quotient.
-/

namespace FrameGraph.Number
set_option autoImplicit false

def roundHalfEven (n d : Nat) : Nat :=
  let whole := n / d
  let twice := 2 * (n % d)
  if twice < d then whole
  else if d < twice then whole + 1
  else whole + whole % 2

def roundHalfUp (n d : Nat) : Nat :=
  (2 * n + d) / (2 * d)

def ceilDiv (n d : Nat) : Nat :=
  (n + (d - 1)) / d

theorem roundHalfEven_one (n : Nat) : roundHalfEven n 1 = n := by
  simp [roundHalfEven, Nat.mod_one]

end FrameGraph.Number
