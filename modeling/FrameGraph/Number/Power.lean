/-!
# Powers

Powers of the two bases that numbers are written in, as functions of the exponent.

* `twoTo_add`, `tenTo_add`: a sum of exponents gives a product.
-/

namespace FrameGraph.Number
set_option autoImplicit false

def twoTo (exponent : Nat) : Nat :=
  Nat.pow 2 exponent

def tenTo (exponent : Nat) : Nat :=
  Nat.pow 10 exponent

theorem twoTo_pos (n : Nat) : 0 < twoTo n :=
  Nat.pow_pos (Nat.succ_pos 1)

theorem tenTo_pos (n : Nat) : 0 < tenTo n :=
  Nat.pow_pos (Nat.succ_pos 9)

theorem twoTo_add (m n : Nat) : twoTo (m + n) = twoTo m * twoTo n :=
  Nat.pow_add 2 m n

theorem tenTo_add (m n : Nat) : tenTo (m + n) = tenTo m * tenTo n :=
  Nat.pow_add 10 m n

end FrameGraph.Number
