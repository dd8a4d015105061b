/-!
# Sets of characters

A set of characters is given by closed ranges of code points, in increasing order.

* `Ranges.contains`: whether a character is in the set.
-/

namespace FrameGraph.Text
set_option autoImplicit false

structure Ranges where
  bounds : List (Nat × Nat)
deriving DecidableEq, Repr

namespace Ranges

def contains (r : Ranges) (c : Char) : Bool :=
  r.bounds.any fun (first, last) => decide (first ≤ c.toNat) && decide (c.toNat ≤ last)

theorem contains_iff (r : Ranges) (c : Char) :
    r.contains c = true ↔ ∃ b ∈ r.bounds, b.1 ≤ c.toNat ∧ c.toNat ≤ b.2 := by
  simp [contains]

end Ranges

end FrameGraph.Text
