/-!
# Panics

A call that cannot go on breaks off with a panic. Unlike an error, a panic passes by all that would put
things in order again: what has been changed by then stays changed.

* `Panic`: what a call breaks off at.
* `Halt`: why a call comes to no result, an error or a panic.
-/

namespace FrameGraph
set_option autoImplicit false

inductive Panic where
  /-- Room is asked for more items than can be addressed. -/
  | capacityOverflow
  /-- A number of seconds is negative, not a number or longer than any duration. -/
  | noDuration
deriving DecidableEq, Repr

inductive Halt (ε : Type) where
  | failed (error : ε)
  | panicked (panic : Panic)
deriving DecidableEq

namespace Halt
variable {ε φ : Type}

def map (f : ε → φ) : Halt ε → Halt φ
  | failed e => .failed (f e)
  | panicked p => .panicked p

end Halt

end FrameGraph
