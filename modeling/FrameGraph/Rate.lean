import FrameGraph.Number.Floating
import FrameGraph.Panic

/-!
# Rates

A rate is a number of frames per second.
-/

namespace FrameGraph
set_option autoImplicit false
open Number

def nanosPerSecond : Nat := 1000000000

/-- The longest time between two frames, in nanoseconds. -/
def longestPeriod : Nat := UInt64.size * nanosPerSecond - 1

/-- Nanoseconds from one frame to the next: the reciprocal of the rate in seconds, as a number of the
rate's own format, to the nearest nanosecond. Of a rate close to zero no duration is the period. -/
def periodOf (fps : Single) : Except Panic Nat :=
  let seconds := (Floating.ofNat 1).div fps
  if seconds.below (.zero false) || !seconds.below (.ofNat UInt64.size) then .error .noDuration
  else .ok (seconds.toNatWithin (fun n d => roundHalfEven (n * nanosPerSecond) d) longestPeriod)

end FrameGraph
