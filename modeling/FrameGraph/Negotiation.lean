import FrameGraph.Error

/-!
# Resolving a request

A source answers a request with the output it commits to, or with the first reason against it: the
kind, the width, the height, the place, the rate, in this order.

* `Source.resolve`: the answer.
* `Source.fit`: the size and the ratios of the answer.
* `Source.rate`: its rate.
-/

namespace FrameGraph
set_option autoImplicit false
open Number

namespace Source

def fitAxis (axis : Axis) (input requested : UInt32) : Except NegotiationError Fit :=
  match bestFit input requested with
  | some fit => .ok fit
  | none => .error (.scaleOutOfBounds axis input requested)

/-- The size reached for a request, with its horizontal and vertical ratio. -/
def fit (source : Source) : Option Size → Except NegotiationError (Size × Ratio × Ratio)
  | none => .ok (source.size, .identity, .identity)
  | some requested => do
    let across ← fitAxis .width source.size.width requested.width
    let down ← fitAxis .height source.size.height requested.height
    return (⟨across.achieved, down.achieved⟩, across.ratio, down.ratio)

/-- A requested rate is refused when it is at most zero or above the rate of the source. -/
def rate (source : Source) : Option Single → Except NegotiationError Single
  | none => .ok source.fps
  | some fps =>
    if fps.below (.zero false) || fps.equals (.zero false) || source.fps.below fps then
      .error (.unsupportedFrameRate fps source.fps)
    else .ok fps

def resolve (source : Source) (request : Request) : Except NegotiationError OutputSpec := do
  unless source.kinds.contains request.kind do
    throw (.noCompatibleKind request.kind)
  let (size, horizontal, vertical) ← source.fit request.size
  unless request.residency = source.residency do
    throw (.unsupportedResidency request.residency source.residency)
  let fps ← source.rate request.fps
  return ⟨request.kind, size, horizontal, vertical, fps, source.residency⟩

end Source

end FrameGraph
