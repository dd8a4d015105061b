import FrameGraph.Message
import FrameGraph.Scaler

/-!
# Capabilities

A consumer describes the output it wants by a `Request`; a node that makes outputs on demand
describes what it has by a `Source`; an `OutputSpec` is what the two agree on.

* `Request.sameProfile`: two requests ask for the same output, whatever it is called.
-/

namespace FrameGraph
set_option autoImplicit false
open Number

inductive Residency where
  | device
  | host
deriving DecidableEq, Repr

def Residency.all : List Residency := [.device, .host]

def Residency.name : Residency → String
  | device => "Device"
  | host => "Host"

structure Request where
  kind : Kind
  /-- None keeps the size of the source. -/
  size : Option Size := none
  /-- None keeps the rate of the source. -/
  fps : Option Single := none
  residency : Residency := .device
  /-- The key of the output; one is generated when there is none. -/
  name : Option String := none
deriving DecidableEq

namespace Request

/-- Rates are compared as numbers, so a request for a rate that is not a number differs from every
request, itself included. -/
def sameRate : Option Single → Option Single → Bool
  | none, none => true
  | some a, some b => a.equals b
  | _, _ => false

def sameProfile (a b : Request) : Bool :=
  decide (a.kind = b.kind) && decide (a.size = b.size) && sameRate a.fps b.fps &&
    decide (a.residency = b.residency)

/-- The same profile under the same name. -/
def sameAs (a b : Request) : Bool :=
  a.sameProfile b && decide (a.name = b.name)

end Request

/-- What a node offers to make outputs from. -/
structure Source where
  kinds : List Kind
  residency : Residency
  size : Size
  /-- The highest rate of the source. -/
  fps : Single
deriving DecidableEq

structure OutputSpec where
  kind : Kind
  size : Size
  horizontal : Ratio
  vertical : Ratio
  fps : Single
  residency : Residency
deriving DecidableEq

end FrameGraph
