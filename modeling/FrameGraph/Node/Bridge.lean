import FrameGraph.Emission
import FrameGraph.HostStream
import FrameGraph.Port
import FrameGraph.Rate

/-!
# Bridges to the host

`XLinkIn` forwards what the host pushes into a stream to its output `out`, and `XLinkOut` forwards
what reaches its input `in` to a stream of the host.

* `XLinkInConfig.forward`: a message from the host, unless its payload is too long.
* `XLinkOutConfig.leastGap`: how far apart the messages to the host have to be.
* `Forwarding.forward`: a message to the host, unless the last one was too short a time ago.
-/

namespace FrameGraph
set_option autoImplicit false
open Number

/-! ## From the host -/

structure XLinkInConfig where
  stream : String
  /-- Depth of the queue that the host pushes into. -/
  frames : Nat := defaultQueueSize
  /-- The longest payload that is let through, in bytes; zero lets all through. -/
  maxDataSize : Nat := 0
deriving DecidableEq, Repr

inductive XLinkInSetting where
  | stream (v : String)
  | frames (v : Nat)
  | maxDataSize (v : Nat)
deriving DecidableEq, Repr

namespace XLinkInConfig

def set (c : XLinkInConfig) : XLinkInSetting → XLinkInConfig
  | .stream v => { c with stream := v }
  | .frames v => { c with frames := v }
  | .maxDataSize v => { c with maxDataSize := v }

/-- Every kind is declared on its own. -/
def ports : List Port :=
  [{ name := "out", direction := .output, types := Kind.all.map .exactly }]

def hostStream (c : XLinkInConfig) : HostStream :=
  .input c.stream c.frames true

/-- Whether data of this length is let through. -/
def letsThrough (c : XLinkInConfig) (length : Nat) : Bool :=
  c.maxDataSize == 0 || decide (length ≤ c.maxDataSize)

def forward (c : XLinkInConfig) (m : Message) : List Emission :=
  if c.letsThrough m.payload.dataLength then [.onPort "out" m] else []

end XLinkInConfig

/-! ## To the host -/

structure XLinkOutConfig where
  stream : String
  /-- Messages per second that are forwarded at most; the others are dropped. -/
  fpsLimit : Option Single := none
deriving DecidableEq

inductive XLinkOutSetting where
  | stream (v : String)
  | fpsLimit (v : Single)
deriving DecidableEq

namespace XLinkOutConfig

def set (c : XLinkOutConfig) : XLinkOutSetting → XLinkOutConfig
  | .stream v => { c with stream := v }
  | .fpsLimit v => { c with fpsLimit := some v }

def ports : List Port :=
  [{ name := "in", direction := .input, types := [.any] }]

def hostStream (c : XLinkOutConfig) : HostStream :=
  .output c.stream

/-- The least number of nanoseconds between two messages. A limit that is not positive is none. -/
def leastGap (c : XLinkOutConfig) : Except Panic (Option Nat) :=
  match c.fpsLimit.filter Floating.isPositive with
  | none => .ok none
  | some fps => (periodOf fps).map some

end XLinkOutConfig

structure Forwarding where
  /-- The least number of nanoseconds between two messages. -/
  gap : Option Nat
  /-- When the last message had been handed over. -/
  last : Option Nat := none
deriving DecidableEq

namespace Forwarding

/-- Whether a message comes too soon after the last one. -/
def isEarly (f : Forwarding) (now : Nat) : Bool :=
  match f.gap, f.last with
  | some gap, some last => decide (now - last < gap)
  | _, _ => false

def forward (f : Forwarding) (now : Nat) (m : Message) : List Emission :=
  if f.isEarly now then [] else [.toHost m]

/-- The gap begins when the host's queue has taken the message in. -/
def handedOver (f : Forwarding) (now : Nat) : Forwarding :=
  { f with last := some now }

end Forwarding

end FrameGraph
