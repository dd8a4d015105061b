import FrameGraph.Emission
import FrameGraph.Port

/-!
# Producers

A producer runs on the host and sends numbered buffers at a steady rate.

* `Production`: a producer at work; `Production.tick?` is its next message, once it is due.
-/

namespace FrameGraph
set_option autoImplicit false

structure ProducerConfig where
  /-- Messages until it ends; none runs on. -/
  count : Option Nat := none
  /-- Nanoseconds from one message to the next. -/
  interval : Nat := 10000000
  /-- Bytes in every message. -/
  payloadSize : Nat := 0
deriving DecidableEq, Repr

inductive ProducerSetting where
  | count (v : Nat)
  | interval (v : Nat)
deriving DecidableEq, Repr

namespace ProducerConfig

def set (c : ProducerConfig) : ProducerSetting → ProducerConfig
  | .count v => { c with count := some v }
  | .interval v => { c with interval := v }

def ports : List Port :=
  [{ name := "out", direction := .output, types := [.exactly .buffer] }]

/-- Whether all messages before `sequence` were the last ones. -/
def isDone (c : ProducerConfig) (sequence : Nat) : Bool :=
  c.count.any fun n => decide (n ≤ sequence)

/-- Every byte of a message is the low byte of its number. -/
def message (c : ProducerConfig) (timestamp sequence : Nat) : Message where
  timestamp
  sequence
  payload := .buffer (List.replicate c.payloadSize (UInt8.ofNat sequence))

end ProducerConfig

/-! ## At work -/

structure Production where
  config : ProducerConfig
  /-- When the next message is due. -/
  due : Nat
  /-- The number of the next message. -/
  sequence : Nat := 0
deriving DecidableEq, Repr

namespace Production

/-- The first message is due at once. -/
def start (config : ProducerConfig) (now : Nat) : Production :=
  { config, due := now }

def isDone (p : Production) : Bool :=
  p.config.isDone p.sequence

/-- None as long as no message is due. -/
def tick? (p : Production) (now : Nat) : Option (List Emission × Production) :=
  if now < p.due then none
  else some ([.onPort "out" (p.config.message now p.sequence)],
    { p with due := p.due + p.config.interval, sequence := p.sequence + 1 })

end Production

end FrameGraph
