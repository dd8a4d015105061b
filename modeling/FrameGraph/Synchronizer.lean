import FrameGraph.Message

/-!
# Aligning streams by time

A synchronizer keeps one buffer for each named stream. The time of every arriving item becomes the
reference: when each buffer holds an item within the tolerance of it, the oldest such items leave
together as a set, and what stood before them is discarded as stale. A buffer that grows past
`SyncConfig.maxBacklog` loses its oldest item.

* `SyncConfig.ofWindow`: the tolerance that belongs to a window and a rate.
* `Stream.split`: a buffer cut at its oldest item near the reference.
* `Synchronizer.push`: one arrival, and the set that it completes.
-/

namespace FrameGraph
set_option autoImplicit false
open Number

/-! ## Settings -/

/-- Unmatched items that a stream keeps when nothing else is asked. -/
def defaultMaxBacklog : Nat := 100

def nanosPerMilli : Nat := 1000000

/-- The largest whole number of a 64-bit counter. -/
def counterTop : Nat := UInt64.size - 1

structure SyncConfig where
  /-- Nanoseconds. -/
  tolerance : Nat
  maxBacklog : Nat := defaultMaxBacklog
deriving DecidableEq, Repr

namespace SyncConfig

/-- The least whole number of milliseconds that is not below `window / fps`. A rate that is not
positive counts as one. -/
def windowMillis (window : Nat) (fps : Single) : Nat :=
  let rate : Double := if fps.isPositive then fps.convert else .ofNat 1
  ((Floating.ofNat window : Double).div rate).toNatWithin ceilDiv counterTop

/-- The tolerance for a window in milliseconds that is spread over `fps` frames. -/
def ofWindow (window : Nat) (fps : Single) : SyncConfig :=
  { tolerance := windowMillis window fps * nanosPerMilli }

/-- A backlog has room for at least one item. -/
def withMaxBacklog (config : SyncConfig) (bound : Nat) : SyncConfig :=
  { config with maxBacklog := max bound 1 }

end SyncConfig

/-! ## Streams -/

variable {α : Type}

structure Stream (α : Type) where
  name : String
  /-- What has arrived and is not matched yet, oldest first. -/
  entries : List α := []
deriving DecidableEq

structure Cut (α : Type) where
  stream : String
  stale : List α
  item : α
  rest : List α

namespace Stream

/-- Takes in an item; a buffer above its bound loses its oldest one. -/
def receive (bound : Nat) (item : α) (s : Stream α) : Stream α :=
  let entries := s.entries ++ [item]
  { s with entries := if bound < entries.length then entries.tail else entries }

/-- Whether taking in one more item loses the oldest one. -/
def overflows (bound : Nat) (s : Stream α) : Bool :=
  decide (bound < s.entries.length + 1)

/-- The cut at the oldest item that is `near`. -/
def split (near : α → Bool) (s : Stream α) : Option (Cut α) :=
  match s.entries.dropWhile (fun item => !near item) with
  | [] => none
  | item :: rest => some ⟨s.name, s.entries.takeWhile (fun item => !near item), item, rest⟩

end Stream

namespace Cut

/-- The stream once the item has left and what stood before it is discarded. -/
def remaining (c : Cut α) : Stream α :=
  ⟨c.stream, c.rest⟩

def entry (c : Cut α) : String × α :=
  (c.stream, c.item)

end Cut

/-- The cuts of all streams, none when one stream has no item that is `near`. -/
def splitAll (near : α → Bool) : List (Stream α) → Option (List (Cut α))
  | [] => some []
  | s :: rest => match s.split near, splitAll near rest with
    | some cut, some cuts => some (cut :: cuts)
    | _, _ => none

/-! ## Sets -/

/-- One item of every stream, in the order of the streams. -/
structure SyncedSet (α : Type) where
  entries : List (String × α)
deriving DecidableEq

namespace SyncedSet

def get? (set : SyncedSet α) (stream : String) : Option α :=
  (set.entries.find? fun entry => entry.1 == stream).map Prod.snd

/-- The distance between the earliest and the latest time in a set. -/
def spread [Timestamped α] (set : SyncedSet α) : Nat :=
  let times := set.entries.map fun entry => Timestamped.timestamp entry.2
  times.max?.getD 0 - times.min?.getD 0

end SyncedSet

/-! ## The synchronizer -/

structure SyncStats where
  received : Nat := 0
  emittedSets : Nat := 0
  /-- Items discarded because a newer one of their stream was matched. -/
  discardedStale : Nat := 0
  /-- Items lost because their stream was above its bound. -/
  overflowDrops : Nat := 0
deriving DecidableEq, Repr

structure Synchronizer (α : Type) where
  streams : List (Stream α)
  config : SyncConfig
  stats : SyncStats := {}
deriving DecidableEq

inductive Arrival (α : Type) where
  /-- No stream has this name; the item is handed back. -/
  | untracked (item : α)
  | buffered
  | matched (set : SyncedSet α)

namespace Synchronizer

/-- A name that is given twice stands for one stream, at its first place. -/
def make (names : List String) (config : SyncConfig) : Synchronizer α :=
  { streams := names.eraseDups.map fun name => { name }, config }

def names (s : Synchronizer α) : List String :=
  s.streams.map Stream.name

def backlog? (s : Synchronizer α) (stream : String) : Option Nat :=
  (s.streams.find? fun b => b.name == stream).map fun b => b.entries.length

def receive (s : Synchronizer α) (stream : String) (item : α) : Synchronizer α :=
  let bound := s.config.maxBacklog
  let lost := s.streams.any fun b => b.name == stream && b.overflows bound
  { s with
    streams := s.streams.map fun b => if b.name = stream then b.receive bound item else b
    stats := { s.stats with
      received := s.stats.received + 1
      overflowDrops := s.stats.overflowDrops + if lost then 1 else 0 } }

def within (tolerance a b : Nat) : Bool :=
  decide (a - b ≤ tolerance) && decide (b - a ≤ tolerance)

/-- Whether an item is within the tolerance of the reference time. -/
def near [Timestamped α] (s : Synchronizer α) (reference : Nat) (item : α) : Bool :=
  within s.config.tolerance (Timestamped.timestamp item) reference

def emit (s : Synchronizer α) (cuts : List (Cut α)) : Synchronizer α :=
  { s with
    streams := cuts.map Cut.remaining
    stats := { s.stats with
      emittedSets := s.stats.emittedSets + 1
      discardedStale := s.stats.discardedStale + (cuts.flatMap Cut.stale).length } }

def settle [Timestamped α] (s : Synchronizer α) (reference : Nat) :
    Arrival α × Synchronizer α :=
  match splitAll (s.near reference) s.streams with
  | none => (.buffered, s)
  | some cuts => (.matched ⟨cuts.map Cut.entry⟩, s.emit cuts)

def push [Timestamped α] (s : Synchronizer α) (stream : String) (item : α) :
    Arrival α × Synchronizer α :=
  if s.names.contains stream then (s.receive stream item).settle (Timestamped.timestamp item)
  else (.untracked item, s)

def reset (s : Synchronizer α) : Synchronizer α :=
  { s with streams := s.streams.map fun b => { b with entries := [] }, stats := {} }

end Synchronizer

end FrameGraph
