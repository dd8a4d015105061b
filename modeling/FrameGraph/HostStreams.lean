import FrameGraph.Queue.Store
import FrameGraph.Synchronizer

/-!
# Streams that are read together

The host opens several streams at once and reads them in sets, one message of every stream. A message that
was taken for a set which is not complete yet stays parked in the slot of its stream.

* `HostStreams.openAll`: opens streams by their names, all with one depth and one policy.
* `HostStreams.getSet`: one attempt to complete a set.
* `HostStreams.getSetTimeout`: the same with a deadline, which passes when a stream has nothing.
* `HostStreams.tryGetAll`: everything that is there, stream by stream.
-/

namespace FrameGraph
set_option autoImplicit false

/-- Messages with the names of their streams. -/
abbrev StreamSet := SyncedSet Message

structure Slot where
  name : String
  queue : QueueId
  /-- The message that waits for its set to be complete. -/
  parked : Option Message := none
deriving DecidableEq

/-- In the order in which the streams were opened. -/
structure HostStreams where
  slots : List Slot
deriving DecidableEq

/-- The served queue of a name, with a new depth and policy. -/
def openQueue (served : String → Option QueueId) (name : String) (size : Nat) (blocking : Bool)
    (store : QueueStore Message) : Except RuntimeError QueueId × QueueStore Message :=
  match served name with
  | none => (.error (.unknownStream name), store)
  | some queue => match store.resize queue size with
    | (.error e, store) => (.error e, store)
    | (.ok (), store) => (.ok queue, store.setBlocking queue blocking)

namespace HostStreams

/-! ## Opening -/

def openSlots (served : String → Option QueueId) (size : Nat) (blocking : Bool) :
    List String → QueueStore Message → Except RuntimeError (List Slot) × QueueStore Message
  | [], store => (.ok [], store)
  | name :: rest, store => match openQueue served name size blocking store with
    | (.error e, store) => (.error e, store)
    | (.ok queue, store) =>
      let (slots, store) := openSlots served size blocking rest store
      (slots.map ({ name, queue } :: ·), store)

/-- Ends at the first name that cannot be opened. -/
def openAll (served : String → Option QueueId) (names : List String) (size : Nat) (blocking : Bool)
    (store : QueueStore Message) : Except RuntimeError HostStreams × QueueStore Message :=
  let (slots, store) := openSlots served size blocking names store
  (slots.map HostStreams.mk, store)

def names (h : HostStreams) : List String :=
  h.slots.map Slot.name

def queue? (h : HostStreams) (name : String) : Option QueueId :=
  (h.slots.find? fun slot => slot.name == name).map Slot.queue

/-- How many messages wait for their set. -/
def parked (h : HostStreams) : Nat :=
  h.slots.countP fun slot => slot.parked.isSome

/-! ## Sets -/

/-- Takes a message for every slot that has none, in order, up to the first one that gives none. -/
def fill : List Slot → QueueStore Message → Attempt Unit × List Slot × QueueStore Message
  | [], store => (.done (.ok ()), [], store)
  | slot :: rest, store =>
    if slot.parked.isSome then
      let (outcome, rest, store) := fill rest store
      (outcome, slot :: rest, store)
    else match store.take slot.queue with
      | (.wait, store) => (.wait, slot :: rest, store)
      | (.done (.error e), store) => (.done (.error e), slot :: rest, store)
      | (.done (.ok m), store) =>
        let (outcome, rest, store) := fill rest store
        (outcome, { slot with parked := some m } :: rest, store)

def parkedSet (slots : List Slot) : StreamSet :=
  ⟨slots.filterMap fun slot => slot.parked.map fun m => (slot.name, m)⟩

def unpark (slots : List Slot) : List Slot :=
  slots.map fun slot => { slot with parked := none }

/-- One attempt; what it took so far stays parked when it has to wait or fails. -/
def getSet (h : HostStreams) (store : QueueStore Message) :
    Attempt StreamSet × HostStreams × QueueStore Message :=
  match fill h.slots store with
  | (.done (.ok ()), slots, store) => (.done (.ok (parkedSet slots)), ⟨unpark slots⟩, store)
  | (.done (.error e), slots, store) => (.done (.error e), ⟨slots⟩, store)
  | (.wait, slots, store) => (.wait, ⟨slots⟩, store)

/-- None when the deadline passes. -/
def getSetTimeout (h : HostStreams) (store : QueueStore Message) :
    Except RuntimeError (Option StreamSet) × HostStreams × QueueStore Message :=
  match h.getSet store with
  | (.done result, h, store) => (result.map some, h, store)
  | (.wait, h, store) => (.ok none, h, store)

/-! ## Everything at once -/

/-- The messages of one slot, the parked one first. -/
def drainSlot (slot : Slot) (store : QueueStore Message) :
    Except RuntimeError (List (String × Message)) × QueueStore Message :=
  let (drained, store) := store.drain slot.queue
  (drained.map fun ms => (slot.parked.toList ++ ms).map fun m => (slot.name, m), store)

/-- Ends at the first queue that fails; slots up to that one are empty afterwards. -/
def drainSlots : List Slot → QueueStore Message →
    Except RuntimeError (List (String × Message)) × List Slot × QueueStore Message
  | [], store => (.ok [], [], store)
  | slot :: rest, store =>
    let emptied := { slot with parked := none }
    match drainSlot slot store with
    | (.error e, store) => (.error e, emptied :: rest, store)
    | (.ok entries, store) =>
      let (others, rest, store) := drainSlots rest store
      (others.map (entries ++ ·), emptied :: rest, store)

def tryGetAll (h : HostStreams) (store : QueueStore Message) :
    Except RuntimeError StreamSet × HostStreams × QueueStore Message :=
  let (drained, slots, store) := drainSlots h.slots store
  (drained.map SyncedSet.mk, ⟨slots⟩, store)

end HostStreams

end FrameGraph
