import FrameGraph.Emission
import FrameGraph.Port
import FrameGraph.Synchronizer

/-!
# Synchronizing nodes

A stream `x` enters at the entry `x_in` of the map `inputs`, and once it is aligned with all other
streams it leaves at the entry `x_out` of the map `outputs`.

* `StreamSync.streamsOf`: the streams that enter at given inputs.
* `StreamSync.handle`: one arrival, and the messages of the set that it completes.
-/

namespace FrameGraph
set_option autoImplicit false

structure StreamSyncConfig where
  /-- The streams whose entries exist from the start. -/
  streams : List String := []
  sync : SyncConfig := .ofWindow 500 (.ofNat 30)
deriving DecidableEq

inductive StreamSyncSetting where
  /-- Nanoseconds. -/
  | tolerance (v : Nat)
  | maxBacklog (v : Nat)
deriving DecidableEq, Repr

def StreamSyncConfig.set (c : StreamSyncConfig) : StreamSyncSetting → StreamSyncConfig
  | .tolerance v => { c with sync := { c.sync with tolerance := v } }
  | .maxBacklog v => { c with sync := c.sync.withMaxBacklog v }

namespace StreamSync

def inputGroup : String := "inputs"

def outputGroup : String := "outputs"

def inputEntry (stream : String) : String := stream ++ "_in"

def outputEntry (stream : String) : String := stream ++ "_out"

def inputKey (stream : String) : String := portKey (some inputGroup) (inputEntry stream)

def outputKey (stream : String) : String := portKey (some outputGroup) (outputEntry stream)

def maps (c : StreamSyncConfig) : List PortMap :=
  [{ name := inputGroup
     template := { name := "", direction := .input, types := [.any], blocking := false }
     initialKeys := c.streams.map inputEntry },
   { name := outputGroup
     template := { name := "", direction := .output, types := [.any] }
     initialKeys := c.streams.map outputEntry }]

/-- What is left of a text between a start and an end, which do not overlap. -/
def between? (first last text : List Char) : Option (List Char) :=
  if first.isPrefixOf text then
    let rest := text.drop first.length
    if last.isSuffixOf rest then some (rest.take (rest.length - last.length)) else none
  else none

/-- The stream that enters at the input with this key, if it is an entry for a stream. -/
def streamOfKey? (key : String) : Option String :=
  (between? (portKey (some inputGroup) "").toList (inputEntry "").toList key.toList).map String.ofList

/-! ## At work -/

/-- The streams of the inputs with these keys, in the order of their names. -/
def streamsOf (keys : List String) : List String :=
  (keys.filterMap streamOfKey?).mergeSort fun a b => !decide (b < a)

/-- A message that arrives at an input. A set that it completes leaves as a whole, in the order of its
streams. -/
def handle (s : Synchronizer Message) (key : String) (m : Message) :
    List Emission × Synchronizer Message :=
  match streamOfKey? key with
  | none => ([], s)
  | some stream => match s.push stream m with
    | (.matched set, s) => (set.entries.map fun e => .onPort (outputKey e.1) e.2, s)
    | (_, s) => ([], s)

end StreamSync

end FrameGraph
