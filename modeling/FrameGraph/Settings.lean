import FrameGraph.Data.Datum
import FrameGraph.Port
import FrameGraph.Synchronizer

/-!
# Settings

The settings of a program that runs graphs, in four sections. Every field has a default, so any part
of them may be given.

* `Settings.codec`: settings as data.
* `SyncSettings.config`: the synchronizer that the settings describe.
* `Settings.sameAs`: equality of settings, with rates compared as numbers.
-/

namespace FrameGraph
set_option autoImplicit false
open Data Number

/-! ## Sections -/

structure QueueSettings where
  size : UInt64 := UInt64.ofNat defaultQueueSize
  blocking : Bool := false
deriving DecidableEq

structure SyncSettings where
  fps : Single := .ofNat 30
  windowMillis : UInt64 := 500
  /-- Given, it stands in place of the tolerance for the window and the rate. -/
  toleranceMillis : Option UInt64 := none
  maxBacklog : UInt64 := UInt64.ofNat defaultMaxBacklog
deriving DecidableEq

structure DeviceSettings where
  name : String := "host"
  pollMillis : UInt64 := 5
  /-- Events that are kept for a reader. -/
  eventCapacity : UInt64 := 256
deriving DecidableEq

structure LoggingSettings where
  filter : String := "info,camflow=debug"
  directory : Option String := none
deriving DecidableEq

structure Settings where
  queues : QueueSettings := {}
  sync : SyncSettings := {}
  device : DeviceSettings := {}
  logging : LoggingSettings := {}
deriving DecidableEq

/-! ## What the sections mean -/

def SyncSettings.config (s : SyncSettings) : SyncConfig :=
  let base : SyncConfig := match s.toleranceMillis with
    | some millis => { tolerance := millis.toNat * nanosPerMilli }
    | none => SyncConfig.ofWindow s.windowMillis.toNat s.fps
  base.withMaxBacklog s.maxBacklog.toNat

/-- The time between two looks at the inputs, in nanoseconds; never zero. -/
def DeviceSettings.pollInterval (s : DeviceSettings) : Nat :=
  max s.pollMillis.toNat 1 * nanosPerMilli

def SyncSettings.sameAs (a b : SyncSettings) : Bool :=
  a.fps.equals b.fps && decide (a.windowMillis = b.windowMillis) &&
    decide (a.toleranceMillis = b.toleranceMillis) && decide (a.maxBacklog = b.maxBacklog)

def Settings.sameAs (a b : Settings) : Bool :=
  decide (a.queues = b.queues) && a.sync.sameAs b.sync && decide (a.device = b.device) &&
    decide (a.logging = b.logging)

/-! ## As data -/

def QueueSettings.codec : Codec QueueSettings :=
  .ofFields [
    .of "host_queue_size" .uint64 size fun v s => { s with size := v },
    .of "host_queue_blocking" .flag blocking fun v s => { s with blocking := v }] {}

def SyncSettings.codec : Codec SyncSettings :=
  .ofFields [
    .of "fps" .single fps fun v s => { s with fps := v },
    .of "window_ms" .uint64 windowMillis fun v s => { s with windowMillis := v },
    .of "tolerance_ms" (.optional .uint64) toleranceMillis
      fun v s => { s with toleranceMillis := v },
    .of "max_backlog" .uint64 maxBacklog fun v s => { s with maxBacklog := v }] {}

def DeviceSettings.codec : Codec DeviceSettings :=
  .ofFields [
    .of "name" .text name fun v s => { s with name := v },
    .of "poll_interval_ms" .uint64 pollMillis fun v s => { s with pollMillis := v },
    .of "event_capacity" .uint64 eventCapacity fun v s => { s with eventCapacity := v }] {}

def LoggingSettings.codec : Codec LoggingSettings :=
  .ofFields [
    .of "filter" .text filter fun v s => { s with filter := v },
    .of "directory" (.optional .text) directory fun v s => { s with directory := v }] {}

def Settings.codec : Codec Settings :=
  .ofFields [
    .of "queues" QueueSettings.codec queues fun v s => { s with queues := v },
    .of "sync" SyncSettings.codec sync fun v s => { s with sync := v },
    .of "device" DeviceSettings.codec device fun v s => { s with device := v },
    .of "logging" LoggingSettings.codec logging fun v s => { s with logging := v }] {}

end FrameGraph
