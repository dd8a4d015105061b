import FrameGraph.Device.Thread
import FrameGraph.Graph.Basic
import FrameGraph.Number.Layout
import FrameGraph.Settings
import FrameGraph.Wire.Problem

/-!
# Values as data

What a program outside is told of a value. Floating numbers and times go out as text, so that no digit
of them is lost on the way.
-/

namespace FrameGraph
set_option autoImplicit false
open Data Number

variable {α : Type}

namespace Data.Datum

def nat (n : Nat) : Datum := .whole n

def word (n : UInt32) : Datum := nat n.toNat

def nanos (n : Nat) : Datum := .text (toString n)

def float (x : Single) : Datum := .text (x.text .plain)

def opt (f : α → Datum) : Option α → Datum
  | none => .null
  | some x => f x

def listOf (f : α → Datum) (items : List α) : Datum := .list (items.map f)

end Data.Datum

open Data.Datum

def Kind.datum (k : Kind) : Datum := .text k.name

def Accepted.datum (a : Accepted) : Datum := .list [a.kind.datum, .flag a.descendants]

def Size.datum (s : Size) : Datum := .list [word s.width, word s.height]

def Ratio.datum (r : Ratio) : Datum := .list [word r.numerator, word r.denominator]

def Port.datum (p : Port) : Datum := .record [
  ("key", .text p.key), ("group", opt .text p.group), ("name", .text p.name),
  ("dir", .text p.direction.name), ("types", listOf Accepted.datum p.types),
  ("queue_size", nat p.queueSize), ("blocking", .flag p.blocking), ("fan_in", .flag p.fanIn)]

def OutputSpec.datum (s : OutputSpec) : Datum := .record [
  ("kind", s.kind.datum), ("width", word s.size.width), ("height", word s.size.height),
  ("h_scale", s.horizontal.datum), ("v_scale", s.vertical.datum), ("fps", float s.fps),
  ("residency", .text s.residency.name)]

/-! ## Messages -/

def bytesDatum (bytes : List UInt8) : Datum := listOf (fun b => nat b.toNat) bytes

def Tensors.datum (t : Tensors) : Datum :=
  .record (t.layers.map fun layer => (layer.1, listOf float layer.2))

def CameraControl.entries (c : CameraControl) : List (String × Datum) := [
  ("capture_still", .flag c.captureStill), ("manual_exposure_us", opt word c.exposureMicros),
  ("lens_position", opt (fun b => nat b.toNat) c.lensPosition)]

def Payload.entries : Payload → List (String × Datum)
  | .buffer bytes | .encodedFrame bytes => [("data", bytesDatum bytes)]
  | .imgFrame f => [("width", word f.size.width), ("height", word f.size.height),
      ("frame_type", .text f.frameType.name), ("instance", .text f.socket.name),
      ("data", bytesDatum f.data)]
  | .nnData t | .imgDetections t => [("layers", t.datum)]
  | .imageManipConfig c => [
      ("crop", opt (fun c => listOf float [c.left, c.top, c.right, c.bottom]) c.crop),
      ("resize", opt Size.datum c.resize)]
  | .cameraControl c => c.entries

namespace Message

/-- A message with its time, or without it where the time is not asked for. -/
def datumAt (timestamp : Datum) (m : Message) : Datum := .record [
  ("ts", timestamp), ("seq", nat m.sequence),
  ("payload", .record (("kind", m.kind.datum) :: m.payload.entries))]

def datum (m : Message) : Datum := m.datumAt (nanos m.timestamp)

/-- The number and the time alone. -/
def brief (m : Message) : Datum := .list [nat m.sequence, nanos m.timestamp]

end Message

/-! ## Queues and synchronizers -/

/-- Length, depth, policy, losses, whether it is closed, and whether it holds something or nothing. -/
def Queue.datum (q : Queue α) : Datum := .list [
  nat q.buffer.length, nat q.capacity, .flag q.blocking, nat q.dropped, .flag q.closed,
  .flag !q.buffer.isEmpty, .flag q.buffer.isEmpty]

def SyncConfig.datum (c : SyncConfig) : Datum := .record [
  ("tolerance", nanos c.tolerance), ("max_backlog", nat c.maxBacklog)]

def SyncStats.datum (s : SyncStats) : Datum :=
  listOf nat [s.received, s.emittedSets, s.discardedStale, s.overflowDrops]

def SyncedSet.entriesData (set : SyncedSet Message) : List (String × Datum) := [
  ("set", listOf (fun e => .list [.text e.1, nat e.2.sequence, nanos e.2.timestamp]) set.entries),
  ("spread", nanos set.spread)]

/-! ## Graphs -/

def PlanStats.datum (s : PlanStats) : Datum := .record [
  ("nodes", nat s.nodes), ("links", nat s.links), ("sources", nat s.sources),
  ("sinks", nat s.sinks), ("isolated", nat s.isolated)]

def Plan.datum (plan : Plan) : Datum := .record [
  ("order", listOf nat plan.order),
  ("edges", listOf (fun e => .list [nat e.1, nat e.2]) plan.edges),
  ("isolated", listOf nat plan.isolated), ("empty", .flag plan.isEmpty),
  ("stats", plan.stats.datum),
  ("positions", listOf (fun i => opt nat (plan.position? i)) (List.range (plan.stats.nodes + 1)))]

def NodeId.datum (id : NodeId) : Datum := nat id.index

def PortId.datum (id : PortId) : Datum := word id.raw

def Link.datum (l : Link) : Datum := .list [nat l.id.index, l.source.datum, l.target.datum]

def Node.entries (n : Node) (id : NodeId) : List (String × Datum) := [
  ("id", id.datum), ("name", .text n.name), ("type", .text n.typeName),
  ("state", .text n.state.name), ("mutable", .flag n.state.isMutable),
  ("residency", .text n.residency.name), ("port_count", nat n.ports.length)]

/-! ## Bodies -/

def HostStream.datum : HostStream → Datum
  | .output name => .record [("name", .text name), ("type", .text "Output")]
  | .input name size blocking => .record [("name", .text name), ("type", .text "Input"),
      ("max_size", nat size), ("blocking", .flag blocking)]

def CameraConfig.datum (c : CameraConfig) : Datum := .record [
  ("board_socket", .text c.socket.name), ("camera_name", opt .text c.cameraName),
  ("orientation", .text c.orientation.name), ("sensor_size", opt Size.datum c.sensorSize),
  ("preview_size", c.previewSize.datum), ("video_size", opt Size.datum c.videoSize),
  ("still_size", opt Size.datum c.stillSize), ("fps", float c.fps),
  ("isp_3a_fps", word c.controlFps), ("mesh_source", .text c.meshSource.name),
  ("mesh_data", bytesDatum c.meshData), ("mesh_step", c.meshStep.datum),
  ("calibration_alpha", opt float c.calibrationAlpha), ("raw_packed", opt .flag c.rawPacked),
  ("initial_control", .record c.initialControl.entries),
  ("effective_sensor_size", c.sensor.datum)]

namespace Body

/-- A body after one of its settings was changed. -/
def changed : Body → Datum
  | camera c => c.config.datum
  | neuralNetwork c => NeuralNetworkConfig.codec.write c
  | streamSync c => c.sync.datum
  | b => opt HostStream.datum b.hostStream?

def inspected : Body → Datum
  | streamSync c => .record [("streams", listOf .text c.streams), ("sync", c.sync.datum)]
  | xlinkIn c => .record [("stream", .text c.stream), ("host", c.hostStream.datum)]
  | xlinkOut c => .record [("stream", .text c.stream), ("host", c.hostStream.datum)]
  | b => b.changed

end Body

/-! ## Events -/

namespace DeviceEvent

/-- The place of an event among all events of a device: those of a node come together, in the order of
its life, and the end of the device comes last. -/
def rank : DeviceEvent → Nat × Nat
  | started node _ => (node.index, 0)
  | failed node .. => (node.index, 1)
  | stopped node _ => (node.index, 2)
  | closed => (UInt32.size - 1, 3)

def stageName : DeviceEvent → String
  | started .. => "0-started"
  | failed .. => "1-failed"
  | stopped .. => "2-stopped"
  | closed => "3-closed"

def entries : DeviceEvent → List Datum
  | started _ name | stopped _ name => [.text name]
  | failed _ name error => [.text name, Wire.problem error.kindName error.message]
  | closed => []

def datum (e : DeviceEvent) : Datum := .list (nat e.rank.1 :: .text e.stageName :: e.entries)

def sorted (events : List DeviceEvent) : List DeviceEvent :=
  events.mergeSort fun a b =>
    decide (a.rank.1 < b.rank.1) || (a.rank.1 == b.rank.1 && decide (a.rank.2 ≤ b.rank.2))

end DeviceEvent

/-! ## Settings -/

def Settings.datum (s : Settings) : Datum := .record [
  ("queues", QueueSettings.codec.write s.queues),
  ("sync", .record [("fps", float s.sync.fps), ("window_ms", nat s.sync.windowMillis.toNat),
    ("tolerance_ms", opt (fun n => nat n.toNat) s.sync.toleranceMillis),
    ("max_backlog", nat s.sync.maxBacklog.toNat)]),
  ("device", DeviceSettings.codec.write s.device),
  ("logging", LoggingSettings.codec.write s.logging),
  ("sync_config", s.sync.config.datum),
  ("poll_interval", nanos s.device.pollInterval),
  ("is_default", .flag (s.sameAs {}))]

end FrameGraph
