import FrameGraph.Node.Body
import FrameGraph.Wire.Reading

/-!
# Nodes from data

* `nodeConfig`: the settings of a new node of a kind.
* `plugin`: a plugin by its ports, its maps and the source that it offers.
* `setting`: one change of a setting, by its name.
-/

namespace FrameGraph.Wire
set_option autoImplicit false
open Data

variable {α : Type}

/-- Reads the entries with the given keys as floating numbers, unless they are null. -/
def withNumbers (keys : List String) : Reader Datum
  | .record entries => return .record (← entries.mapM fun (key, d) => do
      match d with
      | .null => return (key, .null)
      | d => if keys.contains key then return (key, .single (← single d)) else return (key, d))
  | d => return d

def coded (codec : Codec α) : Reader α := fun d =>
  match codec.read ⟨false⟩ d with
  | some x => .ok x
  | none => refuse "not these settings"

def cameraConfig : Reader CameraConfig := fun d => do
  let c ← coded CameraConfig.codec (← withNumbers ["fps", "calibration_alpha"] d)
  return { c with
    meshData := ← fieldD d "mesh_data" bytes []
    initialControl := ← fieldD d "initial_control" control {} }

def neuralNetworkConfig : Reader NeuralNetworkConfig := coded NeuralNetworkConfig.codec

def streamSyncConfig : Reader StreamSyncConfig := fun d => do
  let base : StreamSyncConfig := {}
  return {
    streams := ← fieldD d "streams" (listOf text) base.streams
    sync := ← fieldD d "sync" syncConfig base.sync }

def xlinkInConfig : Reader XLinkInConfig := fun d => return {
  stream := ← field d "stream" text
  frames := ← fieldD d "num_frames" nat defaultQueueSize
  maxDataSize := ← fieldD d "max_data_size" nat 0 }

def xlinkOutConfig : Reader XLinkOutConfig := fun d => return {
  stream := ← field d "stream" text
  fpsLimit := ← field? d "fps_limit" single }

def producerConfig : Reader ProducerConfig := fun d => do
  let base : ProducerConfig := {}
  return {
    count := ← field? d "count" nat
    interval := ← fieldD d "interval_ns" nat base.interval
    payloadSize := ← fieldD d "payload_size" nat base.payloadSize }

def nodeKinds : List NodeKind :=
  [.camera, .neuralNetwork, .streamSync, .xlinkIn, .xlinkOut, .producer]

def nodeKind : Reader NodeKind := named nodeKinds NodeKind.name

/-- A camera may also be given by its socket alone, under a kind of its own. -/
def nodeConfig (kindName : String) : Reader NodeConfig := fun d => do
  if kindName = "CameraSocket" then return .camera (.forSocket (← socket d))
  match ← nodeKind (.text kindName) with
  | .camera => return .camera (← cameraConfig d)
  | .neuralNetwork => return .neuralNetwork (← neuralNetworkConfig d)
  | .streamSync => return .streamSync (← streamSyncConfig d)
  | .xlinkIn => return .xlinkIn (← xlinkInConfig d)
  | .xlinkOut => return .xlinkOut (← xlinkOutConfig d)
  | .producer => return .producer (← producerConfig d)

/-- A port, or several whose names end in their numbers. -/
def repeatedPort : Reader (List Port) := fun d => do
  let p ← port d
  match ← field? d "repeat" nat with
  | none => return [p]
  | some n => return (List.range n).map fun i => { p with name := p.name ++ toString i }

/-- A minimal plugin has nothing beyond its ports. -/
def plugin : Reader Plugin := fun d => do
  let base : Plugin := {
    typeName := ← field d "type" text
    ports := (← fieldD d "ports" (listOf repeatedPort) []).flatten
    failure := ← field? d "fail" text }
  if ← fieldD d "minimal" flag false then return base
  let base := { base with
    maps := ← fieldD d "maps" (listOf portMap) []
    residency := ← fieldD d "residency" residency .host }
  return (← field? d "source" source).elim base base.offering

def cameraSetting (name : String) : Reader CameraSetting := fun d => do
  match name with
  | "board_socket" => return .socket (← socket d)
  | "camera_name" => return .cameraName (← text d)
  | "orientation" => return .orientation (← named Orientation.all Orientation.name d)
  | "sensor_size" => return .sensorSize (← size d)
  | "preview_size" => return .previewSize (← size d)
  | "video_size" => return .videoSize (← size d)
  | "still_size" => return .stillSize (← size d)
  | "fps" => return .fps (← single d)
  | "isp_3a_fps" => return .controlFps (← word d)
  | "mesh_source" => return .meshSource (← named MeshSource.all MeshSource.name d)
  | "mesh_data" => return .meshData (← bytes d)
  | "mesh_step" => return .meshStep (← size d)
  | "calibration_alpha" => return .calibrationAlpha (← single d)
  | "raw_packed" => return .rawPacked (← flag d)
  | "initial_control" => return .initialControl (← control d)
  | _ => refuse ("unknown setting " ++ name)

def neuralNetworkSetting (name : String) : Reader NeuralNetworkSetting := fun d => do
  match name with
  | "blob_path" => return .blobPath (← text d)
  | "num_inference_threads" => return .inferenceThreads (← word d)
  | "num_pool_frames" => return .poolFrames (← word d)
  | "backend" => return .backend (← text d)
  | _ => refuse ("unknown setting " ++ name)

def streamSyncSetting (name : String) : Reader StreamSyncSetting := fun d => do
  match name with
  | "tolerance_ns" | "tolerance" => return .tolerance (← nat d)
  | "max_backlog" => return .maxBacklog (← nat d)
  | _ => refuse ("unknown setting " ++ name)

def xlinkInSetting (name : String) : Reader XLinkInSetting := fun d => do
  match name with
  | "stream" | "stream_name" => return .stream (← text d)
  | "num_frames" => return .frames (← nat d)
  | "max_data_size" => return .maxDataSize (← nat d)
  | _ => refuse ("unknown setting " ++ name)

def xlinkOutSetting (name : String) : Reader XLinkOutSetting := fun d => do
  match name with
  | "stream" | "stream_name" => return .stream (← text d)
  | "fps_limit" => return .fpsLimit (← single d)
  | _ => refuse ("unknown setting " ++ name)

def producerSetting (name : String) : Reader ProducerSetting := fun d => do
  match name with
  | "count" => return .count (← nat d)
  | "interval_ns" | "interval" => return .interval (← nat d)
  | _ => refuse ("unknown setting " ++ name)

/-- A setting of a kind of node by its name; `none` changes nothing. -/
def setting (k : NodeKind) (name : String) : Reader Setting := fun d => do
  if name = "none" then return .keep k
  match k with
  | .camera => return .camera (← cameraSetting name d)
  | .neuralNetwork => return .neuralNetwork (← neuralNetworkSetting name d)
  | .streamSync => return .streamSync (← streamSyncSetting name d)
  | .xlinkIn => return .xlinkIn (← xlinkInSetting name d)
  | .xlinkOut => return .xlinkOut (← xlinkOutSetting name d)
  | .producer => return .producer (← producerSetting name d)

end FrameGraph.Wire
