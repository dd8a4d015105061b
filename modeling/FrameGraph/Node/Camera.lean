import FrameGraph.Capability
import FrameGraph.Data.Datum
import FrameGraph.Port

/-!
# Cameras

A camera emits frames on its linked outputs, paced by its own clock or by the messages of `mockIsp`.
It is also a source: consumers request scaled outputs, which it serves beside the fixed ones.

* `CameraConfig` and `CameraConfig.codec`: its settings, and their data.
* `CameraSetting`: one change of the settings.
* `Camera.register`: adds a negotiated output, with the rate at which it thins out the frames.
-/

namespace FrameGraph
set_option autoImplicit false
open Data Number

/-! ## Settings -/

inductive Orientation where
  | auto
  | normal
  | horizontalMirror
  | verticalFlip
  | rotate180
deriving DecidableEq, Repr

namespace Orientation

def all : List Orientation := [auto, normal, horizontalMirror, verticalFlip, rotate180]

def name : Orientation → String
  | auto => "Auto"
  | normal => "Normal"
  | horizontalMirror => "HorizontalMirror"
  | verticalFlip => "VerticalFlip"
  | rotate180 => "Rotate180"

end Orientation

/-- Where the mesh that undistorts frames comes from. -/
inductive MeshSource where
  | none
  | uniform
  | calibration
deriving DecidableEq, Repr

namespace MeshSource

def all : List MeshSource := [none, uniform, calibration]

def name : MeshSource → String
  | none => "None"
  | uniform => "Uniform"
  | calibration => "Calibration"

end MeshSource

structure CameraConfig where
  socket : Socket := .auto
  /-- Selects the sensor by its name. -/
  cameraName : Option String := none
  orientation : Orientation := .auto
  /-- The resolution of the sensor; none stands for that of the socket. -/
  sensorSize : Option Size := none
  previewSize : Size := ⟨300, 300⟩
  videoSize : Option Size := none
  stillSize : Option Size := none
  fps : Single := .ofNat 30
  /-- The rate of exposure, white balance and focus; zero follows `fps`. -/
  controlFps : UInt32 := 0
  meshSource : MeshSource := .none
  meshData : List UInt8 := []
  meshStep : Size := ⟨32, 32⟩
  calibrationAlpha : Option Single := none
  rawPacked : Option Bool := none
  initialControl : CameraControl := {}
deriving DecidableEq

namespace CameraConfig

def forSocket (socket : Socket) : CameraConfig :=
  { socket }

/-- The resolution of the sensor that is used. -/
def sensor (c : CameraConfig) : Size :=
  c.sensorSize.getD c.socket.sensorSize

def sizeCodec : Codec Size :=
  (Codec.pair .uint32).map (fun p => ⟨p.1, p.2⟩) fun s => (s.width, s.height)

/-- The mesh and the first control are no part of the data. -/
def codec : Codec CameraConfig :=
  .ofFields [
    .of "board_socket" (.choice Socket.all Socket.name) socket fun v c => { c with socket := v },
    .of "camera_name" (.optional .text) cameraName fun v c => { c with cameraName := v },
    .of "orientation" (.choice Orientation.all Orientation.name) orientation
      fun v c => { c with orientation := v },
    .of "sensor_size" (.optional sizeCodec) sensorSize fun v c => { c with sensorSize := v },
    .of "preview_size" sizeCodec previewSize fun v c => { c with previewSize := v },
    .of "video_size" (.optional sizeCodec) videoSize fun v c => { c with videoSize := v },
    .of "still_size" (.optional sizeCodec) stillSize fun v c => { c with stillSize := v },
    .of "fps" .single fps fun v c => { c with fps := v },
    .of "isp_3a_fps" .uint32 controlFps fun v c => { c with controlFps := v },
    .of "mesh_source" (.choice MeshSource.all MeshSource.name) meshSource
      fun v c => { c with meshSource := v },
    .of "mesh_step" sizeCodec meshStep fun v c => { c with meshStep := v },
    .of "calibration_alpha" (.optional .single) calibrationAlpha
      fun v c => { c with calibrationAlpha := v },
    .of "raw_packed" (.optional .flag) rawPacked fun v c => { c with rawPacked := v }] {}

end CameraConfig

inductive CameraSetting where
  | socket (v : Socket)
  | cameraName (v : String)
  | orientation (v : Orientation)
  | sensorSize (v : Size)
  | previewSize (v : Size)
  | videoSize (v : Size)
  | stillSize (v : Size)
  | fps (v : Single)
  | controlFps (v : UInt32)
  | meshSource (v : MeshSource)
  /-- A mesh that is loaded is used. -/
  | meshData (v : List UInt8)
  | meshStep (v : Size)
  | calibrationAlpha (v : Single)
  | rawPacked (v : Bool)
  | initialControl (v : CameraControl)
deriving DecidableEq

def CameraConfig.set (c : CameraConfig) : CameraSetting → CameraConfig
  | .socket v => { c with socket := v }
  | .cameraName v => { c with cameraName := some v }
  | .orientation v => { c with orientation := v }
  | .sensorSize v => { c with sensorSize := some v }
  | .previewSize v => { c with previewSize := v }
  | .videoSize v => { c with videoSize := some v }
  | .stillSize v => { c with stillSize := some v }
  | .fps v => { c with fps := v }
  | .controlFps v => { c with controlFps := v }
  | .meshSource v => { c with meshSource := v }
  | .meshData v => { c with meshData := v, meshSource := .calibration }
  | .meshStep v => { c with meshStep := v }
  | .calibrationAlpha v => { c with calibrationAlpha := some v }
  | .rawPacked v => { c with rawPacked := some v }
  | .initialControl v => { c with initialControl := v }

/-! ## The node -/

structure DynamicOutput where
  key : String
  spec : OutputSpec
  /-- Every frame whose number is a multiple of this is emitted. -/
  decimation : Nat
deriving DecidableEq

structure Camera where
  config : CameraConfig
  dynamic : List DynamicOutput := []
deriving DecidableEq

namespace Camera

def frameType : Accepted := .exactly .imgFrame

def outputs : List String := ["video", "preview", "still", "isp", "raw", "frameEvent"]

def ports : List Port :=
  [{ name := "inputConfig", direction := .input, types := [.exactly .imageManipConfig],
     blocking := false },
   { name := "inputControl", direction := .input, types := [.exactly .cameraControl] },
   { name := "mockIsp", direction := .input, types := [frameType] }] ++
  outputs.map fun name => { name, direction := .output, types := [frameType] }

def dynamicGroup : String := "dynamicOutputs"

def maps : List PortMap :=
  [{ name := dynamicGroup, template := { name := "", direction := .output, types := [frameType] } }]

def source (c : Camera) : Source where
  kinds := [.imgFrame]
  residency := .device
  size := c.config.sensor
  fps := c.config.fps

/-- How many frames of the camera go into one frame of an output with the given rate. -/
def decimation (fps requested : Single) : Nat :=
  let ratio := if requested.isPositive
    then (fps.div requested).toNatWithin roundHalfUp (UInt64.size - 1) else 1
  max ratio 1

def register (c : Camera) (key : String) (spec : OutputSpec) : Camera :=
  { c with dynamic := c.dynamic ++
      [⟨portKey (some dynamicGroup) key, spec, decimation c.config.fps spec.fps⟩] }

/-- A frame of a camera holds no pixels, only what describes them. -/
def frame (c : Camera) (size : Size) (frameType : FrameType) : Payload :=
  .imgFrame { size, frameType, socket := c.config.socket, data := [] }

end Camera

end FrameGraph
