import FrameGraph.Kind
import FrameGraph.Number.Floating

/-!
# Messages

A message is an envelope with a device time in nanoseconds, a sequence number and a payload. The
payload fixes the kind of the message.

* `Payload.kind`: the kind of a payload.
* `Payload.dataLength`: the bytes that a payload carries.
* `Message.sameAs`: equality of contents, with floating numbers compared as numbers.
-/

namespace FrameGraph
set_option autoImplicit false
open Number

structure Size where
  width : UInt32
  height : UInt32
deriving DecidableEq, Repr

inductive Socket where
  | auto
  | camA
  | camB
  | camC
  | camD
deriving DecidableEq, Repr

namespace Socket

def all : List Socket := [auto, camA, camB, camC, camD]

def name : Socket → String
  | auto => "Auto"
  | camA => "CamA"
  | camB => "CamB"
  | camC => "CamC"
  | camD => "CamD"

/-- The resolution of the sensor that is expected on a socket. -/
def sensorSize : Socket → Size
  | auto | camA => ⟨1920, 1080⟩
  | camB | camC | camD => ⟨1280, 800⟩

end Socket

inductive FrameType where
  | nv12
  | yuv420p
  | bgr888i
  | bgr888p
  | gray8
  | raw10
deriving DecidableEq, Repr

namespace FrameType

def all : List FrameType := [nv12, yuv420p, bgr888i, bgr888p, gray8, raw10]

def name : FrameType → String
  | nv12 => "Nv12"
  | yuv420p => "Yuv420p"
  | bgr888i => "Bgr888i"
  | bgr888p => "Bgr888p"
  | gray8 => "Gray8"
  | raw10 => "Raw10"

end FrameType

structure ImgFrame where
  size : Size
  frameType : FrameType
  /-- The camera that took the frame. -/
  socket : Socket
  data : List UInt8
deriving DecidableEq

/-- Named layers of numbers, in the order of their names. -/
structure Tensors where
  layers : List (String × List Single)
deriving DecidableEq

/-- A crop rectangle in fractions of the frame. -/
structure Crop where
  left : Single
  top : Single
  right : Single
  bottom : Single
deriving DecidableEq

structure ImageManipConfig where
  crop : Option Crop := none
  resize : Option Size := none
deriving DecidableEq

structure CameraControl where
  captureStill : Bool := false
  exposureMicros : Option UInt32 := none
  lensPosition : Option UInt8 := none
deriving DecidableEq

inductive Payload where
  | buffer (data : List UInt8)
  | imgFrame (frame : ImgFrame)
  | encodedFrame (data : List UInt8)
  | nnData (tensors : Tensors)
  | imgDetections (tensors : Tensors)
  | imageManipConfig (config : ImageManipConfig)
  | cameraControl (control : CameraControl)
deriving DecidableEq

structure Message where
  /-- Nanoseconds on the device clock. -/
  timestamp : Nat
  sequence : Nat
  payload : Payload
deriving DecidableEq

/-! ## Kinds and lengths -/

namespace Payload

def kind : Payload → Kind
  | buffer _ => .buffer
  | imgFrame _ => .imgFrame
  | encodedFrame _ => .encodedFrame
  | nnData _ => .nnData
  | imgDetections _ => .imgDetections
  | imageManipConfig _ => .imageManipConfig
  | cameraControl _ => .cameraControl

/-- Bytes of raw data; payloads of numbers and settings count as none. -/
def dataLength : Payload → Nat
  | buffer data | encodedFrame data => data.length
  | imgFrame frame => frame.data.length
  | _ => 0

end Payload

namespace Message

def kind (m : Message) : Kind :=
  m.payload.kind

def frame? (m : Message) : Option ImgFrame :=
  match m.payload with
  | .imgFrame frame => some frame
  | _ => none

def control? (m : Message) : Option CameraControl :=
  match m.payload with
  | .cameraControl control => some control
  | _ => none

/-- The size that a configuration message asks for, if it asks for one. -/
def resize? (m : Message) : Option Size :=
  match m.payload with
  | .imageManipConfig config => config.resize
  | _ => none

end Message

/-! ## Layers by name -/

/-- Puts a layer at its place in the order of names, in place of one of the same name. -/
def putLayer (name : String) (values : List Single) :
    List (String × List Single) → List (String × List Single)
  | [] => [(name, values)]
  | (other, old) :: rest =>
    if name < other then (name, values) :: (other, old) :: rest
    else if name = other then (name, values) :: rest
    else (other, old) :: putLayer name values rest

def Tensors.ofList (layers : List (String × List Single)) : Tensors :=
  ⟨layers.foldl (fun acc (name, values) => putLayer name values acc) []⟩

/-! ## Equality of contents -/

/-- Two lists of one length whose items match in pairs. -/
def allMatch {α : Type} (same : α → α → Bool) : List α → List α → Bool
  | [], [] => true
  | a :: as, b :: bs => same a b && allMatch same as bs
  | _, _ => false

def Tensors.sameAs (a b : Tensors) : Bool :=
  allMatch (fun x y => x.1 == y.1 && allMatch Floating.equals x.2 y.2) a.layers b.layers

def Crop.sameAs (a b : Crop) : Bool :=
  a.left.equals b.left && a.top.equals b.top && a.right.equals b.right && a.bottom.equals b.bottom

def ImageManipConfig.sameAs (a b : ImageManipConfig) : Bool :=
  decide (a.resize = b.resize) && match a.crop, b.crop with
    | none, none => true
    | some x, some y => x.sameAs y
    | _, _ => false

def Payload.sameAs : Payload → Payload → Bool
  | .nnData a, .nnData b => a.sameAs b
  | .imgDetections a, .imgDetections b => a.sameAs b
  | .imageManipConfig a, .imageManipConfig b => a.sameAs b
  | a, b => decide (a = b)

def Message.sameAs (a b : Message) : Bool :=
  decide (a.timestamp = b.timestamp) && decide (a.sequence = b.sequence) &&
    a.payload.sameAs b.payload

/-! ## Things with a time -/

/-- What carries a time on the device clock, in nanoseconds. -/
class Timestamped (α : Type) where
  timestamp : α → Nat

instance : Timestamped Message where
  timestamp := Message.timestamp

end FrameGraph
