import FrameGraph.Capability
import FrameGraph.Data.Datum
import FrameGraph.Plan
import FrameGraph.Port
import FrameGraph.Queue
import FrameGraph.Synchronizer

/-!
# Values from data

The wire form of a value is what a program outside says to name it. Enumerated values go by their names,
structures by records whose optional entries may be absent or null, and floating numbers by numbers or
by `"nan"`, `"inf"` and `"-inf"`.

* `Reader`: reads a value, or says what is wrong with the data. Making the value may panic.
* `field`, `field?`, `fieldD`: an entry of a record, which must be there, may be there, or has a default.
-/

namespace FrameGraph.Wire
set_option autoImplicit false
open Data Number

abbrev Result := Except (Halt String)

abbrev Reader (α : Type) := Datum → Result α

variable {α : Type}

def refuse (reason : String) : Result α :=
  .error (.failed reason)

/-- Making the value may panic. -/
def made (value : Except Panic α) : Result α :=
  value.mapError .panicked

/-! ## Entries -/

/-- An entry of a record; null counts as absent. -/
def get? (d : Datum) (key : String) : Option Datum :=
  match d with
  | .record entries => match (entries.find? fun entry => entry.1 == key).map Prod.snd with
    | some .null => none
    | other => other
  | _ => none

def field (d : Datum) (key : String) (read : Reader α) : Result α :=
  match get? d key with
  | some v => read v
  | none => refuse ("no entry " ++ key)

def field? (d : Datum) (key : String) (read : Reader α) : Result (Option α) :=
  match get? d key with
  | some v => (read v).map some
  | none => .ok none

def fieldD (d : Datum) (key : String) (read : Reader α) (default : α) : Result α :=
  return (← field? d key read).getD default

/-! ## Scalars and lists -/

def nat : Reader Nat
  | .whole n => .ok n.toNat
  | _ => refuse "not a whole number"

def word : Reader UInt32 := fun d => return UInt32.ofNat (← nat d)

def flag : Reader Bool
  | .flag b => .ok b
  | _ => refuse "not a flag"

def text : Reader String
  | .text s => .ok s
  | _ => refuse "not a text"

def list : Reader (List Datum)
  | .list items => .ok items
  | _ => refuse "not a list"

def listOf (item : Reader α) : Reader (List α) := fun d => do (← list d).mapM item

/-- Numbers are read with 64 bits first. -/
def single : Reader Single
  | .whole n => .ok (Floating.convert (Floating.ofInt n : Double))
  | .real x => .ok x.convert
  | .single x => .ok x
  | .text "nan" => .ok .nan
  | .text "inf" => .ok (.infinite false)
  | .text "-inf" => .ok (.infinite true)
  | _ => refuse "not a number"

def named (all : List α) (name : α → String) : Reader α := fun d => do
  let s ← text d
  match all.find? fun v => name v == s with
  | some v => .ok v
  | none => refuse ("unknown name " ++ s)

/-! ## Ports and capabilities -/

def kind : Reader Kind := named Kind.all Kind.name

def residency : Reader Residency := named Residency.all Residency.name

def direction : Reader Direction := named [.input, .output] Direction.name

def socket : Reader Socket := named Socket.all Socket.name

def frameType : Reader FrameType := named FrameType.all FrameType.name

def nodeId : Reader NodeId := fun d => return ⟨← nat d⟩

def size : Reader Size := fun d => do
  match ← listOf word d with
  | [w, h] => .ok ⟨w, h⟩
  | _ => refuse "not a size"

def types : Reader (List Accepted) := listOf fun d => do
  match ← list d with
  | [k, descendants] => return ⟨← kind k, ← flag descendants⟩
  | _ => refuse "not a type"

def port : Reader Port := fun d => return {
  group := ← field? d "group" text
  name := ← field d "name" text
  direction := ← field d "dir" direction
  types := ← field d "types" types
  queueSize := ← fieldD d "queue_size" nat defaultQueueSize
  blocking := ← fieldD d "blocking" flag true
  fanIn := ← fieldD d "fan_in" flag false }

def portMap : Reader PortMap := fun d => return {
  name := ← field d "name" text
  template := ← field d "template" port
  initialKeys := ← fieldD d "keys" (listOf text) [] }

def request : Reader Request := fun d => return {
  kind := ← field d "kind" kind
  size := ← field? d "size" size
  fps := ← field? d "fps" single
  residency := if ← fieldD d "on_host" flag false then .host else .device
  name := ← field? d "name" text }

def source : Reader Source := fun d => return {
  kinds := ← field d "kinds" (listOf kind)
  residency := ← field d "residency" residency
  size := ← field d "size" size
  fps := ← field d "fps" single }

def edge : Reader Edge := fun d => do
  match ← listOf nat d with
  | [a, b] => .ok (a, b)
  | _ => refuse "not a link"

/-! ## Messages -/

def bytes : Reader (List UInt8) := listOf fun d => return UInt8.ofNat (← nat d)

/-- Raw data, as bytes or as a number of zeros. -/
def rawData : Reader (List UInt8) := fun d => do
  match get? d "data" with
  | some b => bytes b
  | none => return List.replicate (← fieldD d "len" nat 0) 0

def tensors : Reader Tensors := fun d => do
  match get? d "layers" with
  | some (.record layers) =>
    return .ofList (← layers.mapM fun layer => return (layer.1, ← listOf single layer.2))
  | _ => return .ofList []

def control : Reader CameraControl := fun d => return {
  captureStill := ← fieldD d "capture_still" flag false
  exposureMicros := ← field? d "manual_exposure_us" word
  lensPosition := (← field? d "lens_position" nat).map UInt8.ofNat }

def crop : Reader Crop := fun d => do
  match ← listOf single d with
  | [left, top, right, bottom] => .ok ⟨left, top, right, bottom⟩
  | _ => refuse "not a crop"

def payload : Reader Payload := fun d => do
  match ← field d "kind" kind with
  | .buffer => return .buffer (← rawData d)
  | .encodedFrame => return .encodedFrame (← rawData d)
  | .imgFrame => return .imgFrame {
      size := ⟨← fieldD d "width" word 0, ← fieldD d "height" word 0⟩
      frameType := ← fieldD d "frame_type" frameType .nv12
      socket := ← fieldD d "instance" socket .auto
      data := ← rawData d }
  | .nnData => return .nnData (← tensors d)
  | .imgDetections => return .imgDetections (← tensors d)
  | .imageManipConfig => return .imageManipConfig {
      crop := ← field? d "crop" crop
      resize := ← field? d "resize" size }
  | .cameraControl => return .cameraControl (← control d)

def message : Reader Message := fun d => return {
  timestamp := ← fieldD d "ts" nat 0
  sequence := ← fieldD d "seq" nat 0
  payload := ← fieldD d "payload" payload (.buffer []) }

def syncConfig : Reader SyncConfig := fun d => do
  let base : SyncConfig ← match get? d "tolerance_ns" with
    | some nanos => pure { tolerance := ← nat nanos }
    | none => pure (.ofWindow (← field d "window_ms" nat) (← field d "fps" single))
  return (← field? d "max_backlog" nat).elim base base.withMaxBacklog

def queue : Reader (Queue Message) := fun d => do
  made (Queue.create (← field d "name" text) (← field d "max_size" nat) (← field d "blocking" flag))

end FrameGraph.Wire
