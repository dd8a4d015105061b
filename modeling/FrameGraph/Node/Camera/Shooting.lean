import FrameGraph.Emission
import FrameGraph.Node.Camera
import FrameGraph.Rate

/-!
# Cameras at work

Every frame of a camera goes out once on each of its outputs, with one time and one number. Messages of
`mockIsp` pace it, each with its own time; without them its own clock does.

* `Shooting.control`, `Shooting.configure`: a message that changes what the next frames are like.
* `Shooting.shoot`: one frame on all outputs. A still goes out only when one is asked for, and a
  negotiated output leaves out the frames between the multiples of its rate.
* `Shooting.tick?`: the frame of the camera's own clock, once it is due.
-/

namespace FrameGraph
set_option autoImplicit false
open Number

structure Shooting where
  camera : Camera
  /-- Whether anything consumes the output `still`. -/
  stillLinked : Bool
  previewSize : Size
  /-- Whether a still is asked for that has not gone out yet. -/
  stillPending : Bool
  /-- Nanoseconds from one frame of the camera's own clock to the next. -/
  period : Nat
  /-- The number of the next frame. -/
  sequence : Nat := 0
  /-- When the camera's own clock asks for the next frame. -/
  due : Nat
deriving DecidableEq

/-- A rate that is not positive counts as one. -/
def Camera.period (c : Camera) : Except Panic Nat :=
  periodOf (if c.config.fps.isPositive then c.config.fps else .ofNat 1)

namespace Shooting

def start (camera : Camera) (stillLinked : Bool) (period now : Nat) : Shooting where
  camera
  stillLinked
  period
  previewSize := camera.config.previewSize
  stillPending := camera.config.initialControl.captureStill
  due := now

/-! ## Messages to the camera -/

def control (s : Shooting) (m : Message) : Shooting :=
  { s with stillPending := s.stillPending || m.control?.any CameraControl.captureStill }

def configure (s : Shooting) (m : Message) : Shooting :=
  { s with previewSize := m.resize?.getD s.previewSize }

/-! ## Frames -/

/-- The next frame as it goes out on one output. -/
def emission (s : Shooting) (timestamp : Nat) (key : String) (size : Size) (frameType : FrameType) :
    Emission :=
  .onPort key { timestamp, sequence := s.sequence, payload := s.camera.frame size frameType }

def steady (s : Shooting) (timestamp : Nat) : List Emission :=
  let c := s.camera.config
  [s.emission timestamp "preview" s.previewSize .bgr888i,
   s.emission timestamp "video" (c.videoSize.getD c.sensor) .nv12,
   s.emission timestamp "isp" c.sensor .yuv420p,
   s.emission timestamp "raw" c.sensor .raw10,
   s.emission timestamp "frameEvent" ⟨0, 0⟩ .raw10]

def takesStill (s : Shooting) : Bool :=
  s.stillPending && s.stillLinked

def still (s : Shooting) (timestamp : Nat) : List Emission :=
  let c := s.camera.config
  if s.takesStill then [s.emission timestamp "still" (c.stillSize.getD c.sensor) .nv12] else []

/-- The negotiated outputs that the next frame is not left out of. -/
def negotiated (s : Shooting) (timestamp : Nat) : List Emission :=
  (s.camera.dynamic.filter fun o => s.sequence % o.decimation == 0).map fun o =>
    s.emission timestamp o.key o.spec.size .bgr888i

def shoot (s : Shooting) (timestamp : Nat) : List Emission × Shooting :=
  (s.steady timestamp ++ s.still timestamp ++ s.negotiated timestamp,
   { s with sequence := s.sequence + 1, stillPending := s.stillPending && !s.takesStill })

/-! ## The camera's own clock -/

/-- None as long as no frame is due. -/
def tick? (s : Shooting) (now : Nat) : Option (List Emission × Shooting) :=
  if now < s.due then none else some ({ s with due := s.due + s.period }.shoot now)

end Shooting

end FrameGraph
