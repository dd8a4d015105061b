/-!
# Kinds of messages

The kinds form a small tree with `Kind.buffer` at its root. A port that takes a kind with its
descendants takes every kind below it in the tree.

* `Kind.parent`: the kind directly above, none for the root.
* `Kind.lineage`: a kind and those above it; `Kind.derivesFrom` asks whether another is among them.
* `Kind.all`: every kind, in the order in which kinds compare.
-/

namespace FrameGraph
set_option autoImplicit false

inductive Kind where
  | buffer
  | imgFrame
  | encodedFrame
  | nnData
  | imgDetections
  | imageManipConfig
  | cameraControl
deriving DecidableEq, Repr

namespace Kind

def all : List Kind :=
  [buffer, imgFrame, encodedFrame, nnData, imgDetections, imageManipConfig, cameraControl]

theorem mem_all (k : Kind) : k ∈ all := by
  cases k <;> decide

def name : Kind → String
  | buffer => "Buffer"
  | imgFrame => "ImgFrame"
  | encodedFrame => "EncodedFrame"
  | nnData => "NNData"
  | imgDetections => "ImgDetections"
  | imageManipConfig => "ImageManipConfig"
  | cameraControl => "CameraControl"

def parent : Kind → Option Kind
  | buffer => none
  | imgDetections => some nnData
  | _ => some buffer

/-- A kind and those above it, up to the root. -/
def lineage : Kind → List Kind
  | buffer => [buffer]
  | imgDetections => [imgDetections, nnData, buffer]
  | k => [k, buffer]

theorem lineage_eq (k : Kind) : k.lineage = k :: (k.parent.map lineage).getD [] := by
  cases k <;> rfl

/-- Whether `k` is `base` or stands below it. -/
def derivesFrom (k base : Kind) : Bool :=
  k.lineage.contains base

/-- The place of a kind in `Kind.all`. -/
def rank : Kind → Nat
  | buffer => 0
  | imgFrame => 1
  | encodedFrame => 2
  | nnData => 3
  | imgDetections => 4
  | imageManipConfig => 5
  | cameraControl => 6

end Kind

end FrameGraph
