/-!
# Kinds of built-in nodes
-/

namespace FrameGraph
set_option autoImplicit false

inductive NodeKind where
  | camera
  | neuralNetwork
  | streamSync
  | xlinkIn
  | xlinkOut
  | producer
deriving DecidableEq, Repr

/-- The name of a kind: the type that its nodes report, and the start of their generated names. -/
def NodeKind.name : NodeKind → String
  | camera => "Camera"
  | neuralNetwork => "NeuralNetwork"
  | streamSync => "StreamSync"
  | xlinkIn => "XLinkIn"
  | xlinkOut => "XLinkOut"
  | producer => "Producer"

end FrameGraph
