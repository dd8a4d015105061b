import FrameGraph.Data.Datum
import FrameGraph.Emission
import FrameGraph.Port

/-!
# Neural networks

Every message from `in`, or from an entry of `inputs`, gives one result on `out` with the time and the
number of the message, which itself goes on to the matching pass-through output.

* `NeuralNetwork.infer`: the result of a message.
* `NeuralNetwork.handle`: all that is sent for a message.
-/

namespace FrameGraph
set_option autoImplicit false
open Data Number

structure NeuralNetworkConfig where
  /-- The compiled network. -/
  blobPath : Option String := none
  inferenceThreads : UInt32 := 2
  poolFrames : UInt32 := 4
  backend : Option String := none
  /-- The layer that results hold. -/
  outputLayer : String := "output"
deriving DecidableEq

namespace NeuralNetworkConfig

def codec : Codec NeuralNetworkConfig :=
  .ofFields [
    .of "blob_path" (.optional .text) blobPath fun v c => { c with blobPath := v },
    .of "num_inference_threads" .uint32 inferenceThreads
      fun v c => { c with inferenceThreads := v },
    .of "num_pool_frames" .uint32 poolFrames fun v c => { c with poolFrames := v },
    .of "backend" (.optional .text) backend fun v c => { c with backend := v },
    .of "output_layer" .text outputLayer fun v c => { c with outputLayer := v }] {}

end NeuralNetworkConfig

inductive NeuralNetworkSetting where
  | blobPath (v : String)
  | inferenceThreads (v : UInt32)
  | poolFrames (v : UInt32)
  | backend (v : String)
deriving DecidableEq

def NeuralNetworkConfig.set (c : NeuralNetworkConfig) : NeuralNetworkSetting → NeuralNetworkConfig
  | .blobPath v => { c with blobPath := some v }
  | .inferenceThreads v => { c with inferenceThreads := v }
  | .poolFrames v => { c with poolFrames := v }
  | .backend v => { c with backend := some v }

namespace NeuralNetwork

/-- The map of further inputs, and that of the outputs that belong to them. -/
def inputGroup : String := "inputs"

def outputGroup : String := "passthroughs"

def ports : List Port :=
  [{ name := "in", direction := .input, types := [.any], queueSize := 5 },
   { name := "out", direction := .output, types := [.exactly .nnData] },
   { name := "passthrough", direction := .output, types := [.any] }]

def maps : List PortMap :=
  [{ name := inputGroup
     template := { name := "", direction := .input, types := [.any], queueSize := 1
                   blocking := false } },
   { name := outputGroup
     template := { name := "", direction := .output, types := [.any] } }]

/-- What a payload is measured by: the area of a frame, the length of raw data. -/
def measure : Payload → Single
  | .imgFrame frame =>
    (Floating.ofNat frame.size.width.toNat).mul (.ofNat frame.size.height.toNat)
  | .buffer data | .encodedFrame data => .ofNat data.length
  | _ => .ofNat 0

def infer (c : NeuralNetworkConfig) (input : Message) : Message where
  timestamp := input.timestamp
  sequence := input.sequence
  payload := .nnData (.ofList [(c.outputLayer, [measure input.payload])])

/-! ## At work -/

/-- The entry of `inputs` that a key stands for. -/
def entryOfKey? (key : String) : Option String :=
  let start := (portKey (some inputGroup) "").toList
  if start.isPrefixOf key.toList then some (String.ofList (key.toList.drop start.length)) else none

/-- The output to which the messages of an input go on. -/
def passthroughOf (key : String) : String :=
  match entryOfKey? key with
  | some entry => portKey (some outputGroup) entry
  | none => "passthrough"

def handle (c : NeuralNetworkConfig) (key : String) (input : Message) : List Emission :=
  [.onPort "out" (infer c input), .onPort (passthroughOf key) input]

end NeuralNetwork

end FrameGraph
