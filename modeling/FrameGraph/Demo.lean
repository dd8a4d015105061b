import FrameGraph.Device.Session
import FrameGraph.Graph.Links
import FrameGraph.LogFilter

/-!
# A demonstration

Two cameras feed a synchronizer, and the host reads what it has matched: `rgb` is in colour, and `disp`
stands in for the disparity of a stereo pair.

* `Demo.graph`: the graph for given settings.
* `Demo.start`: a device that runs it, with both streams opened.
* `Demo.next`: the next set, or none within half a second.
* `Demo.line`: the line that tells of a set.
-/

namespace FrameGraph.Demo
set_option autoImplicit false
open Number

variable {α : Type}

/-! ## The graph -/

/-- Steps that change a graph, up to the first one that fails. -/
abbrev Construction := Edit Graph BuildError

def changing (step : Graph → Except BuildError α × Graph) : Construction α :=
  ExceptT.mk step

/-- The streams of the demonstration, in the order of their names. -/
def streams : List String := ["disp", "rgb"]

/-- Leads a camera through the synchronizer to a stream of the host. -/
def connect (synchronizer camera : NodeId) (stream : String) : Construction Unit := do
  let preview ← Edit.ask fun g => g.output camera "preview"
  let entry ← changing fun g =>
    g.mapPort .input synchronizer StreamSync.inputGroup (StreamSync.inputEntry stream)
  discard <| changing fun g => g.link preview entry
  let bridge ← changing fun g => g.create (.xlinkOut { stream })
  let aligned ← changing fun g =>
    g.mapPort .output synchronizer StreamSync.outputGroup (StreamSync.outputEntry stream)
  let target ← Edit.ask fun g => g.input bridge "in"
  discard <| changing fun g => g.link aligned target

def construct (s : SyncSettings) : Construction Unit := do
  let rgb ← changing fun g =>
    g.createNamed "rgb" (.camera { CameraConfig.forSocket .camA with fps := s.fps })
  let disp ← changing fun g =>
    g.createNamed "disp" (.camera { CameraConfig.forSocket .camB with
      fps := s.fps, previewSize := ⟨640, 400⟩ })
  let synchronizer ← changing fun g => g.create (.streamSync { streams, sync := s.config })
  connect synchronizer disp "disp"
  connect synchronizer rgb "rgb"

def graph (s : Settings) : Except BuildError Graph :=
  match Edit.run {} (construct s.sync) with
  | (.ok (), g) => .ok g
  | (.error e, _) => .error e

/-! ## Running it -/

/-- Sets that wait to be read. -/
def depth : Nat := 4

/-- The longest time that one set is waited for. -/
def patience : Nat := 500 * nanosPerMilli

def failing (e : PipelineError) : Halt Error :=
  .failed (.pipeline e)

def start (s : Settings) : Except (Halt Error) Session := do
  discard <| (LogFilter.build s.logging.filter).mapError .failed
  let g ← (graph s).mapError fun e => failing (.build e)
  let session : Session := { device := .ofSettings s }
  let (started, session) := session.start g
  started.mapError (·.map fun e => .pipeline (.runtime e))
  let (opened, session) := session.openStreams streams depth false
  discard <| opened.mapError fun e => failing (.runtime e)
  return session

def next (session : Session) : Except RuntimeError (Option StreamSet) × Session :=
  session.getSetUntil (session.device.now + patience)

/-! ## Telling of it -/

/-- A part of a unit in decimal places, without zeros at the end. -/
def fraction (places part : Nat) : String :=
  let digits := (toString part).toList
  let padded := List.replicate (places - digits.length) '0' ++ digits
  match padded.reverse.dropWhile (· == '0') with
  | [] => ""
  | kept => "." ++ String.ofList kept.reverse

/-- A time in the largest unit that it holds one of. -/
def timeText (nanos : Nat) : String :=
  let inUnit (places : Nat) (name : String) :=
    toString (nanos / tenTo places) ++ fraction places (nanos % tenTo places) ++ name
  if tenTo 9 ≤ nanos then inUnit 9 "s"
  else if tenTo 6 ≤ nanos then inUnit 6 "ms"
  else if tenTo 3 ≤ nanos then inUnit 3 "µs"
  else inUnit 0 "ns"

/-- The number of a set, the times of its messages, and how far these are apart. -/
def line (number : Nat) (set : StreamSet) : String :=
  let stamps := set.entries.map fun entry => entry.1 ++ "=" ++ timeText entry.2.timestamp
  "[" ++ toString number ++ "] " ++ " ".intercalate stamps ++ " spread=" ++ timeText set.spread

/-! ## What it is asked for -/

inductive CountError where
  | empty
  | invalid
  | tooLarge
deriving DecidableEq, Repr

def CountError.message : CountError → String
  | empty => "cannot parse integer from empty string"
  | invalid => "invalid digit found in string"
  | tooLarge => "number too large to fit in target type"

/-- A number of seconds, with or without a plus sign. -/
def seconds (text : String) : Except CountError Nat :=
  let digits := match text.toList with
    | '+' :: c :: rest => c :: rest
    | cs => cs
  if digits.isEmpty then .error .empty
  else if !digits.all Data.isDigit then .error .invalid
  else if UInt64.size ≤ Data.decimalValue digits then .error .tooLarge
  else .ok (Data.decimalValue digits)

end FrameGraph.Demo
