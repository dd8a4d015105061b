import FrameGraph.Context
import FrameGraph.Node.Body
import FrameGraph.Node.Camera.Shooting

/-!
# The work of a node

While a node runs it goes over its agenda again and again. One item of the agenda is to look into an
input, or to look at the clock.

* `Poll` and `Agenda`: where a node looks, and in which order.
* `Work`: what a running node remembers.
* `Work.receive`, `Work.tick?`: what it sends for a message, and at a time at which something is due.
* `Body.begin`: how the body of a node starts to work, or that it ends or panics at once.
-/

namespace FrameGraph
set_option autoImplicit false

/-! ## Agendas -/

inductive Poll where
  /-- Takes one message from a queue, or as long as there are any. -/
  | look (place : Place) (queue : QueueId) (repeatedly : Bool)
  | clock
deriving DecidableEq

abbrev Agenda := List Poll

namespace Agenda

/-- Takes one message from each of the inputs that have a queue. -/
def each (c : Context) (keys : List String) : Agenda :=
  keys.filterMap fun key => (c.input? key).map fun queue => .look (.port key) queue false

/-- Takes all messages from an input, if it has a queue. -/
def all (c : Context) (key : String) : Agenda :=
  ((c.input? key).map fun queue => .look (.port key) queue true).toList

/-- What has an effect on a frame comes before what asks for the frame. -/
def camera (c : Context) : Agenda :=
  all c "inputControl" ++ all c "inputConfig" ++
    match each c ["mockIsp"] with
    | [] => [.clock]
    | frames => frames

def neuralNetwork (c : Context) : Agenda :=
  let keys := c.inputs.map Prod.fst
  each c ("in" :: keys.filter fun key => (NeuralNetwork.entryOfKey? key).isSome)

/-- One message of every stream, so that a burst on one of them does not outrun the others. -/
def streamSync (c : Context) : Agenda :=
  each c ((StreamSync.streamsOf (c.inputs.map Prod.fst)).map StreamSync.inputKey)

end Agenda

/-! ## Work -/

inductive Work where
  | camera (shooting : Shooting)
  | neuralNetwork (config : NeuralNetworkConfig)
  | streamSync (synchronizer : Synchronizer Message)
  | xlinkIn (config : XLinkInConfig)
  | xlinkOut (forwarding : Forwarding)
  | producer (production : Production)
  /-- Nothing to do until the end. -/
  | idle
deriving DecidableEq

namespace Work

/-- A camera takes every message at one of its inputs for a control, a configuration or a frame. -/
def receiveAtCamera (s : Shooting) (key : String) (m : Message) : List Emission × Shooting :=
  match key with
  | "inputControl" => ([], s.control m)
  | "inputConfig" => ([], s.configure m)
  | _ => s.shoot m.timestamp

/-- What is sent for a message that was taken at a place. -/
def receive (w : Work) (now : Nat) (place : Place) (m : Message) : List Emission × Work :=
  match w, place with
  | camera s, .port key => let (es, s) := receiveAtCamera s key m; (es, camera s)
  | neuralNetwork c, .port key => (NeuralNetwork.handle c key m, neuralNetwork c)
  | streamSync s, .port key => let (es, s) := StreamSync.handle s key m; (es, streamSync s)
  | xlinkIn c, .host => (c.forward m, xlinkIn c)
  | xlinkOut f, .port _ => (f.forward now m, xlinkOut f)
  | w, _ => ([], w)

/-- The work when the last delivery for a message has been made. -/
def handedOver (w : Work) (now : Nat) : Work :=
  match w with
  | xlinkOut f => xlinkOut (f.handedOver now)
  | w => w

/-- What is sent because a time has come; none if nothing is due. -/
def tick? (w : Work) (now : Nat) : Option (List Emission × Work) :=
  match w with
  | camera s => (s.tick? now).map fun (es, s) => (es, camera s)
  | producer p => (p.tick? now).map fun (es, p) => (es, producer p)
  | _ => none

/-- When something is due next, for work that goes by the clock. -/
def due? : Work → Option Nat
  | camera s => some s.due
  | producer p => some p.due
  | _ => none

def isDone : Work → Bool
  | producer p => p.isDone
  | _ => false

end Work

/-! ## The beginning -/

inductive Beginning where
  /-- It ends before it has done anything. -/
  | ended (result : Except RuntimeError Unit)
  | working (work : Work) (agenda : Agenda)

namespace Body

/-- A bridge needs the queue of its stream. One to the host that nothing feeds ends at once. A rate has to
have a period. -/
def begin (b : Body) (c : Context) (now : Nat) : Except Panic Beginning :=
  match b with
  | camera cam => do
    let period ← cam.period
    return .working (.camera (.start cam (c.isLinked "still") period now)) (Agenda.camera c)
  | neuralNetwork config => return .working (.neuralNetwork config) (Agenda.neuralNetwork c)
  | streamSync config =>
    return .working (.streamSync (.make (StreamSync.streamsOf (c.inputs.map Prod.fst)) config.sync))
      (Agenda.streamSync c)
  | xlinkIn config => match c.hostQueue with
    | .error e => return .ended (.error e)
    | .ok queue => return .working (.xlinkIn config) [.look .host queue false]
  | xlinkOut config => match c.hostQueue, c.input? "in" with
    | .error e, _ => return .ended (.error e)
    | .ok _, none => return .ended (.ok ())
    | .ok _, some queue => do
      let gap ← config.leastGap
      return .working (.xlinkOut { gap }) [.look (.port "in") queue false]
  | producer config => return .working (.producer (.start config now)) [.clock]
  | plugin p => match p.failure with
    | some reason => return .ended (.error (.nodeFailed c.name reason))
    | none => return .working .idle []

end Body

end FrameGraph
