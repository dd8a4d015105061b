import FrameGraph.Device.Life
import FrameGraph.Process.Solo

/-!
# Sessions with a device

A session is a host that uses a device: it makes one call after the other, and between its calls the
threads of the device go on until they have nothing to do. A call that has to wait is tried again as the
threads go on, and time passes where they wait for it.

* `Session.drive`: how the threads take turns.
* `Session.start`, `Session.send`, `Session.get` and so on: the calls.
* `Session.close`: closes the device.
-/

namespace FrameGraph
set_option autoImplicit false

structure Session where
  device : Device
  /-- The streams that were opened together last. -/
  opened : Option HostStreams := none
  /-- All events that were read so far. -/
  seen : List DeviceEvent := []

namespace Device

def stepAll (d : Device) : Bool × Device :=
  (List.range d.threads.length).foldl (fun (effect, d) index =>
    let (one, d) := d.stepThread index
    (effect || one, d)) (false, d)

def processes (d : Device) : List Process :=
  d.threads.filterMap fun t => t.phase.process?

def patience (d : Device) : Nat :=
  (d.processes.map Process.patience).foldl max 0

def due? (d : Device) : Option Nat :=
  (d.processes.filterMap Process.due?).filter (fun due => d.now < due) |>.min?

end Device

namespace Session
variable {β : Type}

/-! ## Taking turns -/

def onDevice (s : Session) (f : Device → β × Device) : β × Session :=
  let (b, device) := f s.device
  (b, { s with device })

def drive : Drive Session where
  round s :=
    let (effect, device) := s.device.stepAll
    (effect, { s with device := device.elapse stepNanos })
  patience s := s.device.patience
  skip s := s.device.due?.map fun due => { s with device := { s.device with now := due } }

def settle (s : Session) : Session :=
  drive.settle s

/-- A call that does not wait, and what the threads do then. -/
def perform (s : Session) (f : Device → β × Device) : β × Session :=
  let (b, s) := s.onDevice f
  (b, s.settle)

/-- The result of an attempt once it does not have to wait. -/
def ready? : Attempt β → Option (Except RuntimeError β)
  | .done result => some result
  | .wait => none

/-! ## Calls -/

def start (s : Session) (g : Graph) : Except (Halt RuntimeError) Unit × Session :=
  s.perform fun d => d.start g

def openOutput (s : Session) (stream : String) (size : Nat) (blocking : Bool) :
    Except RuntimeError QueueId × Session :=
  s.perform fun d => d.openOutput stream size blocking

/-- Sends into a queue; none if it stays full for ever. -/
def sendTo (s : Session) (queue : QueueId) (m : Message) :
    Option (Except RuntimeError Unit) × Session :=
  let (result, s) := drive.waitFor (fun s => s.onDevice fun d =>
    let (outcome, store) := d.store.offer queue m
    (ready? outcome, { d with store })) s
  (result, s.settle)

def send (s : Session) (stream : String) (m : Message) : Option (Except RuntimeError Unit) × Session :=
  match s.device.inputQueue stream with
  | .error e => (some (.error e), s)
  | .ok queue => s.sendTo queue m

/-- Takes from a queue; none if nothing ever comes. -/
def takeFrom (s : Session) (queue : QueueId) : Option (Except RuntimeError Message) × Session :=
  let (result, s) := drive.waitFor (fun s => s.onDevice fun d =>
    let (outcome, store) := d.store.take queue
    (ready? outcome, { d with store })) s
  (result, s.settle)

def get (s : Session) (stream : String) : Option (Except RuntimeError Message) × Session :=
  match s.device.outputQueue? stream with
  | none => (some (.error (.unknownStream stream)), s)
  | some queue => s.takeFrom queue

def openStreams (s : Session) (names : List String) (size : Nat) (blocking : Bool) :
    Except RuntimeError HostStreams × Session :=
  match s.perform fun d => d.openStreams names size blocking with
  | (.ok opened, s) => (.ok opened, { s with opened := some opened })
  | (.error e, s) => (.error e, s)

def attemptSet (s : Session) : Option (Except RuntimeError StreamSet) × Session :=
  match s.opened with
  | none => (none, s)
  | some opened =>
    let (outcome, opened, store) := opened.getSet s.device.store
    (ready? outcome, { s with opened := some opened, device := { s.device with store } })

def getSet (s : Session) : Option (Except RuntimeError StreamSet) × Session :=
  let (result, s) := drive.waitFor attemptSet s
  (result, s.settle)

/-- Time passes up to the deadline, and not beyond the next thing that is due. -/
def driveUntil (deadline : Nat) : Drive Session :=
  { drive with
    skip s := some { s with device := { s.device with
      now := max s.device.now (min deadline (s.device.due?.getD deadline)) } } }

/-- An attempt that comes to nothing after the deadline, in nanoseconds, is the last one. -/
def attemptUntil (deadline : Nat) (s : Session) :
    Option (Except RuntimeError (Option StreamSet)) × Session :=
  match s.attemptSet with
  | (some result, s) => (some (result.map some), s)
  | (none, s) => (if deadline ≤ s.device.now then some (.ok none) else none, s)

/-- The next set, unless the deadline passes first. -/
def getSetUntil (s : Session) (deadline : Nat) : Except RuntimeError (Option StreamSet) × Session :=
  let (result, s) := (driveUntil deadline).waitFor (attemptUntil deadline) s
  (result.getD (.ok none), s)

/-! ## Events -/

def readEvents (s : Session) : Session :=
  { s with seen := s.seen ++ s.device.events, device := { s.device with events := [] } }

/-- The first failure that the device tells of; none if nothing ever fails. -/
def awaitFailure (s : Session) : Option DeviceEvent × Session :=
  drive.waitFor (fun s =>
    let s := s.readEvents
    (s.seen.find? DeviceEvent.isFailure, s)) s

/-! ## Closing -/

/-- Closing takes its steps between those of the threads. -/
def closing : Drive Session where
  round s :=
    let (effect, device) := s.device.stepAll
    let finished := s.device.closing == .finished
    (effect || !finished, { s with device := (device.teardown 0).elapse stepNanos })
  patience _ := 0
  skip _ := none

def close (s : Session) : Session :=
  closing.settle s

end Session

end FrameGraph
