import FrameGraph.Device.Thread
import FrameGraph.Device.Wiring
import FrameGraph.Graph.Build
import FrameGraph.HostStreams
import FrameGraph.Settings

/-!
# Devices

A device runs one graph, and serves the streams of its bridges to the host. It starts once and closes
once.

* `Device.start`: builds a graph, puts its queues in place and makes a thread for every node. What stands
  against a start may turn up late, and then the device is cleared of what was put in place; a start that
  panics leaves it there.
* `Device.wireLink`, `Device.enlist`: what a start does for one link, and for one node.
* `Device.openOutput`, `Device.inputQueue`: the streams for the host.
-/

namespace FrameGraph
set_option autoImplicit false

structure Served where
  stream : HostStream
  queue : QueueId
deriving DecidableEq

/-- How far the closing of a device has come. -/
inductive Closing where
  | notBegun
  /-- These queues are still to be closed. -/
  | closingQueues (left : List QueueId)
  /-- All queues are closed, and the threads are waited for. -/
  | joining
  | finished
deriving DecidableEq, Repr

structure Device where
  name : String
  /-- The queues of streams towards the host, unless they are opened with other ones. -/
  hostQueues : QueueSettings
  pollInterval : Nat
  /-- Events that are kept until they are read; others are lost. -/
  eventCapacity : Nat
  /-- Told and not read yet. -/
  events : List DeviceEvent := []
  running : Bool := false
  closing : Closing := .notBegun
  /-- The graph that runs, or that ran. -/
  graph : Option Graph := none
  served : List Served := []
  /-- The queues behind the linked inputs, and those of the streams. -/
  store : QueueStore Message := {}
  threads : List Thread := []
  /-- Nanoseconds since the start. -/
  now : Nat := 0

/-- What the graph has against being run. -/
def rejected {α : Type} : Except BuildError α → Except (Halt RuntimeError) α
  | .ok a => .ok a
  | .error e => .error (.failed (.graphRejected e.message))

/-- What a start holds in its hands: the graph that it takes the nodes from, and their threads so far. -/
structure Launch where
  graph : Graph
  threads : List Thread := []

namespace Device

def ofSettings (s : Settings) : Device where
  name := s.device.name
  hostQueues := s.queues
  pollInterval := s.device.pollInterval
  eventCapacity := max s.device.eventCapacity.toNat 1

def isClosed (d : Device) : Bool :=
  d.closing != .notBegun

/-! ## Starting -/

/-- The queue of a stream. One towards the host is made as the device is told to. -/
def streamQueue (d : Device) : HostStream → Except Panic (Queue Message)
  | .output name => Queue.create name d.hostQueues.size.toNat d.hostQueues.blocking
  | .input name size blocking => Queue.create name size blocking

/-- Takes all queues and streams off the device. -/
def resetWiring (d : Device) : Device :=
  { d with store := {}, served := [] }

/-- A start that is refused leaves nothing in place. -/
def clearAfter (d : Device) : Halt RuntimeError → Device
  | .failed _ => d.resetWiring
  | .panicked _ => d

/-- A new queue at the next free place. -/
def putQueue (queue : Except Panic (Queue Message)) : Edit Device (Halt RuntimeError) QueueId := do
  let queue ← Edit.ask fun _ => queue.mapError .panicked
  let (id, store) := (← get).store.insert queue
  Edit.change fun d => { d with store }
  return id

/-- The context of a node of a graph, before it is told of any queue. -/
def bareContext (d : Device) (g : Graph) (id : NodeId) : Context :=
  { node := id, name := (g.nodes[id.index]?.map Node.name).getD "", pollInterval := d.pollInterval }

/-- The queue behind an input. It is made for the first link that leads there. -/
def inletFor (g : Graph) (b : Bench) (input : PortId) : Edit Device (Halt RuntimeError) (QueueId × Bench) :=
  match b.queue? input with
  | some queue => return (queue, b)
  | none => do
    let port ← Edit.ask fun _ => rejected (g.descriptor input)
    let owner ← Edit.ask fun _ => rejected (g.node input.node)
    let queue ← putQueue (Queue.create (owner.qualified port) port.queueSize port.blocking)
    return (queue, b.attachInput input port.key queue)

/-- Both ends of a link are told of the queue between them. -/
def wireLink (g : Graph) (b : Bench) (l : Link) : Edit Device (Halt RuntimeError) Bench := do
  let output ← Edit.ask fun _ => rejected (g.descriptor l.source)
  let (queue, b) ← inletFor g b l.target
  return b.attachOutput l.source output.key queue

def wire (g : Graph) (b : Bench) : List Link → Edit Device (Halt RuntimeError) Bench
  | [] => return b
  | l :: rest => do
    let b ← wireLink g b l
    wire g b rest

/-- Puts a stream into service, under a name that no other stream has. -/
def serve (stream : HostStream) : Edit Device (Halt RuntimeError) QueueId := do
  Edit.require (fun d => !d.served.any fun s => s.stream.name == stream.name)
    (.failed (.graphRejected ("stream name '" ++ stream.name ++ "' is used twice")))
  let queue ← putQueue ((← get).streamQueue stream)
  Edit.change fun d => { d with served := d.served ++ [⟨stream, queue⟩] }
  return queue

/-- Takes a node out of the graph and makes its thread, with the stream that it serves. -/
def enlist (context : NodeId → Context) (l : Launch) (id : NodeId) :
    Edit Device (Halt RuntimeError) Launch := do
  match l.graph.takeBody id with
  | (none, _) => throw (.failed (.graphRejected (id.text ++ " cannot be started")))
  | (some body, graph) => match body.hostStream? with
    | none => return ⟨graph, l.threads ++ [⟨context id, .entering body⟩]⟩
    | some stream =>
      let queue ← serve stream
      return ⟨graph, l.threads ++ [⟨(context id).setHost queue, .entering body⟩]⟩

def enlistAll (context : NodeId → Context) (l : Launch) :
    List NodeId → Edit Device (Halt RuntimeError) Launch
  | [] => return l
  | id :: rest => do
    let l ← enlist context l id
    enlistAll context l rest

/-- The nodes are taken in the order of the plan. -/
def start (d : Device) (g : Graph) : Except (Halt RuntimeError) Unit × Device :=
  Edit.run d do
    Edit.require (fun d => !d.isClosed)
      (.failed (.deviceUnavailable ("device '" ++ d.name ++ "' is closed")))
    Edit.require (fun d => !d.running)
      (.failed (.deviceUnavailable ("device '" ++ d.name ++ "' is already running a pipeline")))
    let (plan, g) := g.build
    let plan ← Edit.ask fun _ => rejected plan
    let b ← Edit.clearing (fun e d => d.clearAfter e) (wire g { contexts := d.bareContext g } g.links)
    let l ← Edit.clearing (fun e d => d.clearAfter e)
      (enlistAll b.contexts { graph := g } (plan.order.map NodeId.mk))
    Edit.change fun d => { d with graph := some l.graph, running := true, now := 0 }
    Edit.change fun d => { d with threads := d.threads ++ l.threads }

/-! ## Streams -/

def outputQueue? (d : Device) (name : String) : Option QueueId :=
  (d.served.find? fun s => match s.stream with
    | .output other => other == name
    | .input .. => false).map Served.queue

def inputQueue? (d : Device) (name : String) : Option QueueId :=
  (d.served.find? fun s => match s.stream with
    | .input other .. => other == name
    | .output _ => false).map Served.queue

/-- The names of the streams towards the host, in the order of the nodes that serve them. -/
def outputNames (d : Device) : List String :=
  d.served.filterMap fun s => match s.stream with
    | .output name => some name
    | .input .. => none

def inputNames (d : Device) : List String :=
  d.served.filterMap fun s => match s.stream with
    | .input name .. => some name
    | .output _ => none

/-- The queue of a stream towards the host, with a new depth and policy. -/
def openOutput (d : Device) (name : String) (size : Nat) (blocking : Bool) :
    Except RuntimeError QueueId × Device :=
  let (result, store) := openQueue d.outputQueue? name size blocking d.store
  (result, { d with store })

def inputQueue (d : Device) (name : String) : Except RuntimeError QueueId :=
  match d.inputQueue? name with
  | some queue => .ok queue
  | none => .error (.unknownStream name)

def openStreams (d : Device) (names : List String) (size : Nat) (blocking : Bool) :
    Except RuntimeError HostStreams × Device :=
  let (result, store) := HostStreams.openAll d.outputQueue? names size blocking d.store
  (result, { d with store })

end Device

end FrameGraph
