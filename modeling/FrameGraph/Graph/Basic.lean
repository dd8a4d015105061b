import FrameGraph.Graph.Node
import FrameGraph.Plan

/-!
# Graphs

A graph is put together node by node and link by link, until it is built. The operations answer their
result and the graph after them.

* `Graph.editNode`: an edit of one node in its place.
* `Graph.create`, `Graph.createNamed`, `Graph.addPlugin`: new nodes.
* `Graph.configure`, `Graph.inspect`: the settings of built-in nodes.
-/

namespace FrameGraph
set_option autoImplicit false

structure Link where
  id : LinkId
  source : PortId
  target : PortId
deriving DecidableEq, Repr

structure Graph where
  nodes : List Node := []
  /-- The nodes by their names. -/
  names : List (String × NodeId) := []
  /-- In the order of their creation. -/
  links : List Link := []
  nextLink : UInt32 := 0
  /-- The plan, once the graph has been built. -/
  plan : Option Plan := none

namespace Graph
variable {ε α : Type}

def node (g : Graph) (id : NodeId) : Except BuildError Node :=
  match g.nodes[id.index]? with
  | some n => .ok n
  | none => .error (.unknownNode id)

def setNode (g : Graph) (id : NodeId) (n : Node) : Graph :=
  { g with nodes := g.nodes.set id.index n }

/-- An edit of one node in its place. What it has changed stays changed when it fails. -/
def editNode (id : NodeId) (unknown : ε) (edit : Edit Node ε α) : Edit Graph ε α := do
  match (← get).nodes[id.index]? with
  | none => throw unknown
  | some n =>
    let (result, n) := Edit.run n edit
    Edit.change fun g => g.setNode id n
    Edit.ask fun _ => result

def nodeIds (g : Graph) : List NodeId :=
  (List.range g.nodes.length).map NodeId.mk

def isBuilt (g : Graph) : Bool :=
  g.plan.isSome

/-! ## Names -/

def findNode? (g : Graph) (name : String) : Option NodeId :=
  g.names.lookup name

/-- A name followed by the smallest number that makes it new. The number is not bounded: one beyond 31 bits comes up only
with as many nodes. -/
def freshName (g : Graph) (base : String) : String :=
  match (List.range (g.nodes.length + 1)).find? fun i => (g.findNode? (base ++ toString i)).isNone with
  | some i => base ++ toString i
  | none => base

/-! ## Nodes -/

def insert (g : Graph) (name : String) (body : Body) : Except BuildError NodeId × Graph :=
  Edit.run g do
    Edit.require (fun g => !g.isBuilt) (.alreadyLinked name)
    Edit.require (fun g => (g.findNode? name).isNone) (.duplicateNodeName name)
    let id : NodeId := ⟨(← get).nodes.length⟩
    let n ← Edit.ask fun _ => Node.make id name body
    Edit.change fun g => { g with nodes := g.nodes ++ [n] }
    Edit.change fun g => { g with names := (name, id) :: g.names }
    return id

def createNamed (g : Graph) (name : String) (config : NodeConfig) : Except BuildError NodeId × Graph :=
  g.insert name config.body

def create (g : Graph) (config : NodeConfig) : Except BuildError NodeId × Graph :=
  g.createNamed (g.freshName config.kind.name) config

def addPlugin (g : Graph) (name : String) (plugin : Plugin) : Except BuildError NodeId × Graph :=
  g.insert name (.plugin plugin)

/-- Changes the body of a built-in node of a kind, and answers the body after that. -/
def adjust (g : Graph) (id : NodeId) (kind : NodeKind) (change : Body → Body) : Except BuildError Body × Graph :=
  Edit.run g (editNode id (.unknownNode id) (Node.adjust kind change))

def configure (g : Graph) (id : NodeId) (setting : Setting) : Except BuildError Body × Graph :=
  g.adjust id setting.kind fun body => body.set setting

def inspect (g : Graph) (id : NodeId) (kind : NodeKind) : Except BuildError Body := do
  (← g.node id).bodyOf kind

end Graph

end FrameGraph
