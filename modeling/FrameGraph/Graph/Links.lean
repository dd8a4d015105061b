import FrameGraph.Graph.Ports

/-!
# Links of a graph

* `Graph.link`: connects an output with an input that accepts it. The same link twice is one link, and
  an input takes a second one only if it is declared for several.
* `Graph.unlink`: removes a link, and answers whether there was one.
-/

namespace FrameGraph
set_option autoImplicit false

namespace Graph

/-- A mutable node, with the port at one end of a link. -/
def linkEnd (g : Graph) (id : PortId) : Except BuildError (Node × Port) := do
  let n ← g.node id.node
  n.requireMutable
  return (n, ← n.port id.position)

/-- The direction of both ends is right, and the input accepts something of the output. -/
def requireMatch (producer consumer : Node × Port) : Except BuildError Unit := do
  let (producer, output) := producer
  let (consumer, input) := consumer
  producer.requireDirection output .output
  consumer.requireDirection input .input
  if input.acceptsFrom output then return ()
  throw (.typeMismatch (producer.qualified output) (consumer.qualified input) output.kinds input.kinds)

def link (g : Graph) (source target : PortId) : Except BuildError LinkId × Graph :=
  Edit.run g do
    let producer ← Edit.ask fun g => g.linkEnd source
    let consumer ← Edit.ask fun g => g.linkEnd target
    Edit.ask fun _ => requireMatch producer consumer
    match (← get).links.find? fun l => l.source == source && l.target == target with
    | some l => return l.id
    | none =>
      let (owner, input) := consumer
      Edit.require (fun g => input.fanIn || !g.links.any fun l => l.target == target)
        (.inputAlreadyLinked (owner.qualified input))
      let id : LinkId := ⟨(← get).nextLink.toNat⟩
      Edit.change fun g => { g with nextLink := g.nextLink + 1 }
      Edit.change fun g => { g with links := g.links ++ [⟨id, source, target⟩] }
      return id

/-- Whether a node exists and may still change. -/
def requireMutable (g : Graph) (id : NodeId) : Except BuildError Unit := do
  (← g.node id).requireMutable

def unlink (g : Graph) (id : LinkId) : Except BuildError Bool × Graph :=
  Edit.run g do
    match (← get).links.find? fun l => l.id == id with
    | none => return false
    | some l =>
      Edit.ask fun g => g.requireMutable l.source.node
      Edit.ask fun g => g.requireMutable l.target.node
      Edit.change fun g => { g with links := g.links.filter fun l => l.id != id }
      return true

def sourcesOf (g : Graph) (input : PortId) : List PortId :=
  (g.links.filter fun l => l.target == input).map Link.source

def targetsOf (g : Graph) (output : PortId) : List PortId :=
  (g.links.filter fun l => l.source == output).map Link.target

end Graph

end FrameGraph
