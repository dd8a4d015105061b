import FrameGraph.Graph.Basic

/-!
# Building a graph

A graph is built once: its links are put in order, its nodes become linked, and from then on it does not
change any more.

* `Graph.build`: the plan; the same one every time after the first.
* `Graph.takeBody`, `Graph.advanceState`: what happens to the nodes of a built graph while it runs.
-/

namespace FrameGraph
set_option autoImplicit false

namespace Graph

/-- The links between nodes by their numbers, one for every link between ports. -/
def edges (g : Graph) : List Edge :=
  g.links.map fun l => (l.source.node.index, l.target.node.index)

/-- Orders the links, and moves the nodes forward. -/
def compile : Edit Graph BuildError Plan := do
  let plan ← Edit.ask fun g => Plan.compile (g.nodes.map Node.name) g.edges
  Edit.change fun g => { g with nodes := g.nodes.map fun n => { n with state := n.state.advance .linked } }
  return plan

/-- The plan is taken out of the graph and put back, after it was made if there was none. -/
def build (g : Graph) : Except BuildError Plan × Graph :=
  Edit.run g do
    let earlier := (← get).plan
    Edit.change fun g => { g with plan := none }
    let plan ← match earlier with
      | some plan => pure plan
      | none => compile
    Edit.change fun g => { g with plan := some plan }
    return plan

def takeBody (g : Graph) (id : NodeId) : Option Body × Graph :=
  match g.nodes[id.index]? with
  | none => (none, g)
  | some n => (n.body, g.setNode id { n with body := none })

def advanceState (g : Graph) (id : NodeId) (state : NodeState) : Graph :=
  match g.nodes[id.index]? with
  | none => g
  | some n => g.setNode id { n with state := n.state.advance state }

end Graph

end FrameGraph
