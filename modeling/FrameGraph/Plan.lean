import FrameGraph.Error

/-!
# Execution plans

A plan orders the nodes of a graph so that every link runs forward. Nodes are numbered from zero and
a link is a pair of numbers; links that name no node are left aside, and repeated ones count once.

* `Adjacency.ofLinks`: for every node the nodes that it feeds, and the distinct links in the order of their
  first occurrence.
* `Sorting`: the state of the sort. A node becomes ready when all its predecessors are placed, and
  ready nodes are placed in the order in which they became so.
* `Plan.compile`: the plan, or the names of the nodes that no order can place.
-/

namespace FrameGraph
set_option autoImplicit false

/-- A link between two nodes by their numbers, from the producer to the consumer. -/
abbrev Edge := Nat × Nat

/-! ## Links by node -/

structure Adjacency where
  /-- For each node the nodes that it feeds. -/
  targets : List (List Nat)
  edges : List Edge
deriving DecidableEq, Repr

namespace Adjacency

def empty (n : Nat) : Adjacency where
  targets := List.replicate n []
  edges := []

def targetsOf (a : Adjacency) (v : Nat) : List Nat :=
  a.targets.getD v []

/-- Links that name no node below `n` are passed over, as are those that are known already. -/
def add (n : Nat) (a : Adjacency) (link : Edge) : Adjacency :=
  if n ≤ link.1 ∨ n ≤ link.2 then a
  else if (a.targetsOf link.1).contains link.2 then a
  else { targets := a.targets.modify link.1 fun known => known ++ [link.2], edges := a.edges ++ [link] }

def ofLinks (n : Nat) (links : List Edge) : Adjacency :=
  links.foldl (add n) (empty n)

def inDegrees (n : Nat) (a : Adjacency) : List Nat :=
  a.targets.flatten.foldl (fun degrees v => degrees.modify v fun d => d + 1) (List.replicate n 0)

end Adjacency

/-! ## The sort -/

structure Sorting where
  /-- For each node, how many of its predecessors are not placed yet. -/
  missing : List Nat
  /-- Nodes whose predecessors are all placed, waiting for their own turn. -/
  ready : List Nat
  order : List Nat
deriving DecidableEq, Repr

namespace Sorting

def start (n : Nat) (a : Adjacency) : Sorting where
  missing := a.inDegrees n
  ready := (List.range n).filter fun v => (a.inDegrees n).getD v 0 == 0
  order := []

def release (s : Sorting) (v : Nat) : Sorting :=
  let left := s.missing.getD v 0 - 1
  { s with
    missing := s.missing.set v left
    ready := if left = 0 then s.ready ++ [v] else s.ready }

/-- Places the node that has been ready for longest. -/
def step (a : Adjacency) (s : Sorting) : Sorting :=
  match s.ready with
  | [] => s
  | v :: rest => (a.targetsOf v).foldl release { s with ready := rest, order := s.order ++ [v] }

/-- As many steps as there is fuel for. Each node is placed at most once, so their number is enough. -/
def run (a : Adjacency) : Nat → Sorting → Sorting
  | 0, s => s
  | fuel + 1, s => run a fuel (s.step a)

end Sorting

/-- The nodes below `n` that can be placed, each after its predecessors. -/
def topologicalOrder (n : Nat) (a : Adjacency) : List Nat :=
  (Sorting.run a n (Sorting.start n a)).order

/-! ## The plan -/

structure PlanStats where
  nodes : Nat := 0
  /-- All links, repeated ones included. -/
  links : Nat := 0
  /-- Nodes that are only produced from. -/
  sources : Nat := 0
  /-- Nodes that are only consumed into. -/
  sinks : Nat := 0
  isolated : Nat := 0
deriving DecidableEq, Repr

structure Plan where
  /-- Node numbers, producers before consumers. -/
  order : List Nat := []
  edges : List Edge := []
  isolated : List Nat := []
  stats : PlanStats := {}
deriving DecidableEq, Repr

namespace Plan

def isEmpty (plan : Plan) : Bool :=
  plan.order.isEmpty

def position? (plan : Plan) (node : Nat) : Option Nat :=
  plan.order.idxOf? node

def ofOrder (n : Nat) (links edges : List Edge) (order : List Nat) : Plan :=
  let feeds v := edges.any fun edge => edge.1 == v
  let isFed v := edges.any fun edge => edge.2 == v
  let isolated := (List.range n).filter fun v => !feeds v && !isFed v
  { order, edges, isolated
    stats :=
      { nodes := n
        links := links.length
        sources := (List.range n).countP fun v => feeds v && !isFed v
        sinks := (List.range n).countP fun v => isFed v && !feeds v
        isolated := isolated.length } }

def unplaced (names : List String) (order : List Nat) : List String :=
  ((names.zipIdx).filter fun entry => !order.contains entry.2).map Prod.fst

def compile (names : List String) (links : List Edge) : Except BuildError Plan :=
  let n := names.length
  let adjacency := Adjacency.ofLinks n links
  let order := topologicalOrder n adjacency
  if order.length < n then .error (.cyclicDependency (unplaced names order))
  else .ok (ofOrder n links adjacency.edges order)

end Plan

end FrameGraph
