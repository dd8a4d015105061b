/-!
# States of a node

A node passes through its states in order and never goes back. Its ports, links and negotiated
outputs may change until it is linked.
-/

namespace FrameGraph
set_option autoImplicit false

inductive NodeState where
  | constructed
  | configured
  | linked
  | running
  | stopped
deriving DecidableEq, Repr

namespace NodeState

def name : NodeState → String
  | constructed => "Constructed"
  | configured => "Configured"
  | linked => "Linked"
  | running => "Running"
  | stopped => "Stopped"

/-- The place of a state in the order. -/
def rank : NodeState → Nat
  | constructed => 0
  | configured => 1
  | linked => 2
  | running => 3
  | stopped => 4

def isMutable (s : NodeState) : Bool :=
  decide (s.rank < linked.rank)

def advance (s next : NodeState) : NodeState :=
  if s.rank < next.rank then next else s

theorem rank_le_advance (s next : NodeState) : s.rank ≤ (s.advance next).rank := by
  unfold advance
  split <;> omega

theorem le_rank_advance (s next : NodeState) : next.rank ≤ (s.advance next).rank := by
  unfold advance
  split <;> omega

end NodeState

end FrameGraph
