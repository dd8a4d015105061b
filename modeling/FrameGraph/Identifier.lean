/-!
# Identifiers of nodes, links and ports

Nodes and links are numbered in the order of their creation. The numbers of nodes are not bounded here: the
32-bit word that holds one is left behind only with `2 ^ 32` nodes in one graph. A port identifier is one 32-bit word:
the owning node in the high 20 bits and the position of the port on that node in the low 12, so the
owner is read off without a look-up. A node number that needs more than 20 bits loses the high ones.

* `PortId.ofNode`: the identifier of a port from its node and position.
* `PortId.make?`: the same, none once the node has no room left.
* `PortId.raw` and `PortId.ofRaw`: the word and back.
-/

namespace FrameGraph
set_option autoImplicit false

structure NodeId where
  index : Nat
deriving DecidableEq, Repr

structure LinkId where
  index : Nat
deriving DecidableEq, Repr

/-- The text of a node in messages. -/
def NodeId.text (id : NodeId) : String :=
  s!"node #{id.index}"

/-- The compact text of a node in reports. -/
def NodeId.tag (id : NodeId) : String :=
  s!"node#{id.index}"

def LinkId.text (id : LinkId) : String :=
  s!"link #{id.index}"

def LinkId.tag (id : LinkId) : String :=
  s!"link#{id.index}"

def maxPortsPerNode : Nat := 4096

structure PortId where
  /-- Twenty bits. -/
  owner : Fin 1048576
  /-- Twelve bits. -/
  position : Fin 4096
deriving DecidableEq, Repr

namespace PortId

def node (id : PortId) : NodeId :=
  ⟨id.owner⟩

def ofNode (node : NodeId) (position : Nat) : PortId :=
  ⟨Fin.ofNat 1048576 node.index, Fin.ofNat 4096 position⟩

/-- None once the node has no room for a port at this position. -/
def make? (node : NodeId) (position : Nat) : Option PortId :=
  if position < maxPortsPerNode then some (ofNode node position) else none

def raw (id : PortId) : UInt32 :=
  UInt32.ofNat (id.owner * 4096 + id.position)

def ofRaw (word : UInt32) : PortId :=
  ofNode ⟨word.toNat / 4096⟩ (word.toNat % 4096)

def tag (id : PortId) : String :=
  s!"{id.node.tag}/port#{id.position.val}"

theorem raw_toNat (id : PortId) : id.raw.toNat = id.owner.val * 4096 + id.position.val := by
  have ho := id.owner.isLt
  have hp := id.position.isLt
  simp only [raw, UInt32.toNat_ofNat']
  omega

theorem ofRaw_raw (id : PortId) : ofRaw id.raw = id := by
  obtain ⟨⟨o, ho⟩, ⟨p, hp⟩⟩ := id
  have h := raw_toNat ⟨⟨o, ho⟩, ⟨p, hp⟩⟩
  simp only at h
  simp only [ofRaw, ofNode, h, Fin.ofNat, mk.injEq, Fin.mk.injEq]
  omega

end PortId

end FrameGraph
