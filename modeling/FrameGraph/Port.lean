import FrameGraph.Kind

/-!
# Ports

A port declares its direction and the kinds it produces or accepts, and an input also the queue
behind it. Ports that are created on demand belong to a named map and are copies of its template.

* `Accepted`: one declared kind, alone or with its descendants.
* `Port.key`: the name of a fixed port, `group.name` for an entry of a map.
* `Port.acceptsFrom`: an input takes something that an output produces.
* `PortMap.entry`: the port that a map makes for a key.
-/

namespace FrameGraph
set_option autoImplicit false

inductive Direction where
  | input
  | output
deriving DecidableEq, Repr

def Direction.name : Direction → String
  | input => "Input"
  | output => "Output"

/-! ## Declared kinds -/

structure Accepted where
  kind : Kind
  /-- Whether the kinds below `kind` are meant as well. -/
  descendants : Bool
deriving DecidableEq, Repr

namespace Accepted

def exactly (kind : Kind) : Accepted := ⟨kind, false⟩

def within (kind : Kind) : Accepted := ⟨kind, true⟩

def any : Accepted := within .buffer

def accepts (a : Accepted) (produced : Kind) : Bool :=
  if a.descendants then produced.derivesFrom a.kind else decide (produced = a.kind)

end Accepted

/-! ## Ports and their keys -/

/-- The depth of a queue for which nothing else is asked. -/
def defaultQueueSize : Nat := 8

structure Port where
  /-- The map that the port belongs to, none for a fixed port. -/
  group : Option String := none
  name : String
  direction : Direction
  types : List Accepted
  /-- Depth of the queue behind an input. -/
  queueSize : Nat := defaultQueueSize
  /-- A blocking input holds its senders back; another one drops its oldest message. -/
  blocking : Bool := true
  /-- Whether an input may be fed by several links. -/
  fanIn : Bool := false
deriving DecidableEq, Repr

/-- The key under which a port is looked up. -/
def portKey (group : Option String) (name : String) : String :=
  match group with
  | some g => g ++ "." ++ name
  | none => name

namespace Port

def key (p : Port) : String :=
  portKey p.group p.name

def kinds (p : Port) : List Kind :=
  p.types.map Accepted.kind

def acceptsFrom (input output : Port) : Bool :=
  output.types.any fun out => input.types.any fun inp => inp.accepts out.kind

end Port

/-! ## Port maps -/

structure PortMap where
  name : String
  template : Port
  /-- The entries that exist from the start. -/
  initialKeys : List String := []
deriving DecidableEq, Repr

namespace PortMap

def direction (m : PortMap) : Direction :=
  m.template.direction

def entry (m : PortMap) (key : String) : Port :=
  { m.template with group := some m.name, name := key }

@[simp] theorem entry_direction (m : PortMap) (key : String) :
    (m.entry key).direction = m.direction := rfl

@[simp] theorem entry_key (m : PortMap) (key : String) :
    (m.entry key).key = portKey (some m.name) key := rfl

def initialEntries (m : PortMap) : List Port :=
  m.initialKeys.map m.entry

end PortMap

end FrameGraph
