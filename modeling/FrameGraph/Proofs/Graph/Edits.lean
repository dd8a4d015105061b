import FrameGraph.Graph.Ports
import FrameGraph.Graph.Requests

/-!
# Edits of a node

An edit of a node fails and leaves the node as it was, or it has an answer. What the answer and the node after it
are then is said once for every edit, with all that its questions have found out.

* `Edit.Outcome`: a failure without a trace or an answer, of an edit of any state.
* `Node.run_addPort`: a port is added while there is room for it. `Node.make_cases`: a node is made if there is for all.
* `Node.Adjusted`, `Node.Mapped`, `Node.Queued`, `Node.Answered`: what the four edits come to.
* `Node.adjust_outcome` and its like: that they come to that.
-/

namespace FrameGraph
set_option autoImplicit false

/-! ## Outcomes -/

namespace Edit
variable {σ τ ε α β : Type}

/-- A failure that leaves the state alone, or an answer that fits to the state after it. -/
inductive Outcome (s : σ) (R : α → σ → Prop) : Except ε α × σ → Prop
  | failed (e : ε) : Outcome s R (.error e, s)
  | done {a : α} {t : σ} (h : R a t) : Outcome s R (.ok a, t)

namespace Outcome
variable {s : σ} {R S : α → σ → Prop} {outcome : Except ε α × σ}

theorem state_of_error (h : Outcome s R outcome) {e : ε} (herror : outcome.1 = .error e) : outcome.2 = s := by
  cases h with
  | failed => rfl
  | done => cases herror

theorem of_ok (h : Outcome s R outcome) {a : α} (hok : outcome.1 = .ok a) : R a outcome.2 := by
  cases h with
  | failed => cases hok
  | done h =>
    cases hok
    exact h

/-- Where every answer leads to one of some states, and the old state is one of them, the new state is. -/
theorem state_mem {P : σ → Prop} (h : Outcome s R outcome) (hs : P s) (hR : ∀ a t, R a t → P t) : P outcome.2 := by
  cases h with
  | failed => exact hs
  | done h => exact hR _ _ h

theorem mono (h : Outcome s R outcome) (hRS : ∀ a t, R a t → S a t) : Outcome s S outcome := by
  cases h with
  | failed e => exact .failed e
  | done h => exact .done (hRS _ _ h)

/-- An edit that begins with a question fails where there is no answer, and goes on where there is one. -/
theorem of_ask {question : σ → Except ε β} {next : β → Edit σ ε α}
    (hnext : ∀ b, question s = .ok b → Outcome s R (run s (next b))) :
    Outcome s R (run s (ask question >>= next)) := by
  rw [run_bind, run_ask]
  cases h : question s with
  | error e => exact .failed e
  | ok b => exact hnext b h

theorem of_require {condition : σ → Bool} {otherwise : ε} {next : Unit → Edit σ ε α}
    (hnext : condition s = true → Outcome s R (run s (next ()))) :
    Outcome s R (run s (require condition otherwise >>= next)) := by
  refine of_ask fun _ h => hnext ?_
  split at h
  · assumption
  · cases h

end Outcome
end Edit

/-! ## Nodes -/

theorem ok_of_bind {ε α β : Type} {x : Except ε α} {next : α → Except ε β} {b : β} (h : (x >>= next) = .ok b) :
    ∃ a, x = .ok a ∧ next a = .ok b := by
  cases x with
  | error e => cases h
  | ok a => exact ⟨a, rfl, h⟩

namespace Node

/-- The node with a port added at the end. -/
def withPort (n : Node) (port : Port) : Node :=
  { n with ports := n.ports ++ [port], positions := (port.key, n.ports.length) :: n.positions }

theorem run_addPort {ε : Type} (n : Node) (id : NodeId) (port : Port) (noRoom : ε) :
    Edit.run n (addPort id port noRoom) =
      if n.ports.length < maxPortsPerNode then (.ok (.ofNode id n.ports.length), n.withPort port)
      else (.error noRoom, n) := by
  rw [addPort, Edit.run_get_bind]
  by_cases h : n.ports.length < maxPortsPerNode
  · have hposition : (PortId.ofNode id n.ports.length).position.val = n.ports.length := Nat.mod_eq_of_lt h
    simp only [PortId.make?, h, if_true, Edit.run_change_bind, Edit.run_pure, hposition, withPort]
  · simp only [PortId.make?, h, if_false, Edit.run_throw]

def withPorts (n : Node) (ports : List Port) : Node :=
  ports.foldl withPort n

theorem withPorts_eq (n : Node) (ports : List Port) :
    n.withPorts ports = { n with
      ports := n.ports ++ ports
      positions := ((ports.zipIdx n.ports.length).map fun (port, i) => (port.key, i)).reverse ++ n.positions } := by
  induction ports generalizing n with
  | nil => simp [withPorts]
  | cons port rest ih =>
    have hcons : n.withPorts (port :: rest) = (n.withPort port).withPorts rest := rfl
    rw [hcons, ih]
    simp [withPort]

/-- Ports are added one by one while there is room for them. -/
theorem run_addPorts_cases {ε : Type} {n : Node} (id : NodeId) (noRoom : ε) (ports : List Port)
    (hroom : n.ports.length ≤ maxPortsPerNode) :
    n.ports.length + ports.length ≤ maxPortsPerNode ∧
        Edit.run n (addPorts id noRoom ports) = (.ok (), n.withPorts ports) ∨
      maxPortsPerNode < n.ports.length + ports.length ∧
        ∃ next, Edit.run n (addPorts id noRoom ports) = (.error noRoom, next) := by
  induction ports generalizing n with
  | nil => exact .inl ⟨hroom, rfl⟩
  | cons port rest ih =>
    rw [addPorts, Edit.run_bind, run_addPort, List.length_cons]
    by_cases hfirst : n.ports.length < maxPortsPerNode
    · have hlength : (n.withPort port).ports.length = n.ports.length + 1 := List.length_append
      rw [if_pos hfirst, Nat.add_comm rest.length 1, ← Nat.add_assoc, ← hlength]
      exact ih (hlength ▸ Nat.succ_le_of_lt hfirst)
    · rw [if_neg hfirst]
      exact .inr ⟨by omega, n, rfl⟩

/-- A node has all the ports of its body, and there is no node where these are too many. -/
theorem make_cases (id : NodeId) (name : String) (body : Body) :
    (initialPorts body).length ≤ maxPortsPerNode ∧ make id name body = .ok {
        name, typeName := body.typeName, residency := body.residency, body := some body, maps := body.maps
        ports := initialPorts body
        positions := ((initialPorts body).zipIdx.map fun (port, i) => (port.key, i)).reverse } ∨
      maxPortsPerNode < (initialPorts body).length ∧ make id name body = .error (.portLimitReached name) := by
  rcases run_addPorts_cases (n := { name, typeName := body.typeName, residency := body.residency }) id
    (BuildError.portLimitReached name) (initialPorts body) (Nat.zero_le _) with ⟨hroom, hrun⟩ | ⟨hfull, next, hrun⟩
  · refine .inl ⟨by simpa using hroom, ?_⟩
    rw [make, hrun, withPorts_eq]
    simp
  · refine .inr ⟨by simpa using hfull, ?_⟩
    rw [make, hrun]

theorem eq_of_make {id : NodeId} {name : String} {body : Body} {n : Node} (h : make id name body = .ok n) :
    n = { name, typeName := body.typeName, residency := body.residency, body := some body, maps := body.maps
          ports := initialPorts body
          positions := ((initialPorts body).zipIdx.map fun (port, i) => (port.key, i)).reverse } := by
  rcases make_cases id name body with ⟨-, hmake⟩ | ⟨-, hmake⟩
  · exact Except.ok.inj (h.symm.trans hmake)
  · rw [hmake] at h
    cases h

/-! What the answers to questions tell. -/

theorem isMutable_of_requireMutable {n : Node} {u : Unit} (h : n.requireMutable = .ok u) :
    n.state.isMutable = true := by
  unfold requireMutable at h
  split at h
  · assumption
  · cases h

theorem port_eq_ok_iff {n : Node} {position : Nat} {port : Port} :
    n.port position = .ok port ↔ n.ports[position]? = some port := by
  unfold Node.port
  split <;> simp_all

theorem direction_of_requireDirection {n : Node} {port : Port} {expected : Direction} {u : Unit}
    (h : n.requireDirection port expected = .ok u) : port.direction = expected := by
  unfold requireDirection at h
  split at h
  · assumption
  · cases h

theorem map_of_mapEntry {n : Node} {direction : Direction} {map key : String} {entry : Port}
    (h : n.mapEntry direction map key = .ok entry) :
    ∃ m ∈ n.maps, m.name = map ∧ m.direction = direction ∧ entry = m.entry key := by
  unfold mapEntry at h
  split at h
  · rename_i m hm
    cases h
    have hfound := List.find?_some hm
    simp only [Bool.and_eq_true, beq_iff_eq] at hfound
    exact ⟨m, List.mem_of_find?_eq_some hm, hfound.1, hfound.2, rfl⟩
  · cases h

theorem body_of_bodyOf {n : Node} {kind : NodeKind} {body : Body} (h : n.bodyOf kind = .ok body) :
    n.body = some body ∧ body.kind? = some kind := by
  unfold bodyOf at h
  split at h
  · rename_i held hheld
    split at h
    · rename_i hkind
      cases h
      exact ⟨hheld, hkind⟩
    · cases h
  · cases h

theorem isMutable_of_requestable {n : Node} {u : Unit} (h : n.requestable = .ok u) : n.state.isMutable = true := by
  unfold requestable at h
  split at h
  · assumption
  · cases h

theorem outputMap?_of_requestMap {n : Node} {request : Request} {m : PortMap} (h : n.requestMap request = .ok m) :
    n.outputMap? = some m := by
  unfold requestMap at h
  split at h
  · cases h
    assumption
  · cases h

/-! ## What the edits come to -/

/-- A body of the kind is changed. -/
inductive Adjusted (n : Node) (kind : NodeKind) (change : Body → Body) : Body → Node → Prop
  | changed (body : Body) (hmutable : n.state.isMutable = true) (hbody : n.body = some body)
    (hkind : body.kind? = some kind) :
    Adjusted n kind change (change body) { n with body := some (change body), state := .configured }

/-- The port of a map under a key is there, or the map makes it. -/
inductive Mapped (n : Node) (id : NodeId) (direction : Direction) (map key : String) : PortId → Node → Prop
  | found (position : Nat) (port : Port) (hfound : n.find? (portKey (some map) key) = some position)
    (hport : n.ports[position]? = some port) (hdirection : port.direction = direction) :
    Mapped n id direction map key (.ofNode id position) n
  | entered (m : PortMap) (hmutable : n.state.isMutable = true) (hmap : m ∈ n.maps) (hname : m.name = map)
    (hdirection : m.direction = direction) (hfree : n.find? (portKey (some map) key) = none)
    (hroom : n.ports.length < maxPortsPerNode) :
    Mapped n id direction map key (.ofNode id n.ports.length) (n.withPort (m.entry key))

/-- An input has another queue. -/
inductive Queued (n : Node) (position size : Nat) (blocking : Bool) : Unit → Node → Prop
  | set (port : Port) (hmutable : n.state.isMutable = true) (hport : n.ports[position]? = some port)
    (hinput : port.direction = .input) (hsize : size ≠ 0) :
    Queued n position size blocking ()
      { n with ports := n.ports.set position { port with queueSize := size, blocking } }

/-- A request has an answer from before, or gets a port, of which the body is told. -/
inductive Answered (n : Node) (id : NodeId) (request : Request) : PortId → Node → Prop
  | known (e : Negotiated) (hknown : n.answered? request = some e) : Answered n id request e.port n
  | made (m : PortMap) (key : String) (spec : OutputSpec) (hmutable : n.state.isMutable = true)
    (hnew : n.answered? request = none) (hmap : n.outputMap? = some m) (hkey : n.keyFor m.name request = .ok key)
    (hspec : n.resolve request = .ok spec) (hroom : n.ports.length < maxPortsPerNode) :
    Answered n id request (.ofNode id n.ports.length) { n.withPort (n.outputPort m key spec) with
      body := n.body.map (Body.register key spec)
      negotiated := n.negotiated ++ [⟨request, key, .ofNode id n.ports.length⟩] }

theorem adjust_outcome (n : Node) (kind : NodeKind) (change : Body → Body) :
    Edit.Outcome n (n.Adjusted kind change) (Edit.run n (adjust kind change)) := by
  refine .of_ask fun _ hmutable => ?_
  refine .of_ask fun body hbody => ?_
  obtain ⟨hheld, hkind⟩ := body_of_bodyOf hbody
  exact .done (.changed body (isMutable_of_requireMutable hmutable) hheld hkind)

theorem mapPort_outcome (n : Node) (id : NodeId) (direction : Direction) (map key : String) :
    Edit.Outcome n (n.Mapped id direction map key) (Edit.run n (mapPort id direction map key)) := by
  rw [mapPort, Edit.run_get_bind]
  split
  · rename_i position hfound
    refine .of_ask fun port hport => ?_
    refine .of_ask fun _ hdirection => ?_
    exact .done (.found position port hfound (port_eq_ok_iff.mp hport) (direction_of_requireDirection hdirection))
  · rename_i hfree
    refine .of_ask fun _ hmutable => ?_
    refine .of_ask fun entry hentry => ?_
    obtain ⟨m, hm, hname, hdirection, rfl⟩ := map_of_mapEntry hentry
    rw [Edit.run_get_bind, run_addPort]
    split
    · rename_i hroom
      exact .done (.entered m (isMutable_of_requireMutable hmutable) hm hname hdirection hfree hroom)
    · exact .failed _

theorem setInputQueue_outcome (n : Node) (position size : Nat) (blocking : Bool) :
    Edit.Outcome n (n.Queued position size blocking) (Edit.run n (setInputQueue position size blocking)) := by
  refine .of_ask fun _ hmutable => ?_
  refine .of_ask fun port hport => ?_
  refine .of_ask fun _ hinput => ?_
  refine .of_ask fun _ hsize => ?_
  have hsize : size ≠ 0 := by
    rintro rfl
    cases hsize
  exact .done (.set port (isMutable_of_requireMutable hmutable) (port_eq_ok_iff.mp hport)
    (direction_of_requireDirection hinput) hsize)

theorem requestOutput_outcome (n : Node) (id : NodeId) (request : Request) :
    Edit.Outcome n (n.Answered id request) (Edit.run n (requestOutput id request)) := by
  refine .of_ask fun _ hmutable => ?_
  rw [Edit.run_get_bind]
  split
  · rename_i e hknown
    exact .done (.known e hknown)
  · rename_i hnew
    refine .of_ask fun m hm => ?_
    refine .of_ask fun key hkey => ?_
    refine .of_ask fun spec hspec => ?_
    rw [Edit.run_get_bind, Edit.run_bind, run_addPort]
    -- The last thing that can fail is the port, and the node is told of the output after that.
    by_cases hroom : n.ports.length < maxPortsPerNode
    · simp only [hroom, if_true]
      exact .done (.made m key spec (isMutable_of_requestable hmutable) hnew (outputMap?_of_requestMap hm) hkey hspec
        hroom)
    · simp only [hroom, if_false]
      exact .failed _

end Node

end FrameGraph
