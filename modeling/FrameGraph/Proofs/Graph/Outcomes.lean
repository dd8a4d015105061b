import FrameGraph.Graph.History
import FrameGraph.Proofs.Graph.Edits

/-!
# What an operation does to a graph

An operation fails and leaves the graph as it was, or it has an answer and makes at most one change.

* `Node.Revision` and `Graph.Change`: the changes of a node and of a graph, with what is known when they
  are made.
* `Graph.link_outcome` and its like: the outcome of each operation.
* `Operation.outcome`: the outcome of any operation.
* `Graph.failure_changes_nothing`: a failed operation changes nothing.
-/

namespace FrameGraph
set_option autoImplicit false

/-! ## Nodes -/

namespace Node

/-- What can be made of the node with a number. -/
inductive Revision (n : Node) (id : NodeId) : Node → Prop
  | body (body : Body) : Revision n id { n with body := some body, state := .configured }
  | entry (m : PortMap) (key : String) (hmap : m ∈ n.maps) (hfree : n.find? (portKey (some m.name) key) = none)
    (hroom : n.ports.length < maxPortsPerNode) : Revision n id (n.withPort (m.entry key))
  | queue (position : Nat) (port : Port) (size : Nat) (blocking : Bool) (hport : n.ports[position]? = some port)
    (hinput : port.direction = .input) (hsize : size ≠ 0) :
    Revision n id { n with ports := n.ports.set position { port with queueSize := size, blocking } }
  | request (request : Request) (m : PortMap) (key : String) (spec : OutputSpec)
    (hnew : n.answered? request = none) (hmap : n.outputMap? = some m) (hkey : n.keyFor m.name request = .ok key)
    (hspec : n.resolve request = .ok spec) (hroom : n.ports.length < maxPortsPerNode) :
    Revision n id { n.withPort (n.outputPort m key spec) with
      body := n.body.map (Body.register key spec)
      negotiated := n.negotiated ++ [⟨request, key, .ofNode id n.ports.length⟩] }

/-- A node stays as it is, or is revised while it may change. -/
def Kept (n : Node) (id : NodeId) (next : Node) : Prop :=
  next = n ∨ n.state.isMutable = true ∧ n.Revision id next

theorem Adjusted.kept {n next : Node} {kind : NodeKind} {change : Body → Body} {body : Body}
    (h : n.Adjusted kind change body next) (id : NodeId) : n.Kept id next := by
  cases h with
  | changed body hmutable => exact .inr ⟨hmutable, .body (change body)⟩

theorem Mapped.kept {n next : Node} {id : NodeId} {direction : Direction} {map key : String} {p : PortId}
    (h : n.Mapped id direction map key p next) : n.Kept id next := by
  cases h with
  | found => exact .inl rfl
  | entered m hmutable hmap hname _ hfree hroom =>
    subst hname
    exact .inr ⟨hmutable, .entry m key hmap hfree hroom⟩

theorem Queued.kept {n next : Node} {position size : Nat} {blocking : Bool} {u : Unit}
    (h : n.Queued position size blocking u next) (id : NodeId) : n.Kept id next := by
  cases h with
  | set port hmutable hport hinput hsize => exact .inr ⟨hmutable, .queue position port size blocking hport hinput hsize⟩

theorem Answered.kept {n next : Node} {id : NodeId} {request : Request} {p : PortId}
    (h : n.Answered id request p next) : n.Kept id next := by
  cases h with
  | known => exact .inl rfl
  | made m key spec hmutable hnew hmap hkey hspec hroom =>
    exact .inr ⟨hmutable, .request request m key spec hnew hmap hkey hspec hroom⟩

end Node

/-! ## Graphs -/

namespace Graph

theorem node_eq_ok_iff {g : Graph} {id : NodeId} {n : Node} : g.node id = .ok n ↔ g.nodes[id.index]? = some n := by
  unfold Graph.node
  split <;> simp_all

theorem descriptor_eq_ok_iff {g : Graph} {id : PortId} {port : Port} :
    g.descriptor id = .ok port ↔ ∃ n, g.nodes[id.node.index]? = some n ∧ n.ports[id.position.val]? = some port := by
  simp only [← node_eq_ok_iff, ← Node.port_eq_ok_iff]
  constructor
  · exact ok_of_bind
  · rintro ⟨n, hn, hport⟩
    rw [descriptor, hn]
    exact hport

/-- What is known of the two ends of a link when it is made. -/
theorem eq_ok_of_linkEnd {g : Graph} {id : PortId} {n : Node} {port : Port} (h : g.linkEnd id = .ok (n, port)) :
    g.nodes[id.node.index]? = some n ∧ n.state.isMutable = true ∧ n.ports[id.position.val]? = some port := by
  obtain ⟨m, hm, h⟩ := ok_of_bind h
  obtain ⟨_, hmutable, h⟩ := ok_of_bind h
  obtain ⟨p, hp, h⟩ := ok_of_bind h
  cases h
  exact ⟨node_eq_ok_iff.mp hm, Node.isMutable_of_requireMutable hmutable, Node.port_eq_ok_iff.mp hp⟩

theorem eq_ok_of_requireMutable {g : Graph} {id : NodeId} {u : Unit} (h : g.requireMutable id = .ok u) :
    ∃ n, g.nodes[id.index]? = some n ∧ n.state.isMutable = true := by
  obtain ⟨n, hn, h⟩ := ok_of_bind h
  exact ⟨n, node_eq_ok_iff.mp hn, Node.isMutable_of_requireMutable h⟩

/-- The graph with its plan, and with its nodes moved on. -/
def built (g : Graph) (plan : Plan) : Graph :=
  { g with
    nodes := g.nodes.map fun n => { n with state := n.state.advance .linked }
    plan := some plan }

inductive Change (g : Graph) : Graph → Prop
  | insert (name : String) (body : Body) (n : Node) (hopen : g.plan = none) (hnew : g.findNode? name = none)
    (hmake : Node.make ⟨g.nodes.length⟩ name body = .ok n) :
    Change g { g with nodes := g.nodes ++ [n], names := (name, ⟨g.nodes.length⟩) :: g.names }
  | revise (id : NodeId) (n next : Node) (hn : g.nodes[id.index]? = some n) (hmutable : n.state.isMutable = true)
    (hnext : n.Revision id next) : Change g (g.setNode id next)
  | link (source target : PortId) (producer consumer : Node) (output input : Port)
    (hsource : g.linkEnd source = .ok (producer, output)) (htarget : g.linkEnd target = .ok (consumer, input))
    (houtput : output.direction = .output) (hinput : input.direction = .input)
    (haccepts : input.acceptsFrom output = true)
    (hnew : ∀ l ∈ g.links, l.source = source → l.target ≠ target)
    (hfree : input.fanIn = false → ∀ l ∈ g.links, l.target ≠ target) :
    Change g { g with nextLink := g.nextLink + 1, links := g.links ++ [⟨⟨g.nextLink.toNat⟩, source, target⟩] }
  | unlink (l : Link) (hl : l ∈ g.links) (hsource : g.requireMutable l.source.node = .ok ())
    (htarget : g.requireMutable l.target.node = .ok ()) :
    Change g { g with links := g.links.filter fun other => other.id != l.id }
  | build (plan : Plan) (hopen : g.plan = none) (hplan : Plan.compile (g.nodes.map Node.name) g.edges = .ok plan) :
    Change g (g.built plan)

/-- A graph stays as it is, or makes one change. -/
def Kept (g next : Graph) : Prop :=
  next = g ∨ g.Change next

theorem setNode_self {g : Graph} {id : NodeId} {n : Node} (h : g.nodes[id.index]? = some n) : g.setNode id n = g := by
  obtain ⟨hi, rfl⟩ := List.getElem?_eq_some_iff.mp h
  simp [setNode]

theorem editNode_outcome {ε α : Type} (g : Graph) (id : NodeId) (unknown : ε) {edit : Edit Node ε α}
    {R : Node → α → Node → Prop} (h : ∀ n, Edit.Outcome n (R n) (Edit.run n edit))
    (hkept : ∀ {n next : Node} {a : α}, R n a next → n.Kept id next) :
    Edit.Outcome g (fun _ => g.Kept) (Edit.run g (editNode id unknown edit)) := by
  rw [editNode, Edit.run_get_bind]
  split
  · exact .failed _
  · rename_i n hn
    have hnode := h n
    rw [Edit.run_change_bind, Edit.run_ask]
    generalize Edit.run n edit = outcome at hnode
    cases hnode with
    | failed e =>
      -- The node is written back, but as it was.
      rw [setNode_self hn]
      exact .failed e
    | done hdone =>
      rcases hkept hdone with rfl | ⟨hmutable, hnext⟩
      · rw [setNode_self hn]
        exact .done (.inl rfl)
      · exact .done (.inr (.revise id n _ hn hmutable hnext))

/-- A new node stands behind all others. -/
theorem insert_outcome (g : Graph) (name : String) (body : Body) :
    Edit.Outcome g (fun _ next => g.Change next ∧ ∃ n, Node.make ⟨g.nodes.length⟩ name body = .ok n ∧
      next.nodes = g.nodes ++ [n]) (g.insert name body) := by
  refine .of_require fun hopen => ?_
  refine .of_require fun hnew => ?_
  rw [Edit.run_get_bind]
  refine .of_ask fun n hmake => ?_
  exact .done ⟨.insert name body n (by simpa [isBuilt] using hopen) (by simpa using hnew) hmake, n, hmake, rfl⟩

theorem adjust_outcome (g : Graph) (id : NodeId) (kind : NodeKind) (change : Body → Body) :
    Edit.Outcome g (fun _ => g.Kept) (g.adjust id kind change) :=
  g.editNode_outcome id _ (fun n => n.adjust_outcome kind change) fun h => h.kept id

theorem mapPort_outcome (g : Graph) (direction : Direction) (id : NodeId) (map key : String) :
    Edit.Outcome g (fun _ => g.Kept) (g.mapPort direction id map key) :=
  g.editNode_outcome id _ (fun n => n.mapPort_outcome id direction map key) Node.Mapped.kept

theorem setInputQueue_outcome (g : Graph) (id : PortId) (size : Nat) (blocking : Bool) :
    Edit.Outcome g (fun _ => g.Kept) (g.setInputQueue id size blocking) :=
  g.editNode_outcome id.node _ (fun n => n.setInputQueue_outcome id.position size blocking) fun h => h.kept id.node

theorem requestOutput_outcome (g : Graph) (id : NodeId) (request : Request) :
    Edit.Outcome g (fun _ => g.Kept) (g.requestOutput id request) :=
  g.editNode_outcome id _ (fun n => n.requestOutput_outcome id request) Node.Answered.kept

theorem requireMatch_eq_ok {producer consumer : Node × Port} {u : Unit} (h : requireMatch producer consumer = .ok u) :
    producer.2.direction = .output ∧ consumer.2.direction = .input ∧ consumer.2.acceptsFrom producer.2 = true := by
  obtain ⟨producer, output⟩ := producer
  obtain ⟨consumer, input⟩ := consumer
  unfold requireMatch at h
  obtain ⟨_, houtput, h⟩ := ok_of_bind h
  obtain ⟨_, hinput, h⟩ := ok_of_bind h
  have haccepts : input.acceptsFrom output = true := by
    split at h
    · assumption
    · cases h
  exact ⟨Node.direction_of_requireDirection houtput, Node.direction_of_requireDirection hinput, haccepts⟩

/-- The answer is a link that exists between the ports, or the next one. -/
theorem link_outcome (g : Graph) (source target : PortId) :
    Edit.Outcome g (fun id next => next = g ∧ (∃ l ∈ g.links, l.id = id) ∨
      id = ⟨g.nextLink.toNat⟩ ∧ next.nodes = g.nodes ∧ g.Change next) (g.link source target) := by
  refine .of_ask fun producer hsource => ?_
  refine .of_ask fun consumer htarget => ?_
  refine .of_ask fun _ hmatch => ?_
  obtain ⟨houtput, hinput, haccepts⟩ := requireMatch_eq_ok hmatch
  rw [Edit.run_get_bind]
  split
  · rename_i l hl
    exact .done (.inl ⟨rfl, l, List.mem_of_find?_eq_some hl, rfl⟩)
  · rename_i hnew
    refine .of_require fun hfree => ?_
    exact .done (.inr ⟨rfl, rfl, .link source target _ _ _ _ hsource htarget houtput hinput haccepts
      (by simpa using hnew) fun hsingle => by simpa [hsingle] using hfree⟩)

/-- The answer is whether there was such a link. -/
theorem unlink_outcome (g : Graph) (id : LinkId) :
    Edit.Outcome g (fun found next => found = false ∧ next = g ∨
      found = true ∧ next.links = g.links.filter (fun l => l.id != id) ∧ (∃ l ∈ g.links, l.id = id) ∧
        next.nodes = g.nodes ∧ g.Change next) (g.unlink id) := by
  rw [unlink, Edit.run_get_bind]
  split
  · exact .done (.inl ⟨rfl, rfl⟩)
  · rename_i l hl
    have hmem := List.mem_of_find?_eq_some hl
    have hid : l.id = id := by simpa using List.find?_some hl
    refine .of_ask fun _ hsource => ?_
    refine .of_ask fun _ htarget => ?_
    subst hid
    exact .done (.inr ⟨rfl, rfl, ⟨l, hmem, rfl⟩, rfl, .unlink l hmem hsource htarget⟩)

/-- The plan is taken out before there is another one, but where there was none a failure leaves none. -/
theorem build_outcome (g : Graph) :
    Edit.Outcome g (fun plan next => g.plan = some plan ∧ next = g ∨
      g.plan = none ∧ Plan.compile (g.nodes.map Node.name) g.edges = .ok plan ∧ next = g.built plan) g.build := by
  rw [build, Edit.run_get_bind, Edit.run_change_bind]
  cases hheld : g.plan with
  | some plan =>
    have hsame : { g with plan := some plan } = g := by rw [← hheld]
    exact .done (.inl ⟨rfl, hsame⟩)
  | none =>
    have hsame : { g with plan := none } = g := by rw [← hheld]
    simp only [hsame, Edit.run_bind, compile, Edit.run_ask]
    cases hplan : Plan.compile (g.nodes.map Node.name) g.edges with
    | error e => exact .failed e
    | ok plan => exact .done (.inr ⟨trivial, rfl, rfl⟩)

end Graph

/-! ## Any operation -/

theorem Verdict.ofBuild_outcome {α : Type} {g : Graph} {R : α → Graph → Prop} {P : Graph → Prop}
    {answer : α → Answer} {outcome : Except BuildError α × Graph} (h : Edit.Outcome g R outcome)
    (hR : ∀ a next, R a next → P next) : Edit.Outcome g (fun _ => P) (Verdict.ofBuild answer outcome) := by
  cases h with
  | failed e => exact .failed _
  | done h => exact .done (hR _ _ h)

theorem Operation.outcome (op : Operation) (g : Graph) : Edit.Outcome g (fun _ => g.Kept) (op.apply g) := by
  have hlook {α : Type} (r : Except BuildError α) : Edit.Outcome g (fun _ => g.Kept) (r, g) := by
    cases r with
    | error e => exact .failed e
    | ok a => exact .done (.inl rfl)
  cases op with
  | create config => exact Verdict.ofBuild_outcome (g.insert_outcome _ _) fun _ _ h => .inr h.1
  | createNamed name config => exact Verdict.ofBuild_outcome (g.insert_outcome _ _) fun _ _ h => .inr h.1
  | addPlugin name plugin => exact Verdict.ofBuild_outcome (g.insert_outcome _ _) fun _ _ h => .inr h.1
  | configure id setting => exact Verdict.ofBuild_outcome (g.adjust_outcome _ _ _) fun _ _ h => h
  | inspect id kind => exact Verdict.ofBuild_outcome (hlook _) fun _ _ h => h
  | port id key => exact Verdict.ofBuild_outcome (hlook _) fun _ _ h => h
  | portToward direction id key => exact Verdict.ofBuild_outcome (hlook _) fun _ _ h => h
  | mapPort direction id map key => exact Verdict.ofBuild_outcome (g.mapPort_outcome _ _ _ _) fun _ _ h => h
  | setInputQueue id size blocking => exact Verdict.ofBuild_outcome (g.setInputQueue_outcome _ _ _) fun _ _ h => h
  | requestOutput id request =>
    have h := g.requestOutput_outcome id request
    simp only [Operation.apply]
    generalize g.requestOutput id request = outcome at h
    cases h with
    | failed e => exact .failed _
    | done h => exact .done h
  | link source target =>
    refine Verdict.ofBuild_outcome (g.link_outcome source target) fun id next h => ?_
    rcases h with ⟨rfl, -⟩ | ⟨-, -, hchange⟩
    · exact .inl rfl
    · exact .inr hchange
  | unlink id =>
    refine Verdict.ofBuild_outcome (g.unlink_outcome id) fun found next h => ?_
    rcases h with ⟨-, rfl⟩ | ⟨-, -, -, -, hchange⟩
    · exact .inl rfl
    · exact .inr hchange
  | build =>
    refine Verdict.ofBuild_outcome g.build_outcome fun plan next h => ?_
    rcases h with ⟨-, rfl⟩ | ⟨hopen, hplan, rfl⟩
    · exact .inl rfl
    · exact .inr (.build plan hopen hplan)

/-- An operation that fails leaves the whole graph as it was, whatever it has asked for and found by then; so
does a change of a body that is refused. -/
theorem Graph.failure_changes_nothing (g : Graph) :
    (∀ (op : Operation) (e : PipelineError), (op.apply g).1 = .error e → (op.apply g).2 = g) ∧
    ∀ (id : NodeId) (kind : NodeKind) (change : Body → Body) (e : BuildError),
      (g.adjust id kind change).1 = .error e → (g.adjust id kind change).2 = g :=
  ⟨fun op _ herror => (op.outcome g).state_of_error herror,
    fun id kind change _ herror => (g.adjust_outcome id kind change).state_of_error herror⟩

/-- Two nodes in a circle cannot be built, and the settings of a camera are refused by one that is none. -/
theorem Graph.failure_changes_nothing_circle :
    let both : List Port := [
      { name := "out", direction := .output, types := [.any] }, { name := "in", direction := .input, types := [.any] }]
    let g := Graph.after {} [
      .operation (.addPlugin "a" { typeName := "Relay", ports := both }),
      .operation (.addPlugin "b" { typeName := "Relay", ports := both }),
      .operation (.link ⟨0, 0⟩ ⟨1, 1⟩), .operation (.link ⟨1, 0⟩ ⟨0, 1⟩)]
    (Operation.build.apply g).1 = .error (.build (.cyclicDependency ["a", "b"])) ∧ (Operation.build.apply g).2 = g ∧
      (g.adjust ⟨1⟩ .camera id).1 = .error (.wrongNodeKind "b" .camera) ∧ (g.adjust ⟨1⟩ .camera id).2 = g := by
  refine ⟨by rfl, (failure_changes_nothing _).1 .build (.build (.cyclicDependency ["a", "b"])) (by rfl), by rfl,
    (failure_changes_nothing _).2 ⟨1⟩ .camera id (.wrongNodeKind "b" .camera) (by rfl)⟩

end FrameGraph
