import FrameGraph.Proofs.Graph.Handles

/-!
# Names that are made up

A node that is created without a name gets the name of its kind with a number, and an output that is requested without
a name gets a number for a key. The numbers are tried one after the other. Whatever was chosen before, no more names are
taken than there are nodes, and no more keys of a node than it has ports.

* `Graph.Named.exists_freshName`: the search for a name, and what it finds.
* `Graph.insert_cases`: all that can come of a node under a new name.
* `Graph.requestOutput_of_unnamed`: what a request without a name does where it is answered.
* `Graph.made_up_names_free`: what is made up is free, after any course of occurrences.
-/

namespace FrameGraph
set_option autoImplicit false

/-! ## New nodes -/

namespace Graph

theorem Named.findNode?_eq_none_iff {g : Graph} (hg : g.Named) {name : String} :
    g.findNode? name = none ↔ name ∉ g.nodes.map Node.name := by
  rw [Option.eq_none_iff_forall_ne_some, List.mem_iff_getElem?, not_exists]
  exact ⟨fun h i => mt (hg name ⟨i⟩).mpr (h ⟨i⟩), fun h id => mt (hg name id).mp (h id.index)⟩

/-- Numbers make as many different names of a kind as one likes, so the search for one that is free comes to an end. -/
theorem Named.exists_freshName {g : Graph} (hg : g.Named) (base : String) :
    ∃ k ≤ g.nodes.length, IsLeast {i : Nat | base ++ toString i ∉ g.nodes.map Node.name} k ∧
      Search (fun i : Nat => base ++ toString i) (fun name => (g.findNode? name).isNone) 0 (k + 1)
        (base ++ toString k) ∧
      g.freshName base = base ++ toString k := by
  have hdistinct : Function.Injective fun i : Nat => base ++ toString i :=
    fun i j hsame => toString_inj ((String.append_right_inj _).mp hsame)
  have hlength : (g.nodes.map Node.name).length = g.nodes.length := List.length_map _
  obtain ⟨k, hk, hleast, hsearch, hfind⟩ := exists_search (fun i : Nat => base ++ toString i)
    (fun name => (g.findNode? name).isNone) hdistinct (g.nodes.map Node.name)
    fun i => by rw [Option.isNone_iff_eq_none, hg.findNode?_eq_none_iff]
  rw [hlength] at hk hfind
  refine ⟨k, hk, hleast, hsearch, ?_⟩
  rw [freshName, hfind _ (Nat.lt_succ_self _)]

/-- All that can come of a node under a new name. -/
theorem insert_cases {g : Graph} {name : String} (hnew : g.findNode? name = none) (body : Body) :
    (g.insert name body).1 = .ok ⟨g.nodes.length⟩ ∧
        (g.insert name body).2.nodes.map Node.name = g.nodes.map Node.name ++ [name] ∨
      g.isBuilt = true ∧ g.insert name body = (.error (.alreadyLinked name), g) ∨
      maxPortsPerNode < (Node.initialPorts body).length ∧ g.insert name body = (.error (.portLimitReached name), g) := by
  by_cases hopen : (!g.isBuilt) = true
  · rcases Node.make_cases ⟨g.nodes.length⟩ name body with ⟨-, hmake⟩ | ⟨hfull, hmake⟩
    · refine .inl ?_
      rw [insert_of_free (by simpa [isBuilt] using hopen) hnew hmake]
      exact ⟨rfl, List.map_append⟩
    · refine .inr (.inr ⟨hfull, ?_⟩)
      rw [insert, Edit.run_require_bind, if_pos hopen, Edit.run_require_bind, if_pos (by simp [hnew]),
        Edit.run_get_bind, Edit.run_bind, Edit.run_ask, hmake]
  · refine .inr (.inl ⟨by simpa using hopen, ?_⟩)
    rw [insert, Edit.run_require_bind, if_neg hopen]

/-- A node without a name of its own is never refused for the one it gets. -/
theorem Named.create_cases {g : Graph} (hg : g.Named) (config : NodeConfig) :
    let name := g.freshName config.kind.name
    (g.create config).1 = .ok ⟨g.nodes.length⟩ ∧
        (g.create config).2.nodes.map Node.name = g.nodes.map Node.name ++ [name] ∨
      g.isBuilt = true ∧ g.create config = (.error (.alreadyLinked name), g) ∨
      maxPortsPerNode < (Node.initialPorts config.body).length ∧
        g.create config = (.error (.portLimitReached name), g) := by
  intro name
  obtain ⟨k, -, hleast, -, hname⟩ := hg.exists_freshName config.kind.name
  have hfree : name ∉ g.nodes.map Node.name := by
    rw [show name = _ from hname]
    exact hleast.1
  exact insert_cases (hg.findNode?_eq_none_iff.mpr hfree) config.body

/-! ## New outputs -/

end Graph

theorem Node.find?_withPort_self (n : Node) (port : Port) : (n.withPort port).find? port.key = some n.ports.length := by
  rw [find?, withPort, List.lookup_cons_self]

namespace Graph

/-- What an answered request has done to its node. -/
theorem requestOutput_cases {g : Graph} {id : NodeId} {request : Request} {p : PortId}
    (h : (g.requestOutput id request).1 = .ok p) :
    ∃ n next, g.nodes[id.index]? = some n ∧ n.Answered id request p next ∧
      (g.requestOutput id request).2 = g.setNode id next := by
  obtain ⟨n, hn, hok, hnext⟩ := node_of_editNode h
  exact ⟨n, _, hn, (n.requestOutput_outcome id request).of_ok hok, hnext⟩

/-- A request without a name has an answer from before, or gets a port under a key that was free. -/
theorem requestOutput_of_unnamed {g : Graph} {id : NodeId} {request : Request} {p : PortId}
    (hindexed : ∀ n ∈ g.nodes, n.Indexed) (hunnamed : request.name = none)
    (h : (g.requestOutput id request).1 = .ok p) :
    let next := (g.requestOutput id request).2
    ∃ n, g.nodes[id.index]? = some n ∧
      ((∃ e, n.answered? request = some e ∧ e.port = p ∧ next = g) ∨
        ∃ map, n.answered? request = none ∧ n.outputMap? = some map ∧
          let key := portKey (some map.name) (n.freshKey map.name)
          key ∉ n.keys ∧ (next.node id).map Node.keys = .ok (n.keys ++ [key]) ∧
          p = .ofNode id n.ports.length ∧ next.port id key = .ok p) := by
  intro next
  obtain ⟨n, m, hn, hanswered, hnext⟩ := requestOutput_cases h
  have hat : next.nodes[id.index]? = some m := by
    rw [show next = g.setNode id m from hnext]
    exact List.getElem?_set_self (List.getElem?_eq_some_iff.mp hn).1
  have hkeys := hindexed n (List.mem_of_getElem? hn)
  refine ⟨n, hn, ?_⟩
  cases hanswered with
  | known e hknown => exact .inl ⟨e, hknown, rfl, hnext.trans (setNode_self hn)⟩
  | made map key spec _ hnew hmap hkey =>
    obtain rfl : n.freshKey map.name = key := by
      rw [Node.keyFor, hunnamed] at hkey
      exact Except.ok.inj hkey
    have hfree := hkeys.find?_eq_none_iff.mp (hkeys.find?_freshKey map.name)
    have hport := n.outputPort_key map (n.freshKey map.name) spec
    refine .inr ⟨map, hnew, hmap, hfree, ?_, rfl, ?_⟩
    · rw [node_eq_ok_iff.mpr hat, ← hport]
      exact congrArg Except.ok (n.keys_withPort _)
    · refine port_eq_ok_iff.mpr ⟨_, n.ports.length, hat, ?_, rfl⟩
      rw [← hport]
      exact n.find?_withPort_self _

/-- What is made up is free, and the search for it ends. A node that is created without a name gets that of its kind
with the least number that makes a name of no node, after at most one attempt more than there are nodes; it is refused
only in a graph that has been built, or for having too many ports. The search for a key finds the least number that makes
a key of no port of the node, after at most one attempt more than it has ports. So a request without a name that has not
been answered before gets a port of its own, under a key that no port had. Whether it had been answered or not, every key
that led to a port goes on to lead there. -/
theorem made_up_names_free (course : List Occurrence) :
    let g := ({} : Graph).after course
    (∀ config : NodeConfig, ∃ looked k, looked ≤ g.nodes.length + 1 ∧
      let name := config.kind.name ++ toString k
      let outcome := g.create config
      Search (fun i : Nat => config.kind.name ++ toString i) (fun other => (g.findNode? other).isNone) 0 looked name ∧
      IsLeast {i : Nat | config.kind.name ++ toString i ∉ g.nodes.map Node.name} k ∧
      (outcome.1 = .ok ⟨g.nodes.length⟩ ∧ outcome.2.nodes.map Node.name = g.nodes.map Node.name ++ [name] ∨
        g.isBuilt = true ∧ outcome = (.error (.alreadyLinked name), g) ∨
        maxPortsPerNode < (Node.initialPorts config.body).length ∧ outcome = (.error (.portLimitReached name), g)) ∧
      ∀ other, outcome.1 ≠ .error (.duplicateNodeName other)) ∧
    (∀ (id : NodeId) (n : Node), g.nodes[id.index]? = some n → ∀ map, ∃ looked k, looked ≤ n.ports.length + 1 ∧
      Search (fun i : Nat => toString i) (fun key => (n.find? (portKey (some map) key)).isNone) 0 looked (toString k) ∧
      IsLeast {i : Nat | portKey (some map) (toString i) ∉ n.keys} k ∧ n.freshKey map = toString k) ∧
    ∀ (id : NodeId) (request : Request) (p : PortId), request.name = none → (g.requestOutput id request).1 = .ok p →
      let next := (g.requestOutput id request).2
      (∀ other key q, g.port other key = .ok q → next.port other key = .ok q) ∧
      ∃ n, g.nodes[id.index]? = some n ∧
        ((∃ e, n.answered? request = some e ∧ e.port = p ∧ next = g) ∨
          ∃ map, n.answered? request = none ∧ n.outputMap? = some map ∧
            let key := portKey (some map.name) (n.freshKey map.name)
            key ∉ n.keys ∧ (next.node id).map Node.keys = .ok (n.keys ++ [key]) ∧
            p = .ofNode id n.ports.length ∧ next.port id key = .ok p) := by
  intro g
  have hnamed : g.Named := named_empty.after course
  have hindexed : ∀ n ∈ g.nodes, n.Indexed := by
    intro n hn
    obtain ⟨i, hi⟩ := List.mem_iff_getElem?.mp hn
    obtain ⟨_, -, _, -, haddressed⟩ := addressed course hi
    exact haddressed.indexed
  refine ⟨fun config => ?_, fun id n hn map => ?_, fun id request p hunnamed hok => ⟨fun other key q hport => ?_,
    requestOutput_of_unnamed hindexed hunnamed hok⟩⟩
  · obtain ⟨k, hk, hleast, hsearch, hname⟩ := hnamed.exists_freshName config.kind.name
    have hcases := hnamed.create_cases config
    rw [hname] at hcases
    refine ⟨k + 1, k, Nat.succ_le_succ hk, hsearch, hleast, hcases, fun other hduplicate => ?_⟩
    rcases hcases with ⟨houtcome, -⟩ | ⟨-, houtcome⟩ | ⟨-, houtcome⟩ <;> rw [houtcome] at hduplicate <;> cases hduplicate
  · obtain ⟨k, hk, hleast, hsearch, hkey⟩ := (hindexed n (List.mem_of_getElem? hn)).exists_freshKey map
    exact ⟨k + 1, k, Nat.succ_le_succ hk, hsearch, hleast, hkey⟩
  · have hlater := port_after course [.operation (.requestOutput id request)] hport
    rwa [after, List.foldl_cons, List.foldl_nil, Occurrence.apply, Operation.apply, Verdict.ofNegotiation_snd] at hlater

/-- A camera whose first numbers are taken: of the names, one by another kind of node, and of the keys, one by an
entry that was made and one by a request with a name. -/
theorem made_up_names_free_past_taken :
    let request : Request := { kind := .imgFrame, size := some ⟨640, 360⟩ }
    let course : List Occurrence := [.operation (.createNamed "Camera0" (.xlinkOut { stream := "preview" })),
      .operation (.create (.camera {})), .operation (.createNamed "Camera3" (.producer {})),
      .operation (.mapPort .output ⟨1⟩ "dynamicOutputs" "0"),
      .operation (.requestOutput ⟨1⟩ { request with name := some "1", size := some ⟨320, 180⟩ })]
    let g := ({} : Graph).after course
    let next := (g.requestOutput ⟨1⟩ request).2
    (g.create (.camera {})).2.nodes.map Node.name = ["Camera0", "Camera1", "Camera3", "Camera2"] ∧
      next.port ⟨1⟩ "dynamicOutputs.1" = .ok ⟨1, 10⟩ ∧ next.port ⟨1⟩ "dynamicOutputs.2" = .ok ⟨1, 11⟩ := by
  intro request course g next
  obtain ⟨hcreate, -, hrequest⟩ := made_up_names_free course
  refine ⟨?_, ?_⟩
  · obtain ⟨looked, k, -, -, hleast, hcases, -⟩ := hcreate (.camera {})
    have hnames : g.nodes.map Node.name = ["Camera0", "Camera1", "Camera3"] := by decide +kernel
    have htwo : IsLeast {i : Nat | "Camera" ++ toString i ∉ g.nodes.map Node.name} 2 := by
      rw [hnames]
      have htaken (i : Nat) (hi : i < 2) : "Camera" ++ toString i ∈ ["Camera0", "Camera1", "Camera3"] := by
        obtain rfl | rfl : i = 0 ∨ i = 1 := by omega
        · decide +kernel
        · decide +kernel
      have hfree : "Camera" ++ toString 2 ∉ ["Camera0", "Camera1", "Camera3"] := by decide +kernel
      exact ⟨hfree, fun i hi => Nat.le_of_not_lt fun hlt => hi (htaken i hlt)⟩
    obtain rfl : k = 2 := Nat.le_antisymm (hleast.2 htwo.1) (htwo.2 hleast.1)
    rcases hcases with ⟨-, hafter⟩ | ⟨hbuilt, -⟩ | ⟨hfull, -⟩
    · rw [hafter, hnames]
      rfl
    · exact absurd hbuilt (by decide +kernel)
    · exact absurd hfull (by decide +kernel)
  · obtain ⟨hkept, n, hn, hgains⟩ := hrequest ⟨1⟩ request ⟨1, 11⟩ rfl (by decide +kernel)
    refine ⟨hkept _ _ _ (by decide +kernel), ?_⟩
    have hkey : (g.nodes[1]?.bind fun n => n.outputMap?.map fun map => portKey (some map.name) (n.freshKey map.name)) =
        some "dynamicOutputs.2" := by decide +kernel
    have hnew : (g.nodes[1]?.bind fun n => n.answered? request) = none := by decide +kernel
    rw [show g.nodes[1]? = some n from hn, Option.bind_some] at hkey hnew
    rcases hgains with ⟨e, hknown, -⟩ | ⟨map, -, hmap, -, -, -, hport⟩
    · rw [hnew] at hknown
      cases hknown
    · rw [hmap, Option.map_some, Option.some_inj] at hkey
      rwa [hkey] at hport

end Graph
end FrameGraph
