import FrameGraph.Proofs.Graph.Nodes

/-!
# Identifiers of ports

An identifier has room for the position of every port that a node can have, but not for the number of every node
that a graph can have: nodes that are 1048576 apart give their ports the same identifiers.

* `Node.listing`, `Graph.Lists`: the ports of a node as the graph lists them.
* `PortId.ofNode_eq_ofNode_iff`: when two identifiers are the same.
* `Graph.port_ids_tell_ports`: which ports can be told apart by their identifiers, after any course of occurrences.
* `Graph.crowd`: a history of a given number of nodes. `Graph.port_ids_shared`: one node too many.
-/

namespace FrameGraph
set_option autoImplicit false

namespace PortId

theorem ofNode_position {position : Nat} (h : position < maxPortsPerNode) (id : NodeId) :
    (ofNode id position).position.val = position :=
  Nat.mod_eq_of_lt h

theorem ofNode_node (id : NodeId) (position : Nat) : (ofNode id position).node.index = id.index % 1048576 :=
  rfl

theorem ofNode_node_eq_iff {id : NodeId} {j : Nat} : (ofNode id j).node = id ↔ id.index < 1048576 := by
  obtain ⟨index⟩ := id
  rw [node, NodeId.mk.injEq]
  exact Nat.mod_eq_iff_lt (by decide)

theorem ofNode_eq_ofNode_iff {id other : NodeId} {i j : Nat} (hi : i < maxPortsPerNode) (hj : j < maxPortsPerNode) :
    ofNode id i = ofNode other j ↔ i = j ∧ id.index % 1048576 = other.index % 1048576 := by
  have hi : i % 4096 = i := Nat.mod_eq_of_lt hi
  have hj : j % 4096 = j := Nat.mod_eq_of_lt hj
  simp only [ofNode, Fin.ofNat, mk.injEq, Fin.mk.injEq, hi, hj]
  exact and_comm

@[simp] theorem ofNode_self (id : PortId) : ofNode id.node id.position = id := by
  obtain ⟨⟨owner, howner⟩, ⟨position, hposition⟩⟩ := id
  simp [ofNode, node, Fin.ofNat, Nat.mod_eq_of_lt howner, Nat.mod_eq_of_lt hposition]

end PortId

/-! ## Listings -/

def Node.listing (n : Node) (id : NodeId) : List (PortId × Port) :=
  n.ports.zipIdx.map fun (port, position) => (.ofNode id position, port)

theorem Node.listing_getElem? {n : Node} {id : NodeId} {j : Nat} {p : PortId} {port : Port} :
    (n.listing id)[j]? = some (p, port) ↔ n.ports[j]? = some port ∧ p = .ofNode id j := by
  simp only [listing, List.getElem?_map, List.getElem?_zipIdx, Option.map_map, Option.map_eq_some_iff]
  constructor
  · rintro ⟨found, hfound, hsame⟩
    cases hsame
    exact ⟨hfound, by simp⟩
  · rintro ⟨hport, rfl⟩
    exact ⟨port, hport, by simp⟩

theorem Node.mem_listing {n : Node} {id : NodeId} {p : PortId} {port : Port} :
    (p, port) ∈ n.listing id ↔ ∃ j, n.ports[j]? = some port ∧ p = .ofNode id j := by
  simp only [List.mem_iff_getElem?, listing_getElem?]

namespace Graph

theorem ports_eq_ok_iff {g : Graph} {id : NodeId} {listed : List (PortId × Port)} :
    g.ports id = .ok listed ↔ ∃ n, g.nodes[id.index]? = some n ∧ listed = n.listing id := by
  constructor
  · intro h
    obtain ⟨n, hn, h⟩ := ok_of_bind h
    cases h
    exact ⟨n, node_eq_ok_iff.mp hn, rfl⟩
  · rintro ⟨n, hn, rfl⟩
    rw [ports, node_eq_ok_iff.mpr hn]
    rfl

/-- The port that the graph lists for a node at a place. -/
def Lists (g : Graph) (id : NodeId) (j : Nat) (p : PortId) (port : Port) : Prop :=
  ∃ listed, g.ports id = .ok listed ∧ listed[j]? = some (p, port)

theorem lists_iff {g : Graph} {id : NodeId} {j : Nat} {p : PortId} {port : Port} :
    g.Lists id j p port ↔ ∃ n, g.nodes[id.index]? = some n ∧ n.ports[j]? = some port ∧ p = .ofNode id j := by
  constructor
  · rintro ⟨listed, hlisted, hj⟩
    obtain ⟨n, hn, rfl⟩ := ports_eq_ok_iff.mp hlisted
    exact ⟨n, hn, Node.listing_getElem?.mp hj⟩
  · rintro ⟨n, hn, hj⟩
    exact ⟨_, ports_eq_ok_iff.mpr ⟨n, hn, rfl⟩, Node.listing_getElem?.mpr hj⟩

theorem Lists.eq_ofNode {g : Graph} {id : NodeId} {j : Nat} {p : PortId} {port : Port} (h : g.Lists id j p port) :
    p = .ofNode id j := by
  obtain ⟨_, -, -, hp⟩ := lists_iff.mp h
  exact hp

theorem Lists.index_lt {g : Graph} {id : NodeId} {j : Nat} {p : PortId} {port : Port} (h : g.Lists id j p port) :
    id.index < g.nodes.length := by
  obtain ⟨_, hn, -⟩ := lists_iff.mp h
  exact (List.getElem?_eq_some_iff.mp hn).1

theorem Lists.position_lt {course : List Occurrence} {id : NodeId} {j : Nat} {p : PortId} {port : Port}
    (h : (({} : Graph).after course).Lists id j p port) : j < maxPortsPerNode := by
  obtain ⟨n, hn, hj, -⟩ := lists_iff.mp h
  exact Nat.lt_of_lt_of_le (List.getElem?_eq_some_iff.mp hj).1 (ports_length_le course hn)

/-- The identifier of a listed port gives back its position, and the number of its node up to multiples of 1048576.
So it gives back the node exactly for the nodes below this number, and in a graph with no more nodes than that
different ports have different identifiers. -/
theorem port_ids_tell_ports (course : List Occurrence) :
    let g := ({} : Graph).after course
    (∀ id j p port, g.Lists id j p port → p.position.val = j ∧ p.node.index = id.index % 1048576 ∧
      (p.node = id ↔ id.index < 1048576)) ∧
    (∀ id other i j p q output input, g.Lists id i p output → g.Lists other j q input →
      (p = q ↔ i = j ∧ id.index % 1048576 = other.index % 1048576)) ∧
    (g.nodes.length ≤ 1048576 → ∀ id other i j p q output input, g.Lists id i p output → g.Lists other j q input →
      p.node = id ∧ (p = q ↔ id = other ∧ i = j)) := by
  intro g
  refine ⟨fun id j p port h => ?_, fun id other i j p q output input h h' => ?_,
    fun hfew id other i j p q output input h h' => ?_⟩
  · rw [h.eq_ofNode]
    exact ⟨PortId.ofNode_position h.position_lt id, PortId.ofNode_node id j, PortId.ofNode_node_eq_iff⟩
  · rw [h.eq_ofNode, h'.eq_ofNode]
    exact PortId.ofNode_eq_ofNode_iff h.position_lt h'.position_lt
  · have hid := Nat.lt_of_lt_of_le h.index_lt hfew
    have hother := Nat.lt_of_lt_of_le h'.index_lt hfew
    rw [h.eq_ofNode, h'.eq_ofNode, PortId.ofNode_eq_ofNode_iff h.position_lt h'.position_lt,
      Nat.mod_eq_of_lt hid, Nat.mod_eq_of_lt hother]
    refine ⟨PortId.ofNode_node_eq_iff.mpr hid, ?_⟩
    obtain ⟨id⟩ := id
    obtain ⟨other⟩ := other
    rw [NodeId.mk.injEq]
    exact and_comm

/-- The second output of a camera and the input of the node after it. -/
theorem port_ids_tell_ports_camera :
    let course : List Occurrence := [.operation (.create (.camera {})),
      .operation (.create (.xlinkOut { stream := "preview" }))]
    let g := ({} : Graph).after course
    ∃ preview input, g.Lists ⟨0⟩ 4 ⟨0, 4⟩ preview ∧ g.Lists ⟨1⟩ 0 ⟨1, 0⟩ input ∧
      PortId.position ⟨0, 4⟩ = 4 ∧ PortId.node ⟨0, 4⟩ = ⟨0⟩ ∧
      ((⟨0, 4⟩ : PortId) = ⟨1, 0⟩ ↔ (⟨0⟩ : NodeId) = ⟨1⟩ ∧ 4 = 0) := by
  intro course g
  obtain ⟨hback, -, hfew⟩ := port_ids_tell_ports course
  have hpreview : g.Lists ⟨0⟩ 4 ⟨0, 4⟩ _ := lists_iff.mpr ⟨_, rfl, rfl, rfl⟩
  have hinput : g.Lists ⟨1⟩ 0 ⟨1, 0⟩ _ := lists_iff.mpr ⟨_, rfl, rfl, rfl⟩
  obtain ⟨hnode, hsame⟩ := hfew (by decide) _ _ _ _ _ _ _ _ hpreview hinput
  exact ⟨_, _, hpreview, hinput, Fin.ext (hback _ _ _ _ hpreview).1, hnode, hsame⟩

/-! ## One node too many -/

theorem insert_of_free {g : Graph} {name : String} {body : Body} {n : Node} (hopen : g.plan = none)
    (hnew : g.findNode? name = none) (hmake : Node.make ⟨g.nodes.length⟩ name body = .ok n) :
    g.insert name body =
      (.ok ⟨g.nodes.length⟩, { g with nodes := g.nodes ++ [n], names := (name, ⟨g.nodes.length⟩) :: g.names }) := by
  have hcondition : (!g.isBuilt) = true := by simp [isBuilt, hopen]
  rw [insert, Edit.run_require_bind, if_pos hcondition, Edit.run_require_bind, if_pos (by simp [hnew]),
    Edit.run_get_bind, Edit.run_bind, Edit.run_ask, hmake]
  rfl

theorem toString_inj {i j : Nat} (h : toString i = toString j) : i = j := by
  rw [Nat.toString_eq_ofList_toDigits, Nat.toString_eq_ofList_toDigits, String.ofList_inj] at h
  rw [← Nat.ofDigitChars_ten_toDigits (n := i), h, Nat.ofDigitChars_ten_toDigits]

/-- As many nodes as one likes, each with one input and a number for a name. -/
def crowd (k : Nat) : List Operation :=
  (List.range k).map fun i => .createNamed (toString i) (.xlinkOut { stream := "" })

structure Crowded (g : Graph) (k : Nat) : Prop where
  unplanned : g.plan = none
  count : g.nodes.length = k
  named : ∀ name id, (name, id) ∈ g.names → ∃ i < k, name = toString i
  ports : ∀ n ∈ g.nodes, n.ports = XLinkOutConfig.ports

theorem Crowded.step {g : Graph} {k : Nat} (h : g.Crowded k) :
    ((Operation.createNamed (toString k) (.xlinkOut { stream := "" })).apply g).2.Crowded (k + 1) := by
  obtain ⟨n, hmake, hports⟩ : ∃ n, Node.make ⟨g.nodes.length⟩ (toString k) (.xlinkOut { stream := "" }) = .ok n ∧
      n.ports = XLinkOutConfig.ports := ⟨_, rfl, rfl⟩
  have hnew : g.findNode? (toString k) = none := by
    rw [findNode?, List.lookup_eq_none_iff]
    rintro ⟨name, id⟩ hmem
    obtain ⟨i, hi, rfl⟩ := h.named name id hmem
    have hne : toString k ≠ toString i := fun hsame => Nat.ne_of_gt hi (toString_inj hsame)
    simpa using hne
  have hinsert := insert_of_free h.unplanned hnew hmake
  rw [Operation.apply, Verdict.ofBuild_snd, createNamed, NodeConfig.body, hinsert]
  refine ⟨h.unplanned, by simp [h.count], fun name id hmem => ?_, fun m hm => ?_⟩
  · rcases List.mem_cons.mp hmem with hsame | hmem
    · exact ⟨k, Nat.lt_succ_self k, (Prod.mk.inj hsame).1⟩
    · obtain ⟨i, hi, hname⟩ := h.named name id hmem
      exact ⟨i, Nat.lt_succ_of_lt hi, hname⟩
  · rcases List.mem_append.mp hm with hm | hm
    · exact h.ports m hm
    · rw [List.mem_singleton.mp hm, hports]

theorem crowded_crowd (k : Nat) : (run {} (crowd k)).Crowded k := by
  induction k with
  | zero => exact ⟨rfl, rfl, fun _ _ h => (nomatch h), fun _ h => (nomatch h)⟩
  | succ k ih =>
    rw [crowd, List.range_succ, List.map_append, run, List.foldl_append]
    exact ih.step

/-- The first port of every node of a crowd. -/
theorem Crowded.lists {g : Graph} {k i : Nat} (h : g.Crowded k) (hi : i < k) :
    ∃ port, g.Lists ⟨i⟩ 0 (.ofNode ⟨i⟩ 0) port := by
  rw [← h.count] at hi
  have hports := h.ports g.nodes[i] (List.getElem_mem hi)
  exact ⟨_, lists_iff.mpr ⟨g.nodes[i], List.getElem?_eq_getElem hi, by rw [hports]; rfl, rfl⟩⟩

/-- The first and the last of 1048577 nodes give their ports one identifier, which gives back the first node for
both. -/
theorem port_ids_shared :
    let g := run {} (crowd 1048577)
    g.Reachable ∧
      ¬(∀ id other i j p q output input, g.Lists id i p output → g.Lists other j q input → id ≠ other ∨ i ≠ j →
        p ≠ q) ∧
      ¬∀ id j p port, g.Lists id j p port → p.node = id ∧ p.position.val = j := by
  intro g
  have hreachable : g.Reachable := ⟨crowd 1048577, rfl⟩
  have hcrowd : g.Crowded 1048577 := crowded_crowd 1048577
  clear_value g
  obtain ⟨first, hfirst⟩ := hcrowd.lists (i := 0) (by decide)
  obtain ⟨last, hlast⟩ := hcrowd.lists (i := 1048576) (by decide)
  refine ⟨hreachable, fun hunique => ?_, fun hback => ?_⟩
  · exact hunique _ _ _ _ _ _ _ _ hfirst hlast (.inl (by simp)) (by decide)
  · have hnode := (hback _ _ _ _ hlast).1
    rw [PortId.ofNode_node_eq_iff] at hnode
    exact absurd hnode (by decide)

end Graph
end FrameGraph
