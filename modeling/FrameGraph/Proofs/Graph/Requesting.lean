import FrameGraph.Proofs.Graph.Lifetime

/-!
# Requests that are made again

A node keeps a list of what it has answered, and looks there first. The list only grows, so the first answer
that fits to a request stays the first.

* `Node.requestOutput_answer`: a request that is answered is in the list from then on.
* `Node.Onward.answered`: and stays there.
* `Node.Serves`: an answer leads to a port under its key. `Graph.Served.after`: all answers do, after any course
  of occurrences.
* `Graph.request_answered_again`: the same request has the same answer, for as long as its node may change.
-/

namespace FrameGraph
set_option autoImplicit false

namespace Node

/-! ## Answers in the list -/

theorem run_requestOutput_of_answered {n : Node} (id : NodeId) {request : Request} {e : Negotiated}
    (hmutable : n.state.isMutable = true) (h : n.answered? request = some e) :
    Edit.run n (requestOutput id request) = (.ok e.port, n) := by
  have hrequestable : n.requestable = .ok () := if_pos hmutable
  rw [requestOutput, Edit.run_bind, Edit.run_ask, hrequestable]
  simp only [Edit.run_get_bind, h, Edit.run_pure]

theorem Onward.answered {n next : Node} (h : n.Onward next) {request : Request} {e : Negotiated}
    (he : n.answered? request = some e) : next.answered? request = some e := by
  obtain ⟨rest, hrest⟩ := h.negotiated
  unfold answered? at he ⊢
  rw [← hrest, List.find?_append, he]
  rfl

theorem key_of_answered {n : Node} {request : Request} {e : Negotiated} (h : n.answered? request = some e)
    {name : String} (hname : request.name = some name) : name = e.key := by
  have hfound := List.find?_some h
  simp only [hname, Option.all_some, Bool.and_eq_true, beq_iff_eq] at hfound
  exact hfound.2

theorem name_of_keyFor {n : Node} {map key : String} {request : Request} (h : n.keyFor map request = .ok key) :
    (request.name.all fun name => name == key) = true := by
  unfold keyFor at h
  split at h
  · rename_i hname
    rw [hname]
    rfl
  · rename_i name hname
    split at h
    · cases h
    · cases h
      simp [hname]

/-- A request that is like itself finds its own answer, be it an earlier one or the one just given. -/
theorem requestOutput_answer (n : Node) (id : NodeId) {request : Request}
    (hself : request.sameProfile request = true) :
    Edit.Outcome n (fun p next => ∃ e, next.answered? request = some e ∧ e.port = p)
      (Edit.run n (requestOutput id request)) := by
  refine (n.requestOutput_outcome id request).mono fun p next h => ?_
  cases h with
  | known e hknown => exact ⟨e, hknown, rfl⟩
  | made m key spec _ hnew _ hkey =>
    refine ⟨⟨request, key, .ofNode id n.ports.length⟩, ?_, rfl⟩
    unfold answered? at hnew ⊢
    simp only [List.find?_append, hnew, Option.none_or]
    simp [hself, name_of_keyFor hkey]

/-! ## Answers and ports -/

/-- The port of an answer is there, under the key of the answer in the map of outputs. -/
def Serves (n : Node) (id : NodeId) (e : Negotiated) : Prop :=
  e.port = .ofNode id e.port.position ∧ ∃ map port, n.outputMap? = some map ∧
    n.ports[e.port.position.val]? = some port ∧ port.key = portKey (some map.name) e.key

theorem Onward.serves {n next : Node} (h : n.Onward next) {id : NodeId} {e : Negotiated} (he : n.Serves id e) :
    next.Serves id e := by
  obtain ⟨hport, map, port, hmap, hat, hkey⟩ := he
  obtain ⟨_, hnext, _, _, rfl⟩ := h.ports hat
  exact ⟨hport, map, _, by rwa [outputMap?, h.maps], hnext, hkey⟩

theorem outputPort_key (n : Node) (map : PortMap) (key : String) (spec : OutputSpec) :
    (n.outputPort map key spec).key = portKey (some map.name) key := by
  have hname : ((n.maps.find? fun m => m.name == map.name).getD map).name = map.name := by
    cases hfound : n.maps.find? fun m => m.name == map.name with
    | none => rfl
    | some m => simpa using List.find?_some hfound
  simp [outputPort, PortMap.entry, Port.key, hname]

theorem Revision.serves {n next : Node} {id : NodeId} (h : n.Revision id next) {e : Negotiated}
    (he : e ∈ next.negotiated) : e ∈ n.negotiated ∨ next.Serves id e := by
  cases h with
  | body | entry | queue => exact .inl he
  | request request map key spec hnew hmap hkey hspec hroom =>
    rcases List.mem_append.mp he with he | he
    · exact .inl he
    · have hposition : (PortId.ofNode id n.ports.length).position.val = n.ports.length := Nat.mod_eq_of_lt hroom
      rw [List.mem_singleton.mp he]
      refine .inr ⟨by rw [hposition], map, n.outputPort map key spec, hmap, ?_, n.outputPort_key map key spec⟩
      simp [hposition, withPort]

end Node

namespace Graph

/-- Every answer of every node leads to its port. -/
def Served (g : Graph) : Prop :=
  ∀ (i : Nat) (n : Node), g.nodes[i]? = some n → ∀ e ∈ n.negotiated, n.Serves ⟨i⟩ e

/-- An answer that was there before is as good as it was, so only the new ones matter. -/
theorem Served.onward {g next : Graph} (hg : g.Served) (honward : g.Onward next)
    (hnew : ∀ (i : Nat) (m : Node), next.nodes[i]? = some m → ∀ e ∈ m.negotiated,
      (∃ n, g.nodes[i]? = some n ∧ e ∈ n.negotiated) ∨ m.Serves ⟨i⟩ e) : next.Served := by
  intro i m hm e he
  rcases hnew i m hm e he with ⟨n, hn, hold⟩ | hserves
  · obtain ⟨other, hother, hnm⟩ := honward i n hn
    obtain rfl : m = other := Option.some.inj (hm.symm.trans hother)
    exact hnm.serves (hg i n hn e hold)
  · exact hserves

theorem Served.setNode {g : Graph} (hg : g.Served) {id : NodeId} {n next : Node} (hn : g.nodes[id.index]? = some n)
    (honward : n.Onward next) (hnew : ∀ e ∈ next.negotiated, e ∈ n.negotiated ∨ next.Serves id e) :
    (g.setNode id next).Served := by
  refine hg.onward (onward_setNode hn honward) fun i m hm e he => ?_
  obtain ⟨hlt, -⟩ := List.getElem?_eq_some_iff.mp hn
  by_cases hi : id.index = i
  · subst hi
    obtain rfl : next = m := Option.some.inj ((List.getElem?_set_self hlt).symm.trans hm)
    rcases hnew e he with hold | hserves
    · exact .inl ⟨n, hn, hold⟩
    · exact .inr hserves
  · rw [Graph.setNode, List.getElem?_set_ne hi] at hm
    exact .inl ⟨m, hm, he⟩

theorem Change.served {g next : Graph} (h : g.Change next) (hg : g.Served) : next.Served := by
  have honward := h.onward
  cases h with
  | insert name body n _ _ hmake =>
    refine hg.onward honward fun i m hm e he => ?_
    by_cases hi : i < g.nodes.length
    · rw [List.getElem?_append_left hi] at hm
      exact .inl ⟨m, hm, he⟩
    · -- A new node has answered nothing.
      rw [List.getElem?_append_right (Nat.le_of_not_lt hi)] at hm
      rw [List.mem_singleton.mp (List.mem_of_getElem? hm), Node.eq_of_make hmake] at he
      cases he
  | revise id n next hn hmutable hnext => exact hg.setNode hn (hnext.onward hmutable) fun e he => hnext.serves he
  | link | unlink => exact hg
  | build plan =>
    refine hg.onward honward fun i m hm e he => ?_
    rw [built, List.getElem?_map, Option.map_eq_some_iff] at hm
    obtain ⟨n, hn, rfl⟩ := hm
    exact .inl ⟨n, hn, he⟩

end Graph

theorem Occurrence.served (occurrence : Occurrence) {g : Graph} (hg : g.Served) : (occurrence.apply g).Served := by
  cases hcall : occurrence.isCall with
  | true =>
    rcases occurrence.kept hcall g with hsame | hchange
    · rw [hsame]
      exact hg
    · exact hchange.served hg
  | false =>
    cases occurrence with
    | operation | adjust => cases hcall
    | takeBody id =>
      simp only [Occurrence.apply, Graph.takeBody]
      split
      · exact hg
      · rename_i n hn
        exact hg.setNode hn n.onward_bodiless fun e he => .inl he
    | advanceState id state =>
      simp only [Occurrence.apply, Graph.advanceState]
      split
      · exact hg
      · rename_i n hn
        exact hg.setNode hn (n.onward_advance state) fun e he => .inl he

namespace Graph

theorem Served.after {g : Graph} (hg : g.Served) (course : List Occurrence) : (g.after course).Served := by
  induction course generalizing g with
  | nil => exact hg
  | cons occurrence rest ih => exact ih (occurrence.served hg)

theorem served_empty : ({} : Graph).Served :=
  fun _ _ hn => nomatch hn

/-! ## Requests to a graph -/

theorem run_editNode {ε α : Type} {g : Graph} {id : NodeId} {n : Node} (h : g.nodes[id.index]? = some n)
    (unknown : ε) (edit : Edit Node ε α) :
    Edit.run g (editNode id unknown edit) = ((Edit.run n edit).1, g.setNode id (Edit.run n edit).2) := by
  rw [editNode, Edit.run_get_bind, h]
  rfl

theorem node_of_editNode {ε α : Type} {g : Graph} {id : NodeId} {unknown : ε} {edit : Edit Node ε α} {a : α}
    (h : (Edit.run g (editNode id unknown edit)).1 = .ok a) :
    ∃ n, g.nodes[id.index]? = some n ∧ (Edit.run n edit).1 = .ok a ∧
      (Edit.run g (editNode id unknown edit)).2 = g.setNode id (Edit.run n edit).2 := by
  cases hn : g.nodes[id.index]? with
  | none =>
    rw [editNode, Edit.run_get_bind, hn] at h
    cases h
  | some n =>
    rw [run_editNode hn] at h ⊢
    exact ⟨n, rfl, h, rfl⟩

theorem requestOutput_of_answered {g : Graph} {id : NodeId} {n : Node} {request : Request} {e : Negotiated}
    (hn : g.nodes[id.index]? = some n) (hmutable : n.state.isMutable = true) (h : n.answered? request = some e) :
    g.requestOutput id request = (.ok e.port, g) := by
  rw [requestOutput, run_editNode hn, Node.run_requestOutput_of_answered id hmutable h, setNode_self hn]

theorem answered_of_requestOutput {g : Graph} {id : NodeId} {request : Request} {p : PortId}
    (hself : request.sameProfile request = true) (h : (g.requestOutput id request).1 = .ok p) :
    ∃ n e, (g.requestOutput id request).2.nodes[id.index]? = some n ∧ n.answered? request = some e ∧ e.port = p := by
  obtain ⟨n, hn, hok, hnext⟩ := node_of_editNode h
  obtain ⟨hlt, -⟩ := List.getElem?_eq_some_iff.mp hn
  obtain ⟨e, he, hport⟩ := (n.requestOutput_answer id hself).of_ok hok
  refine ⟨_, e, ?_, he, hport⟩
  rw [requestOutput, hnext]
  exact List.getElem?_set_self hlt

theorem Served.requestOutput {g : Graph} (hg : g.Served) (id : NodeId) (request : Request) :
    (g.requestOutput id request).2.Served := by
  have hkept := (g.requestOutput_outcome id request).state_mem (P := g.Kept) (.inl rfl) fun _ _ h => h
  rcases hkept with hsame | hchange
  · rw [hsame]
    exact hg
  · exact hchange.served hg

/-- Once a node has answered a request with a port, it answers the same request with this port for as long as it
may change, whatever happens meanwhile, and the graph stays as it is. Under the name that was asked for, if there
was one, the port is an entry of the node's map of outputs. -/
theorem request_answered_again (before later : List Occurrence) (id : NodeId) (request : Request) (p : PortId)
    (hself : request.sameProfile request = true)
    (hok : ((({} : Graph).after before).requestOutput id request).1 = .ok p) :
    let g := ((({} : Graph).after before).requestOutput id request).2.after later
    ∃ n, g.nodes[id.index]? = some n ∧
      (n.state.isMutable = true → g.requestOutput id request = (.ok p, g)) ∧
      ∀ name, request.name = some name → ∃ map port, n.outputMap? = some map ∧
        p = .ofNode id p.position ∧ n.ports[p.position.val]? = some port ∧
        port.key = portKey (some map.name) name ∧ (id.index < 1048576 → g.descriptor p = .ok port) := by
  intro g
  obtain ⟨first, e, hfirst, he, rfl⟩ := answered_of_requestOutput hself hok
  obtain ⟨n, hn, honward⟩ := after_onward _ later id.index first hfirst
  have hanswered := honward.answered he
  have hserved : g.Served := ((served_empty.after before).requestOutput id request).after later
  refine ⟨n, hn, fun hmutable => requestOutput_of_answered hn hmutable hanswered, fun name hname => ?_⟩
  obtain ⟨hport, map, port, hmap, hat, hkey⟩ := hserved id.index n hn e (List.mem_of_find?_eq_some hanswered)
  refine ⟨map, port, hmap, hport, hat, Node.key_of_answered hanswered hname ▸ hkey, fun hfew => ?_⟩
  have hnode : e.port.node = id := by
    rw [hport]
    exact congrArg NodeId.mk (Nat.mod_eq_of_lt hfew)
  exact descriptor_eq_ok_iff.mpr ⟨n, by rwa [hnode], hat⟩

/-- A camera is asked for a small output by name. Meanwhile it is asked for the same without a name and for others,
gets another rate and is linked. -/
theorem request_answered_again_camera :
    let small : Request := { kind := .imgFrame, size := some ⟨320, 180⟩, name := some "small" }
    let before : List Occurrence := [.operation (.create (.camera {})),
      .operation (.requestOutput ⟨0⟩ { small with size := some ⟨640, 360⟩, name := none })]
    let later : List Occurrence := [.operation (.requestOutput ⟨0⟩ { small with name := none }),
      .operation (.requestOutput ⟨0⟩ { small with name := some "other" }),
      .operation (.mapPort .output ⟨0⟩ "dynamicOutputs" "extra"),
      .operation (.configure ⟨0⟩ (.camera (.fps (.ofNat 10)))),
      .operation (.create (.xlinkOut { stream := "preview" })), .operation (.link ⟨0, 10⟩ ⟨1, 0⟩)]
    let g := (({} : Graph).after before |>.requestOutput ⟨0⟩ small).2.after later
    (({} : Graph).after before |>.requestOutput ⟨0⟩ small).1 = .ok ⟨0, 10⟩ ∧ g.links.length = 1 ∧
      g.requestOutput ⟨0⟩ small = (.ok ⟨0, 10⟩, g) ∧
      (g.descriptor ⟨0, 10⟩).map Port.key = .ok "dynamicOutputs.small" := by
  intro small before later g
  have hok : (({} : Graph).after before |>.requestOutput ⟨0⟩ small).1 = .ok ⟨0, 10⟩ := by
    simp only [before, small]
    rfl
  obtain ⟨n, hn, hagain, hnamed⟩ := request_answered_again before later ⟨0⟩ small ⟨0, 10⟩ (by decide +kernel) hok
  obtain ⟨map, port, hmap, -, -, hkey, hdescriptor⟩ := hnamed "small" rfl
  have hmutable : g.nodes[0]?.map (fun n => n.state.isMutable) = some true := by decide +kernel
  have hgroup : (g.nodes[0]?.bind Node.outputMap?).map PortMap.name = some "dynamicOutputs" := by decide +kernel
  have hnode : g.nodes[0]? = some n := hn
  rw [hnode] at hmutable hgroup
  rw [Option.bind_some, hmap, Option.map_some, Option.some_inj] at hgroup
  refine ⟨hok, by decide +kernel, hagain (Option.some.inj hmutable), ?_⟩
  rw [hdescriptor (by decide), Except.map, hkey, hgroup]
  rfl

end Graph

end FrameGraph
