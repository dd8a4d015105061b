import FrameGraph.Proofs.Plan.Sorting

/-!
# Graphs without a plan

A graph that has no plan is refused with the names of the nodes that the sort could not place. These are the nodes on
circles, and all that is reached from there.

* `Plan.mem_left_iff`: the nodes that are left out. `Plan.map_some_unplaced`: their names.
* `Plan.encircled_named`: when a graph is refused, and which nodes the refusal names.
-/

namespace FrameGraph
set_option autoImplicit false

theorem Encircled.lt {n : Nat} {links : List Edge} {v : Nat} (h : Encircled (Feeds n links) v) : v < n := by
  obtain ⟨u, hcircle, hpath⟩ := h
  obtain ⟨w, -, hlast⟩ := Relation.TransGen.tail'_iff.mp (hcircle.trans_left hpath)
  exact hlast.2.2

namespace Plan

/-- The numbers of the nodes that an order leaves out. -/
def left (n : Nat) (order : List Nat) : List Nat :=
  (List.range n).filter fun v => !order.contains v

theorem map_some_unplaced (names : List String) (order : List Nat) :
    (unplaced names order).map some = (left names.length order).map fun v => names[v]? := by
  have hnumbers : names.zipIdx.map Prod.snd = List.range names.length := by
    rw [List.zipIdx_map_snd, List.range_eq_range']
  calc (unplaced names order).map some
      = (names.zipIdx.filter fun entry => !order.contains entry.2).map fun entry => some entry.1 := by
        rw [unplaced, List.map_map]
        rfl
    _ = (names.zipIdx.filter fun entry => !order.contains entry.2).map fun entry => names[entry.2]? := by
        refine List.map_congr_left fun entry hentry => ?_
        exact (List.mem_zipIdx_iff_getElem?.mp (List.mem_of_mem_filter hentry)).symm
    _ = (left names.length order).map fun v => names[v]? := by
        rw [left, ← hnumbers, List.filter_map, List.map_map]
        rfl

theorem mem_left_iff {n : Nat} {links : List Edge} {v : Nat} :
    v ∈ left n (topologicalOrder n (Adjacency.ofLinks n links)) ↔ Encircled (Feeds n links) v := by
  have hout {v : Nat} (hv : v < n) := not_mem_topologicalOrder_iff (Adjacency.agrees_ofLinks n links) hv
  simp only [edges_ofLinks_eq_feeds] at hout
  simp only [left, List.mem_filter, List.mem_range, Bool.not_eq_true', List.contains_eq_mem, decide_eq_false_iff_not]
  exact ⟨fun ⟨hv, hmem⟩ => (hout hv).mp hmem, fun h => ⟨h.lt, (hout h.lt).mpr h⟩⟩

theorem compile_eq_error_iff {names : List String} {links : List Edge} {e : BuildError} :
    let order := topologicalOrder names.length (Adjacency.ofLinks names.length links)
    compile names links = .error e ↔ unplaced names order ≠ [] ∧ e = .cyclicDependency (unplaced names order) := by
  intro order
  have hnone : unplaced names order = [] ↔ left names.length order = [] := by
    rw [← List.map_eq_nil_iff (f := some), map_some_unplaced, List.map_eq_nil_iff]
  have hcomplete : names.length ≤ order.length ↔ unplaced names order = [] := by
    rw [complete_ofLinks_iff, acyclic_iff_forall_not_encircled, hnone, List.eq_nil_iff_forall_not_mem]
    simp only [order, mem_left_iff]
  simp only [compile]
  split
  · rename_i hshort
    have hsome : unplaced names order ≠ [] := fun hnil => absurd (hcomplete.mpr hnil) (Nat.not_le.mpr hshort)
    simp only [Except.error.injEq, hsome, ne_eq, not_false_eq_true, true_and, eq_comm, order]
  · rename_i hfull
    simp [hcomplete.mp (Nat.le_of_not_lt hfull)]

/-- Where links have no plan, the refusal names exactly the nodes that are encircled, in the order of their numbers.
There is such a node then, and where there is one the links have no plan. -/
theorem encircled_named (names : List String) (links : List Edge) :
    ∃ (nodes : List Nat) (culprits : List String), nodes.Pairwise (· < ·) ∧
      (∀ v, v ∈ nodes ↔ Encircled (Feeds names.length links) v) ∧
      culprits.map some = nodes.map (fun v => names[v]?) ∧
      ∀ e, compile names links = .error e ↔ culprits ≠ [] ∧ e = .cyclicDependency culprits := by
  refine ⟨left names.length (topologicalOrder names.length (Adjacency.ofLinks names.length links)), _,
    List.pairwise_lt_range.filter _, fun v => mem_left_iff, map_some_unplaced names _, fun e => compile_eq_error_iff⟩

/-- Two nodes on a circle and one behind them; the first one feeds it, and the last one has no links. -/
example : compile ["a", "b", "c", "d", "e"] [(0, 1), (1, 2), (2, 1), (2, 3), (1, 2), (9, 0)] =
    .error (.cyclicDependency ["b", "c", "d"]) := rfl

end Plan
end FrameGraph
