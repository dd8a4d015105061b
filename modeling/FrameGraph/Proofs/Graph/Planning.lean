import FrameGraph.Proofs.Graph.Linking
import FrameGraph.Proofs.Plan.Sorting

/-!
# Graphs that can be built

A graph is built exactly if no node feeds itself over any number of links.

* `Graph.Feeds`: one node feeds another over a link. `Graph.WellLinked.feeds_iff`: every link counts for the plan.
* `Graph.Consistent.build_eq_ok_iff`: a build answers with the plan of the links there are, the first time and later.
* `Graph.planned_iff_acyclic`: which links have a plan, which graphs can be built, and what the plan is.
-/

namespace FrameGraph
set_option autoImplicit false

namespace Graph

def Feeds (g : Graph) (v w : Nat) : Prop :=
  ∃ l ∈ g.links, l.source.node.index = v ∧ l.target.node.index = w

theorem Arises.wellLinked {g : Graph} (h : g.Arises) : g.WellLinked := by
  induction h with
  | empty => exact wellLinked_empty
  | step _ occurrence _ ih => exact occurrence.wellLinked ih

/-- All links are between nodes of the graph. -/
theorem WellLinked.feeds_iff {g : Graph} (h : g.WellLinked) {v w : Nat} :
    FrameGraph.Feeds (g.nodes.map Node.name).length g.edges v w ↔ g.Feeds v w := by
  have hmem : (v, w) ∈ g.edges ↔ g.Feeds v w := by simp [edges, Feeds]
  rw [FrameGraph.Feeds, hmem, List.length_map]
  refine ⟨And.left, fun hfeeds => ⟨hfeeds, ?_⟩⟩
  obtain ⟨l, hl, rfl, rfl⟩ := hfeeds
  obtain ⟨output, input, hsource, -, htarget, -⟩ := h.fits l hl
  obtain ⟨n, hn, -⟩ := descriptor_eq_ok_iff.mp hsource
  obtain ⟨m, hm, -⟩ := descriptor_eq_ok_iff.mp htarget
  exact ⟨(List.getElem?_eq_some_iff.mp hn).1, (List.getElem?_eq_some_iff.mp hm).1⟩

theorem build_of_open {g : Graph} (h : g.plan = none) : g.build.1 = Plan.compile (g.nodes.map Node.name) g.edges := by
  have hsame : { g with plan := none } = g := by rw [← h]
  rw [build, Edit.run_get_bind, Edit.run_change_bind, h, hsame]
  simp only [Edit.run_bind, compile, Edit.run_ask]
  cases Plan.compile (g.nodes.map Node.name) g.edges <;> rfl

theorem Consistent.build_eq_ok_iff {g : Graph} (hg : g.Consistent) (plan : Plan) :
    g.build.1 = .ok plan ↔ Plan.compile (g.nodes.map Node.name) g.edges = .ok plan := by
  cases hheld : g.plan with
  | none => rw [build_of_open hheld]
  | some earlier => rw [build_of_plan hheld, hg.plan_of_links hheld]

/-- Links have a plan exactly if those between nodes have no circle, and then the plan has every node once, has
each of these links run forward, and lists them as they first occurred. So a graph can be built exactly if no
node feeds itself, and every one of its links runs forward in its plan. -/
theorem planned_iff_acyclic :
    (∀ (names : List String) (links : List Edge),
      ((∃ plan, Plan.compile names links = .ok plan) ↔ Acyclic (FrameGraph.Feeds names.length links)) ∧
      ∀ plan, Plan.compile names links = .ok plan →
        plan.order.Perm (List.range names.length) ∧
        (∀ v w, FrameGraph.Feeds names.length links v w → plan.Precedes v w) ∧
        plan.edges = (links.filter (Edge.within names.length)).eraseDups) ∧
    ∀ g : Graph, g.Arises →
      ((∃ plan, g.build.1 = .ok plan) ↔ Acyclic g.Feeds) ∧
      ∀ plan, g.build.1 = .ok plan →
        ∀ l ∈ g.links, plan.Precedes l.source.node.index l.target.node.index := by
  refine ⟨fun names links => ⟨Plan.exists_compile_iff, fun plan hplan => ?_⟩, fun g hg => ?_⟩
  · refine ⟨Plan.order_perm_of_compile hplan, fun v w hfeeds => Plan.precedes_of_compile hplan hfeeds, ?_⟩
    rw [(Plan.compile_eq_ok_iff.mp hplan).2]
    rfl
  · have hbuild := hg.consistent.build_eq_ok_iff
    have hfeeds : FrameGraph.Feeds (g.nodes.map Node.name).length g.edges = g.Feeds := by
      funext v w
      exact propext hg.wellLinked.feeds_iff
    refine ⟨?_, fun plan hplan l hl => ?_⟩
    · simp only [hbuild, Plan.exists_compile_iff, hfeeds]
    · exact Plan.precedes_of_compile ((hbuild plan).mp hplan) (hg.wellLinked.feeds_iff.mpr ⟨l, hl, rfl, rfl⟩)

/-- Three nodes with a link made twice and one to nowhere, the same with a node that feeds itself, and a graph whose
second node feeds the first. -/
theorem planned_iff_acyclic_three_nodes :
    let links : List Edge := [(2, 0), (0, 1), (2, 0), (7, 1), (2, 1)]
    let g := ({} : Graph).after [
      .operation (.addPlugin "a" { typeName := "Sink", ports := [
        { name := "in", direction := .input, types := [.any] }] }),
      .operation (.addPlugin "b" { typeName := "Tap", ports := [
        { name := "out", direction := .output, types := [.any] }] }),
      .operation (.link ⟨1, 0⟩ ⟨0, 0⟩)]
    (∃ plan, Plan.compile ["a", "b", "c"] links = .ok plan ∧ plan.order.Perm (List.range 3) ∧ plan.Precedes 2 1 ∧
      plan.edges = [(2, 0), (0, 1), (2, 1)]) ∧
    ¬Acyclic (FrameGraph.Feeds 3 ((1, 1) :: links)) ∧
    (∃ plan, g.build.1 = .ok plan ∧ plan.order = [1, 0] ∧ plan.Precedes 1 0) ∧ Acyclic g.Feeds := by
  intro links g
  obtain ⟨hcompile, hgraph⟩ := planned_iff_acyclic
  obtain ⟨hperm, hforward, hedges⟩ := (hcompile ["a", "b", "c"] links).2 _ rfl
  have hg : g.Arises := Arises.empty.after (by simp [Occurrence.isCall])
  have hbuild : g.build.1 = .ok (Plan.ofOrder 2 [(1, 0)] [(1, 0)] [1, 0]) := by rfl
  refine ⟨⟨_, rfl, hperm, hforward 2 1 ⟨by decide, by decide, by decide⟩, hedges⟩, fun hacyclic => ?_,
    ⟨_, hbuild, rfl, (hgraph g hg).2 _ hbuild ⟨⟨0⟩, ⟨1, 0⟩, ⟨0, 0⟩⟩ ?_⟩, (hgraph g hg).1.mp ⟨_, hbuild⟩⟩
  · obtain ⟨plan, hplan⟩ := (hcompile ["a", "b", "c"] ((1, 1) :: links)).1.mpr hacyclic
    cases hplan
  · exact List.mem_singleton_self _

end Graph
end FrameGraph
