import FrameGraph.Proofs.Plan.Adjacency
import Mathlib.Data.Fintype.EquivFin
import Mathlib.Order.WellFounded

/-!
# The order of a plan

The sort places every node exactly if no node comes back to itself along the links.

* `Sorting.Sound`: what the sort keeps to. In the midst of a step some of the nodes that the newly placed one
  feeds are still `pending`.
* `Sorting.Sound.step`, `Sorting.Sound.run`: a step and a run keep to it. `Sorting.Sound.ready_run`: a run
  with enough fuel ends with no node ready.
* `not_mem_topologicalOrder_iff`: what is left out lies on a circle, or is reached from one.
* `Plan.compile_eq_ok_iff`: the graphs that have a plan, and the plan. `Plan.precedes_of_compile`: every link
  runs forward in it.
-/

namespace FrameGraph
set_option autoImplicit false

/-- Nothing comes back to itself. -/
def Acyclic {α : Type} (r : α → α → Prop) : Prop :=
  ∀ a, ¬Relation.TransGen r a a

/-- Something that comes back to itself, or that is reached from there. -/
def Encircled {α : Type} (r : α → α → Prop) (a : α) : Prop :=
  ∃ b, Relation.TransGen r b b ∧ Relation.ReflTransGen r b a

theorem acyclic_iff_forall_not_encircled {α : Type} {r : α → α → Prop} : Acyclic r ↔ ∀ a, ¬Encircled r a :=
  ⟨fun h _ ⟨b, hcircle, _⟩ => h b hcircle, fun h a hcircle => h a ⟨a, hcircle, .refl⟩⟩

/-- The steps that can be on a path to something. -/
def Towards {α : Type} (r : α → α → Prop) (a b c : α) : Prop :=
  r b c ∧ Relation.ReflTransGen r c a

theorem acyclic_towards {α : Type} {r : α → α → Prop} {a : α} (h : ¬Encircled r a) : Acyclic (Towards r a) := by
  intro b hcircle
  obtain ⟨c, -, -, hpath⟩ := Relation.TransGen.tail'_iff.mp hcircle
  exact h ⟨b, Relation.TransGen.mono (fun _ _ => And.left) _ _ hcircle, hpath⟩

theorem getD_set (l : List Nat) {i : Nat} (hi : i < l.length) (x v : Nat) :
    (l.set i x).getD v 0 = if i = v then x else l.getD v 0 := by
  simp only [List.getD_eq_getElem?_getD, List.getElem?_set]
  by_cases hv : i = v
  · simp [hv, hv ▸ hi]
  · simp [hv]

namespace Sorting
variable {n : Nat} {a : Adjacency} {s : Sorting} {pending : List Nat}

/-! ## What the sort keeps to -/

structure Sound (n : Nat) (a : Adjacency) (pending : List Nat) (s : Sorting) : Prop where
  length : s.missing.length = n
  /-- A node misses its producers that are not placed, and those that are but have not been counted off. -/
  missing : ∀ v, s.missing.getD v 0 =
    (a.edges.countP fun e => e.2 == v && !s.order.contains e.1) + pending.count v
  settled : ∀ v, v ∈ s.order ++ s.ready ↔ v < n ∧ s.missing.getD v 0 = 0
  nodup : (s.order ++ s.ready).Nodup
  forward : ∀ e ∈ a.edges, e.2 ∈ s.order → e.1 ∈ s.order ∧ s.order.idxOf e.1 < s.order.idxOf e.2

theorem sound_start (ha : a.Agrees n) : (start n a).Sound n a [] := by
  obtain ⟨hlength, hcount⟩ := ha.inDegrees
  refine ⟨hlength, fun v => ?_, fun v => ?_, ?_, fun _ _ he => nomatch he⟩
  · simpa [start] using hcount v
  · simp [start]
  · exact List.nodup_range.filter _

theorem settled_release (s : Sorting) (w : Nat) : (s.release w).order ++ (s.release w).ready =
    s.order ++ s.ready ++ if s.missing.getD w 0 - 1 = 0 then [w] else [] := by
  simp only [release]
  split <;> simp

/-- A node that is still pending misses a producer at least. -/
theorem Sound.lt_of_pending {w : Nat} (h : s.Sound n a (w :: pending)) :
    w < s.missing.length ∧ 0 < s.missing.getD w 0 := by
  have hmissing := h.missing w
  rw [List.count_cons_self] at hmissing
  refine ⟨?_, by omega⟩
  by_contra hge
  rw [List.getD_eq_default _ _ (Nat.le_of_not_lt hge)] at hmissing
  omega

/-- Counting one producer off. The node becomes ready if it was the last one. -/
theorem Sound.release {w : Nat} (h : s.Sound n a (w :: pending)) : (s.release w).Sound n a pending := by
  have hmissing := h.missing w
  rw [List.count_cons_self] at hmissing
  obtain ⟨hw, hpos⟩ := h.lt_of_pending
  have hunsettled : w ∉ s.order ++ s.ready := by
    rw [h.settled]
    omega
  have hleft (v : Nat) : (s.release w).missing.getD v 0 =
      if w = v then s.missing.getD w 0 - 1 else s.missing.getD v 0 := getD_set _ hw _ v
  refine ⟨?_, fun v => ?_, fun v => ?_, ?_, h.forward⟩
  · rw [Sorting.release, List.length_set, h.length]
  · rw [hleft]
    by_cases hv : w = v
    · subst hv
      rw [if_pos rfl, hmissing]
      rfl
    · rw [if_neg hv, h.missing, List.count_cons_of_ne hv]
      rfl
  · rw [settled_release, List.mem_append, List.mem_ite_nil_right, List.mem_singleton, h.settled, hleft]
    rw [h.length] at hw
    by_cases hv : w = v
    · subst hv
      rw [if_pos rfl]
      omega
    · rw [if_neg hv]
      omega
  · rw [settled_release]
    split
    · exact h.nodup.append (List.nodup_singleton w) (List.disjoint_singleton.mpr hunsettled)
    · rw [List.append_nil]
      exact h.nodup

theorem Sound.releases (h : s.Sound n a pending) : (pending.foldl Sorting.release s).Sound n a [] := by
  induction pending generalizing s with
  | nil => exact h
  | cons w rest ih => exact ih h.release

theorem order_releases (s : Sorting) (pending : List Nat) : (pending.foldl Sorting.release s).order = s.order := by
  induction pending generalizing s with
  | nil => rfl
  | cons w rest ih => exact ih (s.release w)

/-- All producers of a ready node are placed. -/
theorem Sound.placed_of_ready (h : s.Sound n a []) {e : Edge} (he : e ∈ a.edges) (hready : e.2 ∈ s.ready) :
    e.1 ∈ s.order := by
  have hzero := ((h.settled e.2).mp (List.mem_append_right _ hready)).2
  rw [h.missing, List.count_nil, Nat.add_zero, List.countP_eq_zero] at hzero
  simpa using hzero e he

/-- Among the links into `w` from what is not placed, those out of `v` are counted apart. -/
theorem countP_unplaced (edges : List Edge) {order : List Nat} {v : Nat} (hv : v ∉ order) (w : Nat) :
    (edges.countP fun e => e.2 == w && !order.contains e.1) =
      (edges.countP fun e => e.2 == w && !(order ++ [v]).contains e.1) +
        edges.countP fun e => e.2 == w && e.1 == v := by
  rw [Nat.add_comm, List.countP_eq_countP_filter_add edges _ fun e => e.1 == v, List.countP_filter,
    List.countP_filter]
  congr 1 <;> refine List.countP_congr fun e _ => ?_
  · by_cases hev : e.1 = v <;> simp [hev, hv]
  · by_cases hev : e.1 = v <;> simp [hev]

/-- Once a node is placed, those that it feeds are still to be told. -/
theorem Sound.place (ha : a.Agrees n) (h : s.Sound n a []) {v : Nat} {rest : List Nat} (hready : s.ready = v :: rest) :
    Sound n a (a.targetsOf v) { s with ready := rest, order := s.order ++ [v] } := by
  have hsettled := h.settled
  have hnodup := h.nodup
  rw [hready, List.append_cons] at hsettled hnodup
  obtain ⟨hplaced, -, -⟩ := List.nodup_append.mp hnodup
  obtain ⟨-, -, hdisjoint⟩ := List.nodup_append.mp hplaced
  have hv : v ∉ s.order := fun hmem => hdisjoint v hmem v (List.mem_singleton_self v) rfl
  refine ⟨h.length, fun w => ?_, hsettled, hnodup, fun e he hmem => ?_⟩
  · rw [h.missing, List.count_nil, Nat.add_zero, ha.count_targetsOf]
    exact countP_unplaced a.edges hv w
  · rcases List.mem_append.mp hmem with hmem | hlast
    · obtain ⟨hproducer, hlt⟩ := h.forward e he hmem
      refine ⟨List.mem_append_left _ hproducer, ?_⟩
      rwa [List.idxOf_append_of_mem hproducer, List.idxOf_append_of_mem hmem]
    · have hev : e.2 = v := List.mem_singleton.mp hlast
      have hproducer : e.1 ∈ s.order := h.placed_of_ready he (by simp [hev, hready])
      refine ⟨List.mem_append_left _ hproducer, ?_⟩
      rw [hev, List.idxOf_append_of_mem hproducer, List.idxOf_append_of_notMem hv]
      exact Nat.lt_add_right _ (List.idxOf_lt_length_of_mem hproducer)

theorem Sound.step (ha : a.Agrees n) (h : s.Sound n a []) : (s.step a).Sound n a [] := by
  unfold Sorting.step
  split
  · exact h
  · rename_i v rest hready
    exact (h.place ha hready).releases

theorem Sound.run (ha : a.Agrees n) (h : s.Sound n a []) (fuel : Nat) : (run a fuel s).Sound n a [] := by
  induction fuel generalizing s with
  | zero => exact h
  | succ fuel ih => exact ih (h.step ha)

/-! ## The end of the sort -/

theorem Sound.length_le (h : s.Sound n a pending) : s.order.length + s.ready.length ≤ n := by
  have hsub : s.order ++ s.ready ⊆ List.range n := fun v hv => List.mem_range.mpr ((h.settled v).mp hv).1
  simpa using (List.subperm_of_subset h.nodup hsub).length_le

theorem order_step {v : Nat} {rest : List Nat} (hready : s.ready = v :: rest) :
    (s.step a).order = s.order ++ [v] := by
  rw [step, hready]
  exact order_releases _ _

theorem run_of_ready_eq_nil (hready : s.ready = []) (fuel : Nat) : run a fuel s = s := by
  induction fuel with
  | zero => rfl
  | succ fuel ih => rwa [run, step, hready]

theorem Sound.ready_run (ha : a.Agrees n) {fuel : Nat} (h : s.Sound n a []) (hfuel : n ≤ s.order.length + fuel) :
    (Sorting.run a fuel s).ready = [] := by
  induction fuel generalizing s with
  | zero =>
    have hle := h.length_le
    exact List.eq_nil_of_length_eq_zero (by rw [Sorting.run]; omega)
  | succ fuel ih =>
    cases hready : s.ready with
    | nil => rw [run_of_ready_eq_nil hready, hready]
    | cons v rest =>
      refine ih (h.step ha) ?_
      rw [order_step hready, List.length_append, List.length_singleton]
      omega

end Sorting

/-! ## What is placed -/

section TopologicalOrder
variable {n : Nat} {a : Adjacency}

/-- A node is placed if all its producers are. -/
theorem mem_topologicalOrder_iff (ha : a.Agrees n) {v : Nat} :
    v ∈ topologicalOrder n a ↔ v < n ∧ ∀ e ∈ a.edges, e.2 = v → e.1 ∈ topologicalOrder n a := by
  have hsound := (Sorting.sound_start ha).run ha n
  have hready := (Sorting.sound_start ha).ready_run ha (Nat.le_add_left n _)
  have hsettled := hsound.settled v
  rw [hready, List.append_nil, hsound.missing, List.count_nil, Nat.add_zero, List.countP_eq_zero] at hsettled
  rw [topologicalOrder, hsettled]
  simp

theorem nodup_topologicalOrder (ha : a.Agrees n) : (topologicalOrder n a).Nodup :=
  (List.nodup_append.mp ((Sorting.sound_start ha).run ha n).nodup).1

theorem topologicalOrder_forward (ha : a.Agrees n) {e : Edge} (he : e ∈ a.edges) (hmem : e.2 ∈ topologicalOrder n a) :
    (topologicalOrder n a).idxOf e.1 < (topologicalOrder n a).idxOf e.2 :=
  (((Sorting.sound_start ha).run ha n).forward e he hmem).2

theorem exists_unplaced_producer (ha : a.Agrees n) {v : Nat} (hv : v < n) (hout : v ∉ topologicalOrder n a) :
    ∃ u, u < n ∧ (u, v) ∈ a.edges ∧ u ∉ topologicalOrder n a := by
  by_contra hnone
  refine hout ((mem_topologicalOrder_iff ha).mpr ⟨hv, fun e he hev => ?_⟩)
  by_contra hproducer
  exact hnone ⟨e.1, (Edge.within_iff.mp (ha.within e he)).1, hev ▸ he, hproducer⟩

theorem perm_of_complete (ha : a.Agrees n) (hcomplete : n ≤ (topologicalOrder n a).length) :
    (topologicalOrder n a).Perm (List.range n) := by
  have hsub : topologicalOrder n a ⊆ List.range n := fun v hv =>
    List.mem_range.mpr ((mem_topologicalOrder_iff ha).mp hv).1
  exact (List.subperm_of_subset (nodup_topologicalOrder ha) hsub).perm_of_length_le (by rwa [List.length_range])

/-- Along a path to a node that is placed the places rise. -/
theorem idxOf_lt_of_path (ha : a.Agrees n) {v w : Nat} (h : Relation.TransGen (fun v w => (v, w) ∈ a.edges) v w)
    (hw : w ∈ topologicalOrder n a) : v ∈ topologicalOrder n a ∧
      (topologicalOrder n a).idxOf v < (topologicalOrder n a).idxOf w := by
  have hproducer {u w : Nat} (hedge : (u, w) ∈ a.edges) (hw : w ∈ topologicalOrder n a) : u ∈ topologicalOrder n a :=
    ((mem_topologicalOrder_iff ha).mp hw).2 _ hedge rfl
  induction h with
  | single hedge => exact ⟨hproducer hedge hw, topologicalOrder_forward ha hedge hw⟩
  | tail _ hedge ih =>
    obtain ⟨hv, hlt⟩ := ih (hproducer hedge hw)
    exact ⟨hv, Nat.lt_trans hlt (topologicalOrder_forward ha hedge hw)⟩

/-- Among finitely many nodes without a circle there is a first one in any selection. -/
theorem wellFounded_of_acyclic {r : Nat → Nat → Prop} (h : Acyclic r) (n : Nat) :
    WellFounded fun v w : Fin n => Relation.TransGen r v w := by
  have : IsTrans (Fin n) fun v w => Relation.TransGen r v w := ⟨fun _ _ _ => Relation.TransGen.trans⟩
  have : Std.Irrefl fun v w : Fin n => Relation.TransGen r v w := ⟨fun v => h v⟩
  exact Finite.wellFounded_of_trans_of_irrefl _

/-- What is left out is encircled: it lies on a circle, or a path from one leads to it. -/
theorem not_mem_topologicalOrder_iff (ha : a.Agrees n) {v : Nat} (hv : v < n) :
    v ∉ topologicalOrder n a ↔ Encircled (fun v w => (v, w) ∈ a.edges) v := by
  constructor
  · intro hout
    by_contra hfree
    -- Among the nodes that are left out and lead to this one a first one would be fed by an earlier one.
    obtain ⟨first, ⟨hfirst, hpath⟩, hleast⟩ := (wellFounded_of_acyclic (acyclic_towards hfree) n).has_min
      {u | u.val ∉ topologicalOrder n a ∧ Relation.ReflTransGen (fun v w => (v, w) ∈ a.edges) u.val v}
      ⟨⟨v, hv⟩, hout, .refl⟩
    obtain ⟨u, hu, hedge, hproducer⟩ := exists_unplaced_producer ha first.isLt hfirst
    exact hleast ⟨u, hu⟩ ⟨hproducer, hpath.head hedge⟩ (.single ⟨hedge, hpath⟩)
  · rintro ⟨u, hcircle, hpath⟩ hmem
    have hu : u ∈ topologicalOrder n a := by
      rcases Relation.reflTransGen_iff_eq_or_transGen.mp hpath with rfl | hpath
      · exact hmem
      · exact (idxOf_lt_of_path ha hpath hmem).1
    exact Nat.lt_irrefl _ (idxOf_lt_of_path ha hcircle hu).2

theorem complete_iff_acyclic (ha : a.Agrees n) :
    n ≤ (topologicalOrder n a).length ↔ Acyclic fun v w => (v, w) ∈ a.edges := by
  constructor
  · intro hcomplete v hcircle
    obtain ⟨w, hedge, -⟩ := Relation.TransGen.head'_iff.mp hcircle
    have hv : v < n := (Edge.within_iff.mp (ha.within _ hedge)).1
    have hmem := (perm_of_complete ha hcomplete).mem_iff.mpr (List.mem_range.mpr hv)
    exact (not_mem_topologicalOrder_iff ha hv).mpr ⟨v, hcircle, .refl⟩ hmem
  · intro hacyclic
    have hall : List.range n ⊆ topologicalOrder n a := by
      intro v hv
      by_contra hout
      have hencircled := (not_mem_topologicalOrder_iff ha (List.mem_range.mp hv)).mp hout
      exact acyclic_iff_forall_not_encircled.mp hacyclic v hencircled
    simpa using (List.subperm_of_subset List.nodup_range hall).length_le

end TopologicalOrder

/-! ## Plans -/

/-- One node feeds another, both of them among the first `n`. -/
def Feeds (n : Nat) (links : List Edge) (v w : Nat) : Prop :=
  (v, w) ∈ links ∧ v < n ∧ w < n

instance (n : Nat) (links : List Edge) (v w : Nat) : Decidable (Feeds n links v w) :=
  inferInstanceAs (Decidable (_ ∧ _ ∧ _))

theorem edges_ofLinks_eq_feeds (n : Nat) (links : List Edge) :
    (fun v w => (v, w) ∈ (Adjacency.ofLinks n links).edges) = Feeds n links := by
  funext v w
  exact propext Adjacency.mem_edges_ofLinks

theorem complete_ofLinks_iff {n : Nat} {links : List Edge} :
    n ≤ (topologicalOrder n (Adjacency.ofLinks n links)).length ↔ Acyclic (Feeds n links) := by
  rw [complete_iff_acyclic (Adjacency.agrees_ofLinks n links), edges_ofLinks_eq_feeds]

namespace Plan

/-- Both nodes have a place, and the first one comes before the second one. -/
def Precedes (plan : Plan) (v w : Nat) : Prop :=
  ∃ i j, plan.position? v = some i ∧ plan.position? w = some j ∧ i < j

theorem position?_of_mem {plan : Plan} {v : Nat} (h : v ∈ plan.order) :
    plan.position? v = some (plan.order.idxOf v) := by
  obtain ⟨i, hi⟩ := Option.isSome_iff_exists.mp (List.isSome_idxOf?.mpr h)
  rw [position?, List.idxOf_eq_getD_idxOf?, hi]
  rfl

theorem compile_eq_ok_iff {names : List String} {links : List Edge} {plan : Plan} :
    compile names links = .ok plan ↔
      Acyclic (Feeds names.length links) ∧
        plan = ofOrder names.length links (links.filter (Edge.within names.length)).eraseDups
          (topologicalOrder names.length (Adjacency.ofLinks names.length links)) := by
  rw [← complete_ofLinks_iff, ← Adjacency.edges_ofLinks]
  simp only [compile]
  split
  · rename_i hshort
    constructor
    · intro h
      cases h
    · rintro ⟨hfull, -⟩
      exact absurd hshort (Nat.not_lt.mpr hfull)
  · rename_i hfull
    constructor
    · intro h
      exact ⟨Nat.le_of_not_lt hfull, (Except.ok.inj h).symm⟩
    · rintro ⟨-, rfl⟩
      rfl

theorem exists_compile_iff {names : List String} {links : List Edge} :
    (∃ plan, compile names links = .ok plan) ↔ Acyclic (Feeds names.length links) := by
  simp [compile_eq_ok_iff]

theorem order_perm_of_compile {names : List String} {links : List Edge} {plan : Plan}
    (h : compile names links = .ok plan) : plan.order.Perm (List.range names.length) := by
  have ha := Adjacency.agrees_ofLinks names.length links
  simp only [compile] at h
  split at h
  · cases h
  · cases h
    exact perm_of_complete ha (by omega)

theorem precedes_of_compile {names : List String} {links : List Edge} {plan : Plan}
    (h : compile names links = .ok plan) {v w : Nat} (hfeeds : Feeds names.length links v w) :
    plan.Precedes v w := by
  have ha := Adjacency.agrees_ofLinks names.length links
  have hmem {u : Nat} (hu : u < names.length) : u ∈ plan.order :=
    (order_perm_of_compile h).mem_iff.mpr (List.mem_range.mpr hu)
  have hv := hmem hfeeds.2.1
  have hw := hmem hfeeds.2.2
  refine ⟨_, _, position?_of_mem hv, position?_of_mem hw, ?_⟩
  obtain ⟨-, rfl⟩ := compile_eq_ok_iff.mp h
  exact topologicalOrder_forward ha (Adjacency.mem_edges_ofLinks.mpr hfeeds) hw

end Plan
end FrameGraph
