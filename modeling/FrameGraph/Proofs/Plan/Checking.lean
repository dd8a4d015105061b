import FrameGraph.Proofs.Plan.Sorting

/-!
# The sort under check

The sort looks up nodes by their numbers and counts down, and it goes on for as long as nodes become ready. Here is the
same sort once more with nothing taken for granted: it fails where there is nothing at a number, where a count would go
below zero, and where it takes more turns than there are nodes.

* `topologicalOrder?`: the sort with its checks.
* `Sorting.Sound.release?`, `Sorting.Sound.step?`, `Sorting.Sound.run?`: none of the checks fails.
* `Sorting.Sound.missing_eq`: what the counts are at the beginning of every turn.
* `sorting_checked`: the two sorts agree, for all links.
-/

namespace FrameGraph
set_option autoImplicit false

/-! ## Checks -/

/-- Counts a producer of a node, which has to have a count. -/
def Adjacency.count? (degrees : List Nat) (v : Nat) : Option (List Nat) :=
  if v < degrees.length then some (degrees.modify v fun d => d + 1) else none

def Adjacency.inDegrees? (n : Nat) (a : Adjacency) : Option (List Nat) :=
  a.targets.flatten.foldlM count? (List.replicate n 0)

namespace Sorting

/-- The nodes among the given ones that miss nothing. All of them have to have a count. -/
def settled? (missing : List Nat) : List Nat → Option (List Nat)
  | [] => some []
  | v :: rest => do
    let d ← missing[v]?
    let others ← settled? missing rest
    return if d = 0 then v :: others else others

def start? (n : Nat) (a : Adjacency) : Option Sorting := do
  let missing ← a.inDegrees? n
  let ready ← settled? missing (List.range n)
  return { missing, ready, order := [] }

/-- The count of the node has to be there, and above zero. -/
def release? (s : Sorting) (v : Nat) : Option Sorting :=
  match s.missing[v]? with
  | some (left + 1) => some { s with
      missing := s.missing.set v left
      ready := if left = 0 then s.ready ++ [v] else s.ready }
  | _ => none

def step? (a : Adjacency) (s : Sorting) : Option Sorting :=
  match s.ready with
  | [] => some s
  | v :: rest => do
    let targets ← a.targets[v]?
    targets.foldlM release? { s with ready := rest, order := s.order ++ [v] }

/-- After this many turns no node may be ready. -/
def run? (a : Adjacency) : Nat → Sorting → Option Sorting
  | 0, s => if s.ready = [] then some s else none
  | turns + 1, s => (s.step? a).bind (run? a turns)

end Sorting

def topologicalOrder? (n : Nat) (a : Adjacency) : Option (List Nat) := do
  let s ← Sorting.start? n a
  let s ← Sorting.run? a n s
  return s.order

/-! ## No check fails -/

section
variable {n : Nat} {a : Adjacency} {s : Sorting} {pending : List Nat}

theorem getElem?_eq_getD {α : Type} {l : List α} {v : Nat} (hv : v < l.length) (d : α) : l[v]? = some (l.getD v d) := by
  rw [List.getElem?_eq_getElem hv, List.getD_eq_getElem _ _ hv]

theorem Adjacency.foldlM_count? {nodes degrees : List Nat} (hnodes : ∀ v ∈ nodes, v < degrees.length) :
    nodes.foldlM count? degrees = some (nodes.foldl (fun degrees v => degrees.modify v fun d => d + 1) degrees) := by
  induction nodes generalizing degrees with
  | nil => rfl
  | cons v rest ih =>
    obtain ⟨hv, hrest⟩ := List.forall_mem_cons.mp hnodes
    rw [List.foldlM_cons, count?, if_pos hv]
    exact ih (by simpa using hrest)

theorem Adjacency.Agrees.inDegrees? (ha : a.Agrees n) : a.inDegrees? n = some (a.inDegrees n) :=
  foldlM_count? fun v hv => by simpa using ha.lt_of_mem_flatten hv

namespace Sorting

theorem settled?_eq {missing nodes : List Nat} (hnodes : ∀ v ∈ nodes, v < missing.length) :
    settled? missing nodes = some (nodes.filter fun v => missing.getD v 0 == 0) := by
  induction nodes with
  | nil => rfl
  | cons v rest ih =>
    obtain ⟨hv, hrest⟩ := List.forall_mem_cons.mp hnodes
    rw [settled?, getElem?_eq_getD hv 0, ih hrest, List.filter_cons]
    generalize missing.getD v 0 = d
    cases d <;> rfl

theorem start?_eq (ha : a.Agrees n) : start? n a = some (start n a) := by
  have hready : settled? (a.inDegrees n) (List.range n) = some (start n a).ready :=
    settled?_eq fun v hv => by rw [ha.inDegrees.1]; exact List.mem_range.mp hv
  simp [start?, ha.inDegrees?, hready, start]

theorem Sound.release? {w : Nat} (h : s.Sound n a (w :: pending)) : s.release? w = some (s.release w) := by
  obtain ⟨hw, hpos⟩ := h.lt_of_pending
  obtain ⟨left, hleft⟩ := Nat.exists_eq_succ_of_ne_zero (Nat.pos_iff_ne_zero.mp hpos)
  rw [Sorting.release?, getElem?_eq_getD hw 0, Sorting.release, hleft]
  rfl

theorem Sound.releases? (h : s.Sound n a pending) :
    pending.foldlM Sorting.release? s = some (pending.foldl Sorting.release s) := by
  induction pending generalizing s with
  | nil => rfl
  | cons w rest ih =>
    rw [List.foldlM_cons, h.release?]
    exact ih h.release

theorem Sound.step? (ha : a.Agrees n) (h : s.Sound n a []) : s.step? a = some (s.step a) := by
  cases hready : s.ready with
  | nil => simp only [Sorting.step?, Sorting.step, hready]
  | cons v rest =>
    have hv : v < a.targets.length := by
      rw [ha.length]
      exact ((h.settled v).mp (by simp [hready])).1
    simp only [Sorting.step?, Sorting.step, hready, getElem?_eq_getD hv []]
    exact (h.place ha hready).releases?

theorem Sound.run? (ha : a.Agrees n) {turns : Nat} (h : s.Sound n a [])
    (hready : (Sorting.run a turns s).ready = []) : Sorting.run? a turns s = some (Sorting.run a turns s) := by
  induction turns generalizing s with
  | zero => exact if_pos hready
  | succ turns ih =>
    rw [Sorting.run?, h.step? ha]
    exact ih (h.step ha) hready

/-- Each producer of a node has one link to it. -/
theorem countP_producers {edges : List Edge} (hnodup : edges.Nodup) (hwithin : ∀ e ∈ edges, e.1 < n) (order : List Nat)
    (v : Nat) : (edges.countP fun e => e.2 == v && !order.contains e.1) =
      (List.range n).countP fun u => (u, v) ∈ edges ∧ u ∉ order := by
  rw [List.countP_eq_length_filter, List.countP_eq_length_filter, ← List.length_map (f := Prod.fst)]
  refine List.Perm.length_eq ((List.perm_ext_iff_of_nodup ?_ (List.nodup_range.filter _)).mpr fun u => ?_)
  · refine (hnodup.filter _).map_on fun e he f hf hsame => Prod.ext hsame ?_
    simp only [List.mem_filter, Bool.and_eq_true, beq_iff_eq] at he hf
    rw [he.2.1, hf.2.1]
  · simp only [List.mem_map, List.mem_filter, List.mem_range]
    constructor
    · rintro ⟨e, ⟨he, hunplaced⟩, rfl⟩
      obtain ⟨rfl, hout⟩ : e.2 = v ∧ e.1 ∉ order := by simpa using hunplaced
      exact ⟨hwithin e he, by simp [he, hout]⟩
    · rintro ⟨-, hunplaced⟩
      obtain ⟨he, hout⟩ : (u, v) ∈ edges ∧ u ∉ order := by simpa using hunplaced
      exact ⟨(u, v), ⟨he, by simp [hout]⟩, rfl⟩

theorem Sound.missing_eq {links : List Edge} (h : s.Sound n (.ofLinks n links) []) :
    s.missing = (List.range n).map fun v => (List.range n).countP fun u => Feeds n links u v ∧ u ∉ s.order := by
  have hwithin : ∀ e ∈ (Adjacency.ofLinks n links).edges, e.1 < n := fun e he => (Adjacency.mem_edges_ofLinks.mp he).2.1
  refine List.ext_getElem (by simp [h.length]) fun v hv _ => ?_
  rw [← List.getD_eq_getElem _ 0 hv, h.missing, List.count_nil, Nat.add_zero,
    countP_producers (Adjacency.nodup_edges_ofLinks n links) hwithin, List.getElem_map, List.getElem_range]
  simp only [Adjacency.mem_edges_ofLinks]
  rfl

theorem settled_releases (s : Sorting) (pending : List Nat) :
    s.order ++ s.ready <+: (pending.foldl release s).order ++ (pending.foldl release s).ready := by
  induction pending generalizing s with
  | nil => exact List.prefix_rfl
  | cons w rest ih =>
    refine List.IsPrefix.trans ?_ (ih (s.release w))
    rw [settled_release]
    exact List.prefix_append _ _

theorem settled_step (a : Adjacency) (s : Sorting) :
    s.order ++ s.ready <+: (s.step a).order ++ (s.step a).ready := by
  cases hready : s.ready with
  | nil => simp only [step, hready, List.prefix_rfl]
  | cons v rest =>
    have hplaced : s.order ++ v :: rest = s.order ++ [v] ++ rest := List.append_cons _ _ _
    simp only [step, hready]
    rw [hplaced]
    exact settled_releases { s with ready := rest, order := s.order ++ [v] } _

end Sorting

/-- None of the checks in the sort fails, for any links, and it has ended when each node has had its turn. At the
beginning of each turn a node is counted to miss exactly the nodes that feed it and are not placed yet. Nodes become
ready one after the other, none of them twice, and they are placed in this order. -/
theorem sorting_checked (n : Nat) (links : List Edge) :
    let a := Adjacency.ofLinks n links
    topologicalOrder? n a = some (topologicalOrder n a) ∧ (topologicalOrder n a).length ≤ n ∧
    ∀ turns, let s := Sorting.run a turns (Sorting.start n a)
      s.missing = ((List.range n).map fun v => (List.range n).countP fun u => Feeds n links u v ∧ u ∉ s.order) ∧
      (s.order ++ s.ready).Nodup ∧ s.order ++ s.ready ⊆ List.range n ∧
      s.order ++ s.ready <+: (s.step a).order ++ (s.step a).ready := by
  intro a
  have ha : a.Agrees n := Adjacency.agrees_ofLinks n links
  have hstart := Sorting.sound_start ha
  have hready := hstart.ready_run ha (Nat.le_add_left n _)
  refine ⟨?_, ?_, fun turns => ?_⟩
  · simp [topologicalOrder?, Sorting.start?_eq ha, hstart.run? ha hready, topologicalOrder]
  · exact Nat.le_of_add_right_le (hstart.run ha n).length_le
  · intro s
    have hsound : s.Sound n a [] := hstart.run ha turns
    refine ⟨hsound.missing_eq, hsound.nodup, fun v hv => ?_, Sorting.settled_step a s⟩
    exact List.mem_range.mpr ((hsound.settled v).mp hv).1

/-- The second link from 0 to 1 is not counted, so that 1 is not released twice. -/
example : topologicalOrder? 4 (.ofLinks 4 [(0, 1), (0, 1), (3, 3), (1, 2)]) = some [0, 1, 2] := by rfl

/-- Rows that do not come from links may lead to no node, and then there is nothing to count. -/
example : topologicalOrder? 1 { targets := [[1]], edges := [(0, 1)] } = none := by rfl

end

end FrameGraph
