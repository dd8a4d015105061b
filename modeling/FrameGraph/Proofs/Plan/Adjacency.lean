import FrameGraph.Plan
import Mathlib.Data.List.GetD
import Mathlib.Data.List.Induction
import Mathlib.Data.List.Nodup

/-!
# The links of a plan by node

Two readings of the links are kept side by side, one by node and one in a row, and the sort relies on both. They
agree however many links are repeated or name no node.

* `Adjacency.Agrees`: the two readings agree.
* `Adjacency.edges_ofLinks`: the links in a row are the given ones between nodes, without repetitions.
* `Adjacency.inDegrees_getD`: the degrees are counted off the one reading and are right for the other.
-/

namespace FrameGraph
set_option autoImplicit false

/-- Whether a link is between two of `n` nodes. -/
def Edge.within (n : Nat) (e : Edge) : Bool :=
  e.1 < n && e.2 < n

theorem Edge.within_iff {n : Nat} {e : Edge} : Edge.within n e = true ↔ e.1 < n ∧ e.2 < n := by
  simp [Edge.within]

/-! ## Lists -/

theorem eraseDups_append_singleton {α : Type} [BEq α] [LawfulBEq α] (l : List α) (x : α) :
    (l ++ [x]).eraseDups = if x ∈ l then l.eraseDups else l.eraseDups ++ [x] := by
  rw [List.eraseDups_append]
  by_cases hx : x ∈ l <;> simp [hx, List.removeAll, List.eraseDups_cons]

theorem getD_modify {α : Type} (l : List α) (i j : Nat) (f : α → α) (d : α) (hi : i < l.length) :
    (l.modify i f).getD j d = if i = j then f (l.getD j d) else l.getD j d := by
  simp only [List.getD_eq_getElem?_getD, List.getElem?_modify]
  by_cases hij : i = j
  · subst hij
    simp [hi]
  · simp [hij]

theorem flatten_modify_perm {α : Type} {rows : List (List α)} {i : Nat} (hi : i < rows.length) (x : α) :
    (rows.modify i fun row => row ++ [x]).flatten.Perm (rows.flatten ++ [x]) := by
  induction rows generalizing i with
  | nil => cases hi
  | cons row rest ih =>
    cases i with
    | zero =>
      simp only [List.modify_zero_cons, List.flatten_cons, List.append_assoc]
      exact List.perm_append_comm.append_left row
    | succ i =>
      simp only [List.modify_succ_cons, List.flatten_cons, List.append_assoc]
      exact (ih (Nat.lt_of_succ_lt_succ hi)).append_left row

namespace Adjacency
variable {n : Nat} {a : Adjacency}

/-! ## Both readings agree -/

structure Agrees (n : Nat) (a : Adjacency) : Prop where
  length : a.targets.length = n
  within : ∀ e ∈ a.edges, Edge.within n e = true
  targetsOf : ∀ v, a.targetsOf v = (a.edges.filter fun e => e.1 == v).map Prod.snd
  /-- Read off all the nodes one after the other, the links have the same consumers. -/
  consumers : a.targets.flatten.Perm (a.edges.map Prod.snd)

theorem agrees_empty (n : Nat) : (empty n).Agrees n where
  length := List.length_replicate
  within _ he := nomatch he
  targetsOf v := by simp [Adjacency.targetsOf, empty]
  consumers := by simp [empty]

theorem Agrees.mem_targetsOf (h : a.Agrees n) {v w : Nat} : w ∈ a.targetsOf v ↔ (v, w) ∈ a.edges := by
  simp [h.targetsOf]

theorem Agrees.count_targetsOf (h : a.Agrees n) (v w : Nat) :
    (a.targetsOf v).count w = a.edges.countP fun e => e.2 == w && e.1 == v := by
  rw [h.targetsOf, List.count_eq_countP, List.countP_map, List.countP_filter]
  rfl

/-- A link is added if it is between nodes and was not there. -/
theorem Agrees.edges_add (h : a.Agrees n) (e : Edge) :
    (a.add n e).edges = if Edge.within n e = true ∧ e ∉ a.edges then a.edges ++ [e] else a.edges := by
  simp only [add, List.contains_iff_mem, h.mem_targetsOf, Edge.within_iff]
  by_cases hrange : n ≤ e.1 ∨ n ≤ e.2
  · have hout : ¬(e.1 < n ∧ e.2 < n) := by omega
    simp [hrange, hout]
  · have hin : e.1 < n ∧ e.2 < n := by omega
    by_cases hknown : e ∈ a.edges <;> simp [hrange, hin, hknown]

theorem Agrees.add (h : a.Agrees n) (e : Edge) : (a.add n e).Agrees n := by
  unfold Adjacency.add
  split
  · exact h
  split
  · exact h
  rename_i hrange _
  have hin : e.1 < n ∧ e.2 < n := by omega
  have hrow : e.1 < a.targets.length := by rw [h.length]; exact hin.1
  refine ⟨?_, fun f hf => ?_, fun v => ?_, ?_⟩
  · rw [List.length_modify, h.length]
  · rcases List.mem_append.mp hf with hf | hf
    · exact h.within f hf
    · rw [List.mem_singleton.mp hf]
      exact Edge.within_iff.mpr hin
  · have hold : a.targets.getD v [] = (a.edges.filter fun e => e.1 == v).map Prod.snd := h.targetsOf v
    rw [Adjacency.targetsOf, getD_modify _ _ _ _ _ hrow, hold, List.filter_append, List.map_append]
    by_cases hv : e.1 = v <;> simp [hv]
  · refine (flatten_modify_perm hrow e.2).trans ?_
    rw [List.map_append]
    exact h.consumers.append_right [e.2]

theorem ofLinks_concat (n : Nat) (links : List Edge) (e : Edge) :
    ofLinks n (links ++ [e]) = (ofLinks n links).add n e := by
  simp [ofLinks]

theorem agrees_ofLinks (n : Nat) (links : List Edge) : (ofLinks n links).Agrees n := by
  induction links using List.reverseRecOn with
  | nil => exact agrees_empty n
  | append_singleton links e ih =>
    rw [ofLinks_concat]
    exact ih.add e

theorem edges_ofLinks (n : Nat) (links : List Edge) :
    (ofLinks n links).edges = (links.filter (Edge.within n)).eraseDups := by
  induction links using List.reverseRecOn with
  | nil => rfl
  | append_singleton links e ih =>
    have hadd := (agrees_ofLinks n links).edges_add e
    simp only [ih, List.mem_eraseDups] at hadd
    rw [ofLinks_concat, hadd, List.filter_append]
    cases hrange : Edge.within n e with
    | false => simp [hrange]
    | true =>
      rw [List.filter_cons_of_pos hrange, List.filter_nil, eraseDups_append_singleton]
      by_cases hmem : e ∈ links.filter (Edge.within n) <;> simp [hmem]

theorem mem_edges_ofLinks {n : Nat} {links : List Edge} {e : Edge} :
    e ∈ (ofLinks n links).edges ↔ e ∈ links ∧ e.1 < n ∧ e.2 < n := by
  rw [edges_ofLinks, List.mem_eraseDups, List.mem_filter, Edge.within_iff]

theorem nodup_edges_ofLinks (n : Nat) (links : List Edge) : (ofLinks n links).edges.Nodup := by
  induction links using List.reverseRecOn with
  | nil => exact List.nodup_nil
  | append_singleton links e ih =>
    rw [ofLinks_concat, (agrees_ofLinks n links).edges_add]
    split
    · rename_i hnew
      exact ih.append (List.nodup_singleton e) (List.disjoint_singleton.mpr hnew.2)
    · exact ih

/-! ## Degrees -/

theorem count_foldl (nodes degrees : List Nat) (hnodes : ∀ v ∈ nodes, v < degrees.length) :
    let counted := nodes.foldl (fun degrees v => degrees.modify v fun d => d + 1) degrees
    counted.length = degrees.length ∧ ∀ v, counted.getD v 0 = degrees.getD v 0 + nodes.count v := by
  induction nodes generalizing degrees with
  | nil => simp
  | cons w rest ih =>
    obtain ⟨hw, hrest⟩ := List.forall_mem_cons.mp hnodes
    obtain ⟨hlength, hcount⟩ := ih (degrees.modify w fun d => d + 1) (by simpa using hrest)
    refine ⟨by simpa using hlength, fun v => ?_⟩
    rw [List.foldl_cons, hcount, getD_modify _ _ _ _ _ hw, List.count_cons]
    by_cases hv : w = v
    · simp only [hv, if_true, beq_self_eq_true]
      omega
    · simp [hv]

theorem Agrees.lt_of_mem_flatten (h : a.Agrees n) {v : Nat} (hv : v ∈ a.targets.flatten) : v < n := by
  obtain ⟨e, he, rfl⟩ := List.mem_map.mp (h.consumers.mem_iff.mp hv)
  exact (Edge.within_iff.mp (h.within e he)).2

theorem Agrees.inDegrees (h : a.Agrees n) :
    (a.inDegrees n).length = n ∧ ∀ v, (a.inDegrees n).getD v 0 = a.edges.countP fun e => e.2 == v := by
  have hnodes : ∀ v ∈ a.targets.flatten, v < (List.replicate n 0).length := by
    intro v hv
    rw [List.length_replicate]
    exact h.lt_of_mem_flatten hv
  obtain ⟨hlength, hcount⟩ := count_foldl a.targets.flatten (List.replicate n 0) hnodes
  refine ⟨hlength.trans List.length_replicate, fun v => ?_⟩
  calc (a.inDegrees n).getD v 0
      = (List.replicate n 0).getD v 0 + a.targets.flatten.count v := hcount v
    _ = a.targets.flatten.count v := by simp
    _ = (a.edges.map Prod.snd).count v := h.consumers.count_eq v
    _ = a.edges.countP fun e => e.2 == v := by
      rw [List.count_eq_countP, List.countP_map]
      rfl

end Adjacency
end FrameGraph
