import FrameGraph.Proofs.Graph.Lifetime

/-!
# The links of a graph

What is checked when a link is made holds for as long as the link exists, whatever happens to the graph.

* `Graph.Fits`: a link between an output and an input that accepts it.
* `Graph.WellLinked`: every link fits, no two are the same, and inputs have as many as they may.
* `Graph.Numbered`: links carry ascending numbers below the next one. This holds while the counter of links
  does not come round.
* `Graph.links_stay_valid`: all of it after any course of occurrences.
-/

namespace FrameGraph
set_option autoImplicit false

theorem Port.Requeued.acceptsFrom {input output p q : Port} (hinput : input.Requeued p) (houtput : output.Requeued q) :
    p.acceptsFrom q = input.acceptsFrom output := by
  obtain ⟨_, _, rfl⟩ := hinput
  obtain ⟨_, _, rfl⟩ := houtput
  rfl

namespace Graph

/-! ## Links that fit -/

def Fits (g : Graph) (l : Link) : Prop :=
  ∃ output input, g.descriptor l.source = .ok output ∧ output.direction = .output ∧
    g.descriptor l.target = .ok input ∧ input.direction = .input ∧ input.acceptsFrom output = true

theorem Onward.descriptor {g next : Graph} (h : g.Onward next) {id : PortId} {port : Port}
    (hport : g.descriptor id = .ok port) : ∃ q, next.descriptor id = .ok q ∧ port.Requeued q := by
  obtain ⟨n, hn, hport⟩ := descriptor_eq_ok_iff.mp hport
  obtain ⟨m, hm, honward⟩ := h _ n hn
  obtain ⟨q, hq, hsame⟩ := honward.ports hport
  exact ⟨q, descriptor_eq_ok_iff.mpr ⟨m, hm, hq⟩, hsame⟩

theorem Fits.onward {g next : Graph} {l : Link} (h : g.Fits l) (honward : g.Onward next) : next.Fits l := by
  obtain ⟨output, input, hsource, houtput, htarget, hinput, haccepts⟩ := h
  obtain ⟨p, hp, hsource⟩ := honward.descriptor hsource
  obtain ⟨q, hq, htarget⟩ := honward.descriptor htarget
  refine ⟨p, q, hp, ?_, hq, ?_, (htarget.acceptsFrom hsource).trans haccepts⟩
  · obtain ⟨_, _, rfl⟩ := hsource
    exact houtput
  · obtain ⟨_, _, rfl⟩ := htarget
    exact hinput

structure WellLinked (g : Graph) : Prop where
  fits : ∀ l ∈ g.links, g.Fits l
  distinct : (g.links.map fun l => (l.source, l.target)).Nodup
  /-- Only links into an input for several share their target. -/
  single : g.links.Pairwise fun l m => l.target = m.target →
    ∀ input, g.descriptor m.target = .ok input → input.fanIn = true

/-- Fewer links than before are as good as they were. -/
theorem WellLinked.sublist {g next : Graph} (h : g.WellLinked) (honward : g.Onward next)
    (hlinks : next.links.Sublist g.links) : next.WellLinked where
  fits l hl := (h.fits l (hlinks.subset hl)).onward honward
  distinct := h.distinct.sublist (hlinks.map _)
  single := by
    refine (h.single.sublist hlinks).imp_of_mem fun {l m} _ hm hsingle hsame input hinput => ?_
    obtain ⟨_, old, -, -, htarget, -⟩ := h.fits m (hlinks.subset hm)
    obtain ⟨p, hp, hold⟩ := honward.descriptor htarget
    obtain rfl : p = input := Except.ok.inj (hp.symm.trans hinput)
    have hfan := hsingle hsame old htarget
    obtain ⟨_, _, rfl⟩ := hold
    exact hfan

theorem WellLinked.sourcesOf_length {g : Graph} (h : g.WellLinked) {id : PortId} {input : Port}
    (hinput : g.descriptor id = .ok input) (hsingle : input.fanIn = false) : (g.sourcesOf id).length ≤ 1 := by
  have hinto : ∀ l ∈ g.links.filter (fun l => l.target == id), l.target = id := by
    intro l hl
    simpa using (List.mem_filter.mp hl).2
  have hpair := h.single.sublist (List.filter_sublist (p := fun l => l.target == id))
  rw [sourcesOf, List.length_map]
  match hlinks : g.links.filter (fun l => l.target == id) with
  | [] | [_] => simp [hlinks]
  | l :: m :: rest =>
    rw [hlinks] at hinto hpair
    obtain rfl : l.target = id := hinto l (by simp)
    have hsame : m.target = l.target := hinto m (by simp)
    have hfan := List.rel_of_pairwise_cons hpair (List.mem_cons_self (a := m)) hsame.symm input (by rwa [hsame])
    rw [hsingle] at hfan
    cases hfan

/-! ## What happens to the links -/

/-- A link is added with the next number, or none is. -/
theorem Change.links {g next : Graph} (h : g.Change next) :
    next.links.Sublist g.links ∧ next.nextLink = g.nextLink ∨
    ∃ source target, next.links = g.links ++ [⟨⟨g.nextLink.toNat⟩, source, target⟩] ∧
      next.nextLink = g.nextLink + 1 := by
  cases h with
  | insert | revise | build => exact .inl ⟨List.Sublist.refl _, rfl⟩
  | unlink => exact .inl ⟨List.filter_sublist, rfl⟩
  | link source target => exact .inr ⟨source, target, rfl, rfl⟩

theorem Change.wellLinked {g next : Graph} (h : g.Change next) (hg : g.WellLinked) : next.WellLinked := by
  have honward := h.onward
  cases h with
  | insert | revise | build => exact hg.sublist honward (List.Sublist.refl _)
  | unlink => exact hg.sublist honward List.filter_sublist
  | link source target producer consumer output input hsource htarget houtput hinput haccepts hnew hfree =>
    obtain ⟨hproducer, -, hsource⟩ := eq_ok_of_linkEnd hsource
    obtain ⟨hconsumer, -, htarget⟩ := eq_ok_of_linkEnd htarget
    have hsource := descriptor_eq_ok_iff.mpr ⟨producer, hproducer, hsource⟩
    have htarget := descriptor_eq_ok_iff.mpr ⟨consumer, hconsumer, htarget⟩
    refine ⟨fun l hl => ?_, ?_, ?_⟩
    · rcases List.mem_append.mp hl with hl | hl
      · exact (hg.fits l hl).onward honward
      · rw [List.mem_singleton.mp hl]
        exact ⟨output, input, hsource, houtput, htarget, hinput, haccepts⟩
    · rw [List.map_append, List.nodup_append]
      refine ⟨hg.distinct, List.pairwise_singleton _ _, fun a ha b hb => ?_⟩
      obtain ⟨l, hl, rfl⟩ := List.mem_map.mp ha
      rw [List.mem_singleton.mp hb]
      intro hsame
      obtain ⟨hs, ht⟩ := Prod.mk.inj hsame
      exact hnew l hl hs ht
    · refine List.pairwise_append.mpr ⟨hg.single, List.pairwise_singleton _ _, fun l hl m hm hsame port hport => ?_⟩
      rw [List.mem_singleton.mp hm] at hsame hport
      obtain rfl : input = port := Except.ok.inj (htarget.symm.trans hport)
      cases hfan : input.fanIn with
      | true => rfl
      | false => exact absurd hsame (hfree hfan l hl)

end Graph

theorem Occurrence.links_of_device {occurrence : Occurrence} (h : occurrence.isCall = false) (g : Graph) :
    (occurrence.apply g).links = g.links ∧ (occurrence.apply g).nextLink = g.nextLink := by
  cases occurrence with
  | operation | adjust => cases h
  | takeBody id =>
    simp only [Occurrence.apply, Graph.takeBody]
    split <;> exact ⟨rfl, rfl⟩
  | advanceState id state =>
    simp only [Occurrence.apply, Graph.advanceState]
    split <;> exact ⟨rfl, rfl⟩

theorem Occurrence.links (occurrence : Occurrence) (g : Graph) :
    (occurrence.apply g).links.Sublist g.links ∧ (occurrence.apply g).nextLink = g.nextLink ∨
    ∃ source target, (occurrence.apply g).links = g.links ++ [⟨⟨g.nextLink.toNat⟩, source, target⟩] ∧
      (occurrence.apply g).nextLink = g.nextLink + 1 := by
  cases hcall : occurrence.isCall with
  | true =>
    rcases occurrence.kept hcall g with hsame | hchange
    · rw [hsame]
      exact .inl ⟨List.Sublist.refl _, rfl⟩
    · exact hchange.links
  | false =>
    obtain ⟨hlinks, hnext⟩ := occurrence.links_of_device hcall g
    exact .inl ⟨hlinks ▸ List.Sublist.refl _, hnext⟩

theorem Occurrence.wellLinked (occurrence : Occurrence) {g : Graph} (hg : g.WellLinked) :
    (occurrence.apply g).WellLinked := by
  cases hcall : occurrence.isCall with
  | true =>
    rcases occurrence.kept hcall g with hsame | hchange
    · rw [hsame]
      exact hg
    · exact hchange.wellLinked hg
  | false =>
    obtain ⟨hlinks, -⟩ := occurrence.links_of_device hcall g
    exact hg.sublist (occurrence.onward g) (hlinks ▸ List.Sublist.refl _)

namespace Graph

theorem WellLinked.after {g : Graph} (hg : g.WellLinked) (course : List Occurrence) : (g.after course).WellLinked := by
  induction course generalizing g with
  | nil => exact hg
  | cons occurrence rest ih => exact ih (occurrence.wellLinked hg)

theorem wellLinked_empty : ({} : Graph).WellLinked where
  fits _ hl := nomatch hl
  distinct := List.nodup_nil
  single := List.Pairwise.nil

/-! ## Numbers of links -/

/-- How many links an occurrence makes: one, or none. -/
def created (g : Graph) (occurrence : Occurrence) : Nat :=
  (occurrence.apply g).links.length - g.links.length

def linksCreated (g : Graph) : List Occurrence → Nat
  | [] => 0
  | occurrence :: rest => g.created occurrence + (occurrence.apply g).linksCreated rest

theorem after_append (g : Graph) (a b : List Occurrence) : g.after (a ++ b) = (g.after a).after b :=
  List.foldl_append

theorem linksCreated_append (g : Graph) (a b : List Occurrence) :
    g.linksCreated (a ++ b) = g.linksCreated a + (g.after a).linksCreated b := by
  induction a generalizing g with
  | nil => exact (Nat.zero_add _).symm
  | cons occurrence rest ih =>
    simp only [List.cons_append, linksCreated, ih]
    exact (Nat.add_assoc _ _ _).symm

/-- The links of a graph in which `k` links have been made so far. -/
structure Numbered (g : Graph) (k : Nat) : Prop where
  ascending : (g.links.map fun l => l.id.index).Pairwise (· < ·)
  below : ∀ l ∈ g.links, l.id.index < k
  next : g.nextLink.toNat = k

theorem numbered_empty : ({} : Graph).Numbered 0 where
  ascending := List.Pairwise.nil
  below _ hl := nomatch hl
  next := rfl

/-- A number that no link has any more, and that none will get. -/
def Retired (g : Graph) (id : LinkId) : Prop :=
  id.index < g.nextLink.toNat ∧ ∀ l ∈ g.links, l.id ≠ id

theorem toNat_succ {next : UInt32} (h : next.toNat + 1 < UInt32.size) : (next + 1).toNat = next.toNat + 1 := by
  rw [UInt32.toNat_add]
  exact Nat.mod_eq_of_lt h

theorem Numbered.step {g : Graph} {k : Nat} (h : g.Numbered k) {occurrence : Occurrence}
    (hfew : k + g.created occurrence < UInt32.size) :
    (occurrence.apply g).Numbered (k + g.created occurrence) := by
  rcases occurrence.links g with ⟨hlinks, hnext⟩ | ⟨source, target, hlinks, hnext⟩
  · have hnone : g.created occurrence = 0 := Nat.sub_eq_zero_of_le hlinks.length_le
    rw [hnone]
    exact ⟨h.ascending.sublist (hlinks.map _), fun l hl => h.below l (hlinks.subset hl), hnext ▸ h.next⟩
  · have hone : g.created occurrence = 1 := by simp [created, hlinks]
    rw [hone] at hfew ⊢
    refine ⟨?_, fun l hl => ?_, ?_⟩
    · rw [hlinks, List.map_append, List.pairwise_append]
      refine ⟨h.ascending, List.pairwise_singleton _ _, fun a ha b hb => ?_⟩
      obtain ⟨l, hl, rfl⟩ := List.mem_map.mp ha
      rw [List.mem_singleton.mp hb]
      exact h.next.symm ▸ h.below l hl
    · rw [hlinks] at hl
      rcases List.mem_append.mp hl with hl | hl
      · exact Nat.lt_succ_of_lt (h.below l hl)
      · rw [List.mem_singleton.mp hl]
        exact Nat.lt_succ_of_le (Nat.le_of_eq h.next)
    · rw [hnext, toNat_succ (by rw [h.next]; exact hfew), h.next]

theorem Numbered.after {g : Graph} {k : Nat} (h : g.Numbered k) (course : List Occurrence)
    (hfew : k + g.linksCreated course < UInt32.size) : (g.after course).Numbered (k + g.linksCreated course) := by
  induction course generalizing g k with
  | nil => exact h
  | cons occurrence rest ih =>
    rw [linksCreated, ← Nat.add_assoc] at hfew ⊢
    exact ih (h.step (by omega)) hfew

theorem Retired.step {g : Graph} {id : LinkId} (h : g.Retired id) {k : Nat} (hg : g.Numbered k)
    {occurrence : Occurrence} (hfew : k + g.created occurrence < UInt32.size) : (occurrence.apply g).Retired id := by
  obtain ⟨hbelow, hgone⟩ := h
  refine ⟨?_, fun l hl => ?_⟩
  · rw [(hg.step hfew).next]
    rw [hg.next] at hbelow
    omega
  · rcases occurrence.links g with ⟨hlinks, -⟩ | ⟨source, target, hlinks, -⟩
    · exact hgone l (hlinks.subset hl)
    · rw [hlinks] at hl
      rcases List.mem_append.mp hl with hl | hl
      · exact hgone l hl
      · rw [List.mem_singleton.mp hl]
        rintro rfl
        exact Nat.lt_irrefl _ hbelow

theorem Retired.after {g : Graph} {id : LinkId} (h : g.Retired id) {k : Nat} (hg : g.Numbered k)
    (course : List Occurrence) (hfew : k + g.linksCreated course < UInt32.size) : (g.after course).Retired id := by
  induction course generalizing g k with
  | nil => exact h
  | cons occurrence rest ih =>
    rw [linksCreated, ← Nat.add_assoc] at hfew
    exact ih (h.step hg (by omega)) (hg.step (by omega)) hfew

theorem retired_of_unlink {g : Graph} {k : Nat} (hg : g.Numbered k) {id : LinkId} (h : (g.unlink id).1 = .ok true)
    (hfew : k + g.created (.operation (.unlink id)) < UInt32.size) :
    (Occurrence.apply g (.operation (.unlink id))).Retired id := by
  have hafter : Occurrence.apply g (.operation (.unlink id)) = (g.unlink id).2 := by
    simp [Occurrence.apply, Operation.apply]
  rcases (g.unlink_outcome id).of_ok h with ⟨hfalse, -⟩ | ⟨-, hlinks, ⟨l, hl, rfl⟩, -⟩
  · cases hfalse
  · refine ⟨?_, fun m hm => ?_⟩
    · rw [(hg.step hfew).next]
      exact Nat.lt_add_right _ (hg.below l hl)
    · rw [hafter, hlinks] at hm
      simpa using (List.mem_filter.mp hm).2

theorem Retired.not_answered {g : Graph} {id : LinkId} (h : g.Retired id) (source target : PortId) :
    (g.link source target).1 ≠ .ok id := by
  intro hok
  rcases (g.link_outcome source target).of_ok hok with ⟨-, l, hl, hid⟩ | ⟨rfl, -⟩
  · exact h.2 l hl hid
  · exact Nat.lt_irrefl _ h.1

/-- After any course of occurrences in which the counter of links does not come round, every link leads from
an output to an input that accepts it, no two links have the same ends, an input that is not for several has
one link at most, and the numbers of the links ascend and stay below the next one. The number of a link that
was removed is not answered for another one. -/
theorem links_stay_valid (course : List Occurrence) (hfew : ({} : Graph).linksCreated course < UInt32.size) :
    let g := ({} : Graph).after course
    (∀ l ∈ g.links, ∃ output input, g.descriptor l.source = .ok output ∧ output.direction = .output ∧
      g.descriptor l.target = .ok input ∧ input.direction = .input ∧ input.acceptsFrom output = true) ∧
    (g.links.map fun l => (l.source, l.target)).Nodup ∧
    (∀ id input, g.descriptor id = .ok input → input.fanIn = false → (g.sourcesOf id).length ≤ 1) ∧
    (g.links.map fun l => l.id.index).Pairwise (· < ·) ∧ (∀ l ∈ g.links, l.id.index < g.nextLink.toNat) ∧
    ∀ (before between rest : List Occurrence) (id : LinkId) (source target : PortId),
      course = before ++ .operation (.unlink id) :: (between ++ .operation (.link source target) :: rest) →
      ((({} : Graph).after before).unlink id).1 = .ok true →
      ((({} : Graph).after (before ++ .operation (.unlink id) :: between)).link source target).1 ≠ .ok id := by
  intro g
  have hlinked : g.WellLinked := wellLinked_empty.after course
  have hnumbered := numbered_empty.after course (by rwa [Nat.zero_add])
  refine ⟨hlinked.fits, hlinked.distinct, fun id input => hlinked.sourcesOf_length, hnumbered.ascending,
    fun l hl => hnumbered.next.symm ▸ hnumbered.below l hl, ?_⟩
  rintro before between rest id source target rfl hremoved
  simp only [linksCreated_append, linksCreated] at hfew
  have hbefore := numbered_empty.after before (by omega)
  have hretired := retired_of_unlink hbefore hremoved (by omega)
  have hlater := hretired.after (hbefore.step (by omega)) between (by omega)
  rw [after_append]
  exact hlater.not_answered source target

/-- An input is given to another output, and the link that it had before is gone for good. -/
theorem links_stay_valid_relinked :
    let before : List Occurrence := [
      .operation (.addPlugin "a" { typeName := "Tap", ports := [
        { name := "x", direction := .output, types := [.any] },
        { name := "y", direction := .output, types := [.any] }] }),
      .operation (.addPlugin "b" { typeName := "Sink", ports := [
        { name := "p", direction := .input, types := [.any] },
        { name := "q", direction := .input, types := [.any], fanIn := true }] }),
      .operation (.link ⟨0, 0⟩ ⟨1, 0⟩), .operation (.link ⟨0, 0⟩ ⟨1, 1⟩), .operation (.link ⟨0, 1⟩ ⟨1, 1⟩)]
    let between : List Occurrence := [.operation (.link ⟨0, 0⟩ ⟨1, 1⟩)]
    let course := before ++ .operation (.unlink ⟨0⟩) :: (between ++ .operation (.link ⟨0, 1⟩ ⟨1, 0⟩) :: [])
    ({} : Graph).linksCreated course = 4 ∧ (({} : Graph).linksCreated course < UInt32.size) ∧
      (({} : Graph).after course).links = [⟨⟨1⟩, ⟨0, 0⟩, ⟨1, 1⟩⟩, ⟨⟨2⟩, ⟨0, 1⟩, ⟨1, 1⟩⟩, ⟨⟨3⟩, ⟨0, 1⟩, ⟨1, 0⟩⟩] ∧
      ((({} : Graph).after course).links.map fun l => (l.source, l.target)).Nodup ∧
      ((({} : Graph).after before).unlink ⟨0⟩).1 = .ok true ∧
      ((({} : Graph).after (before ++ .operation (.unlink ⟨0⟩) :: between)).link ⟨0, 1⟩ ⟨1, 0⟩).1 ≠ .ok ⟨0⟩ := by
  refine ⟨by rfl, by decide +kernel, by rfl, (links_stay_valid _ (by decide +kernel)).2.1, by rfl,
    (links_stay_valid _ (by decide +kernel)).2.2.2.2.2 _ _ [] ⟨0⟩ ⟨0, 1⟩ ⟨1, 0⟩ rfl (by rfl)⟩

end Graph
end FrameGraph
