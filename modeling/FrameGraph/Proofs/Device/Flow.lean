import FrameGraph.Proofs.Device.Courses
import Mathlib.Data.List.Induction

/-!
# What flows through a queue of a device

* `Device.put`, `Device.got`: what one party has put into a queue in a course, and what it has got out of it.
* `Device.taken_subset_put`: what comes out of a queue has been put into it, whatever becomes of the queue.
* `Device.Steady`: a queue that blocks throughout a course, does not shrink and is not closed.
* `Device.Steady.conserved`: what has been put into such a queue has been taken out, or it is there.
-/

namespace FrameGraph
set_option autoImplicit false

/-- Who makes a move. All but the threads count as the host. -/
inductive Party where
  | host
  | thread (index : Nat)
deriving DecidableEq

def Move.party : Move → Party
  | .thread index => .thread index
  | _ => .host

/-! ## Calls of the host -/

def Call.sends {α : Type} : Call α → Bool
  | .send _ | .trySend _ => true
  | _ => false

def Call.receives {α : Type} : Call α → Bool
  | .get | .getTimeout | .tryGet | .tryGetAll => true
  | _ => false

theorem Call.taken_of_not_sends {α : Type} {call : Call α} (h : call.sends = false) (reply : Reply α) :
    call.taken reply = [] := by
  cases call with
  | send | trySend => cases h
  | _ => rfl

theorem Queue.given_of_not_receives {α : Type} (q : Queue α) {call : Call α} (h : call.receives = false) :
    (q.perform call).1.given = [] := by
  cases call with
  | send item => rcases hoffer : q.offer item with ⟨_ | _, next⟩ <;> simp [perform, hoffer, Reply.given]
  | get | getTimeout | tryGet | tryGetAll => cases h
  | trySend | resize | setBlocking | close => rfl

/-- The host does not send into a queue. -/
def Unsent (id : QueueId) (moves : List Move) : Prop :=
  ∀ call, Move.call id call ∈ moves → call.sends = false

def Unread (id : QueueId) (moves : List Move) : Prop :=
  ∀ call, Move.call id call ∈ moves → call.receives = false

def Move.calls (id : QueueId) (p : Call Message → Bool) : Move → Bool
  | .call queue asked => queue == id && p asked
  | _ => false

theorem forall_call_iff {id : QueueId} {p : Call Message → Bool} {moves : List Move} :
    (∀ m ∈ moves, m.calls id p = false) ↔ ∀ call, Move.call id call ∈ moves → p call = false := by
  refine ⟨fun h call hcall => by simpa [Move.calls] using h _ hcall, fun h m hm => ?_⟩
  cases m with
  | call queue call =>
    by_cases hid : queue = id
    · rw [Move.calls, h call (hid ▸ hm), Bool.and_false]
    · rw [Move.calls, beq_false_of_ne hid, Bool.false_and]
  | _ => rfl

instance (id : QueueId) (moves : List Move) : Decidable (Unsent id moves) :=
  decidable_of_iff _ (forall_call_iff (p := Call.sends))

instance (id : QueueId) (moves : List Move) : Decidable (Unread id moves) :=
  decidable_of_iff _ (forall_call_iff (p := Call.receives))

namespace Device
variable {d : Device} {moves : List Move} {id : QueueId} {party : Party}

theorem puts_of_not_sends (d : Device) {m : Move} (hparty : m.party = .host)
    (h : ∀ call, m = .call id call → call.sends = false) : d.puts id m = [] := by
  cases m with
  | thread => cases hparty
  | call queue call =>
    rw [puts]
    split
    · rename_i hid
      exact Call.taken_of_not_sends (h call (by rw [hid])) _
    · rfl
  | teardown | listen | elapse => rfl

theorem takes_of_not_receives (d : Device) {m : Move} (hparty : m.party = .host)
    (h : ∀ call, m = .call id call → call.receives = false) : d.takes id m = [] := by
  cases m with
  | thread => cases hparty
  | call queue call =>
    rw [takes]
    split
    · rename_i hid
      rw [Device.call]
      cases hq : d.store.get? queue with
      | none =>
        rw [QueueStore.modify_of_absent hq]
        rfl
      | some q =>
        rw [QueueStore.modify_of_get? hq]
        exact q.given_of_not_receives (h call (by rw [hid]))
    · rfl
  | teardown | listen | elapse => rfl

/-! ## Parties -/

/-- What a party has put into a queue. -/
def put (d : Device) (party : Party) (id : QueueId) (moves : List Move) : List Message :=
  along (fun d m => if m.party = party then d.puts id m else []) d moves

def got (d : Device) (party : Party) (id : QueueId) (moves : List Move) : List Message :=
  along (fun d m => if m.party = party then d.takes id m else []) d moves

theorem got_concat (d : Device) (party : Party) (id : QueueId) (moves : List Move) (m : Move) :
    d.got party id (moves ++ [m]) =
      d.got party id moves ++ if m.party = party then (d.course moves).takes id m else [] :=
  along_concat ..

theorem mem_along {α : Type} {note : Device → Move → List α} {a : α} :
    a ∈ along note d moves ↔ ∃ before m, before ++ [m] <+: moves ∧ a ∈ note (d.course before) m := by
  refine ⟨fun ha => ?_, fun ⟨before, m, hpre, ha⟩ => ?_⟩
  · induction moves using List.reverseRecOn with
    | nil => cases ha
    | append_singleton before m ih =>
      rw [along_concat] at ha
      rcases List.mem_append.mp ha with ha | ha
      · obtain ⟨first, mid, hpre, ha⟩ := ih ha
        exact ⟨first, mid, hpre.trans (List.prefix_append before [m]), ha⟩
      · exact ⟨before, m, List.prefix_rfl, ha⟩
  · obtain ⟨later, rfl⟩ := hpre
    rw [along_append, along_concat]
    exact List.mem_append_left _ (List.mem_append_right _ ha)

theorem along_eq_nil {α : Type} {note : Device → Move → List α}
    (h : ∀ before m, before ++ [m] <+: moves → note (d.course before) m = []) : along note d moves = [] := by
  refine List.eq_nil_iff_forall_not_mem.mpr fun a ha => ?_
  obtain ⟨before, m, hpre, ha⟩ := mem_along.mp ha
  rw [h before m hpre] at ha
  cases ha

theorem put_of_unsent (hsent : Unsent id moves) : d.put .host id moves = [] :=
  along_eq_nil fun before m hpre => by
    have hm : m ∈ moves := hpre.subset (List.mem_append_right _ List.mem_cons_self)
    split
    · rename_i hparty
      exact puts_of_not_sends _ hparty fun call hcall => hsent call (hcall ▸ hm)
    · rfl

theorem got_of_unread (hread : Unread id moves) : d.got .host id moves = [] :=
  along_eq_nil fun before m hpre => by
    have hm : m ∈ moves := hpre.subset (List.mem_append_right _ List.mem_cons_self)
    split
    · rename_i hparty
      exact takes_of_not_receives _ hparty fun call hcall => hread call (hcall ▸ hm)
    · rfl

def buffered (d : Device) (id : QueueId) : List Message :=
  ((d.store.get? id).map Queue.buffer).getD []

theorem along_congr {α : Type} {note other : Device → Move → List α}
    (h : ∀ before m, before ++ [m] <+: moves → note (d.course before) m = other (d.course before) m) :
    along note d moves = along other d moves := by
  induction moves using List.reverseRecOn with
  | nil => rfl
  | append_singleton before m ih =>
    rw [along_concat, along_concat, h before m List.prefix_rfl]
    exact congrArg (· ++ _) (ih fun first mid hpre => h first mid (hpre.trans (List.prefix_append before [m])))

/-- What is put into a queue is put there by someone. -/
theorem exists_put {m : Message} (h : m ∈ along (fun d m => d.puts id m) d moves) : ∃ party, m ∈ d.put party id moves := by
  obtain ⟨before, move, hpre, hm⟩ := mem_along.mp h
  exact ⟨move.party, mem_along.mpr ⟨before, move, hpre, by rwa [if_pos rfl]⟩⟩

theorem got_subset (d : Device) (party : Party) (id : QueueId) (moves : List Move) :
    d.got party id moves ⊆ along (fun d m => d.takes id m) d moves := by
  intro m hm
  obtain ⟨before, move, hpre, hm⟩ := mem_along.mp hm
  split at hm
  · exact mem_along.mpr ⟨before, move, hpre, hm⟩
  · cases hm

/-- Where only one party puts anything into a queue. -/
theorem put_of_sole (h : ∀ before m, before ++ [m] <+: moves → m.party ≠ party → (d.course before).puts id m = []) :
    along (fun d m => d.puts id m) d moves = d.put party id moves :=
  along_congr fun before m hpre => by
    by_cases hparty : m.party = party
    · rw [if_pos hparty]
    · rw [if_neg hparty, h before m hpre hparty]

theorem got_of_sole (h : ∀ before m, before ++ [m] <+: moves → m.party ≠ party → (d.course before).takes id m = []) :
    along (fun d m => d.takes id m) d moves = d.got party id moves :=
  along_congr fun before m hpre => by
    by_cases hparty : m.party = party
    · rw [if_pos hparty]
    · rw [if_neg hparty, h before m hpre hparty]

theorem put_of_thread {index : Nat} (hhost : Unsent id moves)
    (hthreads : ∀ before other, (d.course before).puts id (.thread other) ≠ [] → other = index) :
    along (fun d m => d.puts id m) d moves = d.put (.thread index) id moves := by
  refine put_of_sole fun before m hpre hparty => ?_
  have hm : m ∈ moves := hpre.subset (List.mem_append_right _ List.mem_cons_self)
  cases m with
  | thread other =>
    by_cases hputs : (d.course before).puts id (.thread other) = []
    · exact hputs
    · exact absurd (congrArg Party.thread (hthreads before other hputs)) hparty
  | _ => exact puts_of_not_sends _ rfl fun call hcall => hhost call (hcall ▸ hm)

theorem got_of_thread {index : Nat} (hhost : Unread id moves)
    (hthreads : ∀ before other, (d.course before).takes id (.thread other) ≠ [] → other = index) :
    along (fun d m => d.takes id m) d moves = d.got (.thread index) id moves := by
  refine got_of_sole fun before m hpre hparty => ?_
  have hm : m ∈ moves := hpre.subset (List.mem_append_right _ List.mem_cons_self)
  cases m with
  | thread other =>
    by_cases htakes : (d.course before).takes id (.thread other) = []
    · exact htakes
    · exact absurd (congrArg Party.thread (hthreads before other htakes)) hparty
  | _ => exact takes_of_not_receives _ rfl fun call hcall => hhost call (hcall ▸ hm)

theorem put_of_host (hthreads : ∀ before other, before ++ [.thread other] <+: moves →
    (d.course before).puts id (.thread other) = []) : along (fun d m => d.puts id m) d moves = d.put .host id moves :=
  put_of_sole fun before m hpre hparty => by
    cases m with
    | thread other => exact hthreads before other hpre
    | _ => exact absurd rfl hparty

theorem got_of_host (hthreads : ∀ before other, (d.course before).takes id (.thread other) = []) :
    along (fun d m => d.takes id m) d moves = d.got .host id moves :=
  got_of_sole fun before m _ hparty => by
    cases m with
    | thread other => exact hthreads before other
    | _ => exact absurd rfl hparty

/-! ## What comes out of a queue -/

end Device

theorem Queue.Change.subset {α : Type} {q next : Queue α} {taken given : List α} (h : q.Change taken given next) :
    given ++ next.buffer ⊆ q.buffer ++ taken := by
  cases h with
  | nothing | switches => exact List.subset_append_left _ _
  | takesIn => exact List.Subset.refl _
  | takesInDropping item =>
    change q.buffer.tail ++ [item] ⊆ q.buffer ++ [item]
    have htail : q.buffer.tail ⊆ q.buffer ++ [item] :=
      List.Subset.trans (List.tail_sublist q.buffer).subset (List.subset_append_left _ _)
    exact List.append_subset.mpr ⟨htail, List.subset_append_right _ _⟩
  | givesOne item rest _ hbuffer => simp [hbuffer]
  | givesAll => exact List.Subset.refl _
  | resizes => simpa using List.drop_subset _ _
  | closes => exact List.nil_subset _

namespace Device
variable {d : Device} {id : QueueId}

/-- What has come out of a queue that was new, or is in it, has been put into it. -/
theorem taken_subset_put (hnew : ∃ name capacity blocking, d.store.get? id = some (.make name capacity blocking))
    (moves : List Move) : along (fun d m => d.takes id m) d moves ⊆ along (fun d m => d.puts id m) d moves := by
  have hall : ∃ q, (d.course moves).store.get? id = some q ∧
      along (fun d m => d.takes id m) d moves ++ q.buffer ⊆ along (fun d m => d.puts id m) d moves := by
    induction moves using List.reverseRecOn with
    | nil =>
      obtain ⟨name, capacity, blocking, hq⟩ := hnew
      exact ⟨_, hq, List.Subset.refl _⟩
    | append_singleton before m ih =>
      obtain ⟨q, hq, hsub⟩ := ih
      obtain ⟨next, hnext, hchange⟩ := (d.course before).move_change m hq
      refine ⟨next, by rw [course_concat, hnext], ?_⟩
      rw [along_concat, along_concat, List.append_assoc]
      obtain ⟨htaken, hbuffer⟩ := List.append_subset.mp hsub
      refine List.append_subset.mpr ⟨fun a ha => List.mem_append_left _ (htaken ha), fun a ha => ?_⟩
      exact (List.mem_append.mp (hchange.subset ha)).elim (fun h => List.mem_append_left _ (hbuffer h))
        (List.mem_append_right _)
  obtain ⟨q, -, hsub⟩ := hall
  exact (List.append_subset.mp hsub).1

end Device

/-! ## Steady queues -/

/-- A queue that blocks, stays open and does not shrink loses nothing. -/
theorem Queue.Change.kept {α : Type} {q next : Queue α} {taken given : List α} (h : q.Change taken given next)
    (hblocking : q.blocking = true) (hopen : next.closed = false) (hbound : q.buffer.length ≤ q.capacity)
    (hgrow : q.capacity ≤ next.capacity) : q.buffer ++ taken = given ++ next.buffer := by
  cases h with
  | nothing | switches => exact List.append_nil _
  | takesIn | givesAll => rfl
  | takesInDropping _ _ _ hdrops =>
    rw [hblocking] at hdrops
    cases hdrops
  | givesOne item rest _ hbuffer => rw [hbuffer, List.append_nil, List.singleton_append]
  | resizes capacity =>
    have hnone : q.buffer.length - capacity = 0 := Nat.sub_eq_zero_of_le (Nat.le_trans hbound hgrow)
    simp only [hnone, List.drop_zero, List.append_nil, List.nil_append]
  | closes => cases hopen

namespace Device
variable {d : Device} {moves before : List Move} {id : QueueId}

/-- In a course a queue blocks throughout, does not shrink and is not closed. -/
structure Steady (d : Device) (moves : List Move) (id : QueueId) : Prop where
  stays : ∀ before, before <+: moves → ∃ q, (d.course before).store.get? id = some q ∧ q.closed = false ∧ q.blocking = true
  grows : ∀ before m, before ++ [m] <+: moves → ∀ q next, (d.course before).store.get? id = some q →
    (d.course (before ++ [m])).store.get? id = some next → q.capacity ≤ next.capacity

theorem Steady.of_prefix (h : d.Steady moves id) (hpre : before <+: moves) : d.Steady before id where
  stays first hfirst := h.stays first (hfirst.trans hpre)
  grows first m hfirst := h.grows first m (hfirst.trans hpre)

theorem Steady.isOpen (h : d.Steady moves id) (hpre : before <+: moves) {q : Queue Message}
    (hq : (d.course before).store.get? id = some q) : q.closed = false := by
  obtain ⟨other, hother, hopen, -⟩ := h.stays before hpre
  obtain rfl : q = other := Option.some.inj (hq.symm.trans hother)
  exact hopen

/-- Whether some queues are open, block and have a given capacity. -/
def fixed (ids : List QueueId) (capacity : Nat) (d : Device) : Bool :=
  ids.all fun id => (d.store.get? id).map (fun q => (q.closed, q.blocking, q.capacity)) == some (false, true, capacity)

theorem Steady.of_fixed {ids : List QueueId} {capacity : Nat} (h : throughout (fixed ids capacity) d moves = true)
    (hid : id ∈ ids) : d.Steady moves id := by
  have hqueue {before : List Move} (hpre : before <+: moves) : ∃ q, (d.course before).store.get? id = some q ∧
      q.closed = false ∧ q.blocking = true ∧ q.capacity = capacity := by
    have hfields := beq_iff_eq.mp (List.all_eq_true.mp (of_throughout h hpre) id hid)
    obtain ⟨q, hq, hfields⟩ := Option.map_eq_some_iff.mp hfields
    simp only [Prod.mk.injEq] at hfields
    exact ⟨q, hq, hfields⟩
  refine ⟨fun before hpre => ?_, fun before m hpre q next hq hnext => ?_⟩
  · obtain ⟨q, hq, hopen, hblocking, -⟩ := hqueue hpre
    exact ⟨q, hq, hopen, hblocking⟩
  · obtain ⟨same, hsame, -, -, hbefore⟩ := hqueue ((List.prefix_append before [m]).trans hpre)
    obtain ⟨last, hlast, -, -, hafter⟩ := hqueue hpre
    obtain rfl := Option.some.inj (hq.symm.trans hsame)
    obtain rfl := Option.some.inj (hnext.symm.trans hlast)
    exact Nat.le_of_eq (hbefore.trans hafter.symm)

/-- What has been put into a steady queue that was new has been taken out, in this order, or it is still there. -/
theorem Steady.conserved (h : d.Steady moves id)
    (hnew : ∃ name capacity blocking, d.store.get? id = some (.make name capacity blocking)) :
    along (fun d m => d.takes id m) d moves ++ (d.course moves).buffered id = along (fun d m => d.puts id m) d moves := by
  have hall : ∃ q, (d.course moves).store.get? id = some q ∧ 1 ≤ q.capacity ∧ q.buffer.length ≤ q.capacity ∧
      along (fun d m => d.takes id m) d moves ++ q.buffer = along (fun d m => d.puts id m) d moves := by
    -- The bound goes along, because a queue that is not full can take in more without dropping anything.
    induction moves using List.reverseRecOn with
    | nil =>
      obtain ⟨name, capacity, blocking, hq⟩ := hnew
      exact ⟨_, hq, Nat.le_max_right _ _, Nat.zero_le _, rfl⟩
    | append_singleton before m ih =>
      have hpre := List.prefix_append before [m]
      obtain ⟨q, hq, hpos, hbound, hbooks⟩ := ih (h.of_prefix hpre)
      obtain ⟨next, hnext, hchange⟩ := (d.course before).move_change m hq
      rw [← course_concat] at hnext
      obtain ⟨hpos', hbound'⟩ := hchange.bounded hpos hbound
      obtain ⟨same, hsame, -, hblocking⟩ := h.stays before hpre
      obtain rfl : q = same := Option.some.inj (hq.symm.trans hsame)
      have hkept := hchange.kept hblocking (h.isOpen List.prefix_rfl hnext) hbound
        (h.grows before m List.prefix_rfl q next hq hnext)
      refine ⟨next, hnext, hpos', hbound', ?_⟩
      rw [along_concat, along_concat, ← hbooks, List.append_assoc, List.append_assoc, hkept]
  obtain ⟨q, hq, -, -, hbooks⟩ := hall
  rw [buffered, hq, Option.map_some, Option.getD_some, hbooks]

end Device

end FrameGraph
