import FrameGraph.Queue

/-!
# Stores of queues

Several parties share their queues by number: a queue is known by its place in a store. A place where no
queue stands is never ready, and changing it changes nothing.

* `QueueStore.modify`: one call on one queue; all others stay as they are.
* `QueueStore.Altered`: several queues have changed, all in the same way.
* `QueueStore.offer`, `take`, `tryTake`, `drain` and so on: the calls of a queue.
-/

namespace FrameGraph
set_option autoImplicit false

abbrev QueueId := Nat

structure QueueStore (α : Type) where
  queues : List (Queue α) := []
deriving DecidableEq

namespace QueueStore
variable {α β : Type}

def get? (s : QueueStore α) (id : QueueId) : Option (Queue α) :=
  s.queues[id]?

def size (s : QueueStore α) : Nat :=
  s.queues.length

/-- One call on a queue, or `absent` if there is none. -/
def modify (s : QueueStore α) (id : QueueId) (absent : β) (call : Queue α → β × Queue α) :
    β × QueueStore α :=
  match s.queues[id]? with
  | none => (absent, s)
  | some q =>
    let (reply, q) := call q
    (reply, { queues := s.queues.set id q })

@[simp] theorem size_modify (s : QueueStore α) (id : QueueId) (absent : β)
    (call : Queue α → β × Queue α) : (s.modify id absent call).2.size = s.size := by
  unfold modify size
  split <;> simp

theorem get?_modify_of_ne (s : QueueStore α) {id other : QueueId} (h : id ≠ other) (absent : β)
    (call : Queue α → β × Queue α) : (s.modify id absent call).2.get? other = s.get? other := by
  unfold modify get?
  split <;> simp [h]

theorem modify_of_absent {s : QueueStore α} {id : QueueId} (h : s.get? id = none) (absent : β)
    (call : Queue α → β × Queue α) : s.modify id absent call = (absent, s) := by
  simp only [modify, show s.queues[id]? = none from h]

theorem modify_of_get? {s : QueueStore α} {id : QueueId} {q : Queue α} (h : s.get? id = some q)
    (absent : β) (call : Queue α → β × Queue α) :
    s.modify id absent call = ((call q).1, { queues := s.queues.set id (call q).2 }) := by
  simp only [modify, show s.queues[id]? = some q from h]

/-- The store with another queue at a place, seen from any place. -/
theorem get?_set {s : QueueStore α} {id : QueueId} {q : Queue α} (h : s.get? id = some q)
    (next : Queue α) (other : QueueId) :
    get? { queues := s.queues.set id next } other = if other = id then some next else s.get? other := by
  obtain ⟨hi, -⟩ := List.getElem?_eq_some_iff.mp h
  unfold get?
  by_cases hother : other = id
  · rw [if_pos hother, hother, List.getElem?_set_self hi]
  · rw [if_neg hother, List.getElem?_set_ne (Ne.symm hother)]

theorem set_self {s : QueueStore α} {id : QueueId} {q : Queue α} (h : s.get? id = some q) :
    ({ queues := s.queues.set id q } : QueueStore α) = s := by
  obtain ⟨hi, rfl⟩ := List.getElem?_eq_some_iff.mp h
  rw [List.set_getElem_self]

theorem ext {s t : QueueStore α} (h : ∀ id, s.get? id = t.get? id) : s = t := by
  cases s
  cases t
  exact congrArg mk (List.ext_getElem? h)

/-! ## One change at several places -/

/-- The queues at some places have changed in the same way, and all others are as they were. -/
def Altered (s : QueueStore α) (change : Queue α → Queue α) (ids : List QueueId) (t : QueueStore α) : Prop :=
  ∀ id, t.get? id = if id ∈ ids then (s.get? id).map change else s.get? id

section
variable {s t u : QueueStore α} {change : Queue α → Queue α} {a b : List QueueId}

theorem Altered.refl (s : QueueStore α) (change : Queue α → Queue α) : s.Altered change [] s :=
  fun id => by simp

/-- Changing twice has to be the same as changing once, since a place may be named more than once. -/
theorem Altered.trans (hchange : ∀ q, change (change q) = change q) (h : s.Altered change a t)
    (h' : t.Altered change b u) : s.Altered change (a ++ b) u := by
  intro id
  rw [h' id, h id]
  by_cases ha : id ∈ a <;> by_cases hb : id ∈ b <;> simp only [ha, hb, List.mem_append, or_true, true_or, or_self,
    if_true, if_false, Option.map_map, Function.comp_def, hchange]

theorem Altered.eq_self_iff (h : s.Altered change a t) :
    t = s ↔ ∀ id ∈ a, ∀ q, s.get? id = some q → change q = q := by
  constructor
  · rintro rfl id hid q hq
    have hsame := h id
    rw [if_pos hid, hq, Option.map_some, Option.some_inj] at hsame
    exact hsame.symm
  · refine fun hkept => ext fun id => ?_
    rw [h id]
    split
    · rename_i hid
      cases hq : s.get? id with
      | none => rfl
      | some q => rw [Option.map_some, hkept id hid q hq]
    · rfl

theorem altered_of_absent {id : QueueId} (h : s.get? id = none) : s.Altered change [id] s :=
  fun other => by by_cases hother : other = id <;> simp [hother, h]

theorem altered_set (change : Queue α → Queue α) {id : QueueId} {q : Queue α} (h : s.get? id = some q) :
    s.Altered change [id] { queues := s.queues.set id (change q) } :=
  fun other => by rw [get?_set h]; by_cases hother : other = id <;> simp [hother, h]

end

/-! ## Calls -/

def offer (s : QueueStore α) (id : QueueId) (item : α) : Attempt Unit × QueueStore α :=
  s.modify id .wait fun q => q.offer item

def take (s : QueueStore α) (id : QueueId) : Attempt α × QueueStore α :=
  s.modify id .wait Queue.take

def trySend (s : QueueStore α) (id : QueueId) (item : α) :
    Except RuntimeError Bool × QueueStore α :=
  s.modify id (.ok false) fun q => q.trySend item

def tryTake (s : QueueStore α) (id : QueueId) : Except RuntimeError (Option α) × QueueStore α :=
  s.modify id (.ok none) Queue.tryTake

def drain (s : QueueStore α) (id : QueueId) : Except RuntimeError (List α) × QueueStore α :=
  s.modify id (.ok []) Queue.drain

def resize (s : QueueStore α) (id : QueueId) (capacity : Nat) :
    Except RuntimeError Unit × QueueStore α :=
  s.modify id (.ok ()) fun q => q.resize capacity

def setBlocking (s : QueueStore α) (id : QueueId) (blocking : Bool) : QueueStore α :=
  (s.modify id () fun q => ((), q.setBlocking blocking)).2

def close (s : QueueStore α) (id : QueueId) : QueueStore α :=
  (s.modify id () fun q => ((), q.close)).2

/-! ## Adding queues -/

/-- A new queue goes to the next free place. -/
def insert (s : QueueStore α) (q : Queue α) : QueueId × QueueStore α :=
  (s.queues.length, { queues := s.queues ++ [q] })

end QueueStore

end FrameGraph
