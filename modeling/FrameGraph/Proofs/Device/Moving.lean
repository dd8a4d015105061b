import FrameGraph.Device.Life
import FrameGraph.Proofs.Process.Steps

/-!
# What one move of a device can do

* `Device.Turn`: all that a turn of a thread can come to, besides the next phase of the thread.
* `Device.Step`: all that a move can come to. `Device.move_spec` says that there is nothing else.
* `Device.puts`, `Device.takes`: what a move puts into a queue and takes out of it. `Device.move_change` says that
  nothing else happens to the queue.
-/

namespace FrameGraph
set_option autoImplicit false

namespace Device
variable {d next : Device}

/-! ## What the threads share -/

theorem publish_fields (d : Device) (event : DeviceEvent) : ∃ events, d.publish event = { d with events } := by
  unfold publish
  split
  · exact ⟨_, rfl⟩
  · exact ⟨d.events, rfl⟩

@[simp] theorem store_publish (d : Device) (event : DeviceEvent) : (d.publish event).store = d.store := by
  obtain ⟨events, h⟩ := d.publish_fields event
  rw [h]

@[simp] theorem threads_publish (d : Device) (event : DeviceEvent) : (d.publish event).threads = d.threads := by
  obtain ⟨events, h⟩ := d.publish_fields event
  rw [h]

@[simp] theorem running_publish (d : Device) (event : DeviceEvent) : (d.publish event).running = d.running := by
  obtain ⟨events, h⟩ := d.publish_fields event
  rw [h]

@[simp] theorem closing_publish (d : Device) (event : DeviceEvent) : (d.publish event).closing = d.closing := by
  obtain ⟨events, h⟩ := d.publish_fields event
  rw [h]

@[simp] theorem served_publish (d : Device) (event : DeviceEvent) : (d.publish event).served = d.served := by
  obtain ⟨events, h⟩ := d.publish_fields event
  rw [h]

@[simp] theorem graph_publish (d : Device) (event : DeviceEvent) : (d.publish event).graph = d.graph := by
  obtain ⟨events, h⟩ := d.publish_fields event
  rw [h]

@[simp] theorem eventCapacity_publish (d : Device) (event : DeviceEvent) :
    (d.publish event).eventCapacity = d.eventCapacity := by
  obtain ⟨events, h⟩ := d.publish_fields event
  rw [h]

/-! ## Turns -/

/-- What the process of a thread does when it is the turn of the thread. -/
def deedOf (d : Device) : Phase → Deed
  | .working p => (p.step d.now d.running d.store).1
  | _ => .rested

def deed (d : Device) (index : Nat) : Deed :=
  (d.threads[index]?.map fun t => d.deedOf t.phase).getD .rested

/-- A turn of a thread: the deed, the next phase, and the device after it but for the thread. -/
inductive Turn (d : Device) (t : Thread) : Deed → Phase → Device → Prop
  | enters (body : Body) (hphase : t.phase = .entering body) :
      Turn d t .rested (.announcing body) (d.advanceState t.node .running)
  | announces (body : Body) (hphase : t.phase = .announcing body) (p : Process)
      (hstart : Process.start body t.context d.now = .ok p) :
      Turn d t .rested (.working p) (d.publish (.started t.node t.name))
  | panics (body : Body) (hphase : t.phase = .announcing body) (panic : Panic)
      (hstart : Process.start body t.context d.now = .error panic) :
      Turn d t .rested .gone (d.publish (.started t.node t.name))
  | works (p next : Process) (deed : Deed) (store : QueueStore Message) (hphase : t.phase = .working p)
      (hlive : p.result = none) (hstep : p.Step d.now d.running d.store deed next store) :
      Turn d t deed (.working next) { d with store }
  | finishes (p : Process) (result : Except RuntimeError Unit) (hphase : t.phase = .working p)
      (hresult : p.result = some result) : Turn d t .rested (.afterRun d.running result) d
  | fails (error : RuntimeError) (hphase : t.phase = .failing error) :
      Turn d t .rested .stopping (d.publish (.failed t.node t.name error))
  | stops (hphase : t.phase = .stopping) : Turn d t .rested .leaving (d.advanceState t.node .stopped)
  | leaves (hphase : t.phase = .leaving) : Turn d t .rested .gone (d.publish (.stopped t.node t.name))
  | rests (hphase : t.phase = .gone) : Turn d t .rested .gone d

theorem stepPhase_turn (d : Device) (t : Thread) :
    d.Turn t (d.deedOf t.phase) (d.stepPhase t.node t.name t.context t.phase).2.1
      (d.stepPhase t.node t.name t.context t.phase).2.2 := by
  cases hphase : t.phase with
  | entering body => exact .enters body hphase
  | announcing body =>
    simp only [stepPhase, deedOf]
    cases hstart : Process.start body t.context d.now with
    | ok p => exact .announces body hphase p hstart
    | error panic => exact .panics body hphase panic hstart
  | failing error => exact .fails error hphase
  | stopping => exact .stops hphase
  | leaving => exact .leaves hphase
  | gone => exact .rests hphase
  | working p =>
    cases hresult : p.result with
    | some result =>
      have hdeed : d.deedOf (.working p) = .rested := by simp only [deedOf, Process.step, hresult]
      simp only [stepPhase, hresult, hdeed]
      exact .finishes p result hphase hresult
    | none =>
      simp only [stepPhase, hresult]
      exact .works p _ _ _ hphase hresult (p.step_spec d.now d.running d.store)

/-- A turn leaves the threads to their owner, and closing to itself. -/
theorem Turn.fields {t : Thread} {deed : Deed} {phase : Phase} (h : d.Turn t deed phase next) :
    next.threads = d.threads ∧ next.running = d.running ∧ next.closing = d.closing ∧ next.served = d.served ∧
      next.eventCapacity = d.eventCapacity := by
  cases h with
  | announces | panics | fails | leaves => simp
  | _ => exact ⟨rfl, rfl, rfl, rfl, rfl⟩

theorem Turn.change {t : Thread} {deed : Deed} {phase : Phase} (h : d.Turn t deed phase next) {id : QueueId}
    {q : Queue Message} (hq : d.store.get? id = some q) :
    ∃ after, next.store.get? id = some after ∧ q.Change (deed.puts id) (deed.takes id) after := by
  cases h with
  | works p _ deed store hphase hlive hstep => exact hstep.change hq
  | announces | panics | fails | leaves => exact ⟨q, by rw [store_publish, hq], .nothing⟩
  | _ => exact ⟨q, hq, .nothing⟩

theorem Turn.closed {t : Thread} {deed : Deed} {phase : Phase} (h : d.Turn t deed phase next) {id : QueueId}
    {after : Queue Message} (hafter : next.store.get? id = some after) :
    ∃ q, d.store.get? id = some q ∧ after.closed = q.closed := by
  cases h with
  | works p _ deed store hphase hlive hstep => exact hstep.closed hafter
  | announces | panics | fails | leaves =>
    rw [store_publish] at hafter
    exact ⟨after, hafter, rfl⟩
  | _ => exact ⟨after, hafter, rfl⟩

theorem Turn.size {t : Thread} {deed : Deed} {phase : Phase} (h : d.Turn t deed phase next) :
    next.store.size = d.store.size := by
  cases h with
  | works p _ deed store hphase hlive hstep => exact hstep.size
  | announces | panics | fails | leaves => rw [store_publish]
  | _ => rfl

/-! ## Moves -/

inductive Step (d : Device) : Move → Device → Prop
  | absent (index : Nat) (hnone : d.threads[index]? = none) : Step d (.thread index) d
  | turn (index : Nat) (t : Thread) (phase : Phase) (next : Device) (ht : d.threads[index]? = some t)
      (hturn : d.Turn t (d.deed index) phase next) :
      Step d (.thread index) { next with threads := d.threads.set index { t with phase } }
  | begins (pick : Nat) (hclosing : d.closing = .notBegun) :
      Step d (.teardown pick) { d with running := false, closing := .closingQueues (List.range d.store.size) }
  | closes (pick : Nat) (left : List QueueId) (id : QueueId) (hclosing : d.closing = .closingQueues left)
      (hid : id ∈ left) :
      Step d (.teardown pick) { d with store := d.store.close id, closing := .closingQueues (left.erase id) }
  | joins (pick : Nat) (hclosing : d.closing = .closingQueues []) :
      Step d (.teardown pick) { d with closing := .joining }
  | waits (pick : Nat) (t : Thread) (ht : t ∈ d.threads) (hclosing : d.closing = .joining)
      (hthere : t.phase.isGone = false) : Step d (.teardown pick) d
  | finishes (pick : Nat) (hclosing : d.closing = .joining) (hgone : ∀ t ∈ d.threads, t.phase.isGone = true) :
      Step d (.teardown pick) d.finishClosing
  | isOver (pick : Nat) (hclosing : d.closing = .finished) : Step d (.teardown pick) d
  | call (id : QueueId) (call : Call Message) : Step d (.call id call) (d.call id call).2
  | listens : Step d .listen d.listen
  | elapses (nanos : Nat) : Step d (.elapse nanos) (d.elapse nanos)

theorem teardown_spec (d : Device) (pick : Nat) : d.Step (.teardown pick) (d.teardown pick) := by
  cases hclosing : d.closing with
  | notBegun =>
    simp only [teardown, hclosing]
    exact .begins pick hclosing
  | closingQueues left =>
    cases hnext : left[pick % left.length]? with
    | some id =>
      simp only [teardown, hclosing, hnext]
      exact .closes pick left id hclosing (List.mem_of_getElem? hnext)
    | none =>
      simp only [teardown, hclosing, hnext]
      cases left with
      | nil => exact .joins pick hclosing
      | cons first rest =>
        have hlt := Nat.mod_lt pick (Nat.succ_pos rest.length)
        exact absurd (List.getElem?_eq_none_iff.mp hnext) (Nat.not_le.mpr hlt)
  | joining =>
    by_cases hgone : ∀ t ∈ d.threads, t.phase.isGone = true
    · have hall : (d.threads.all fun t => t.phase.isGone) = true := List.all_eq_true.mpr hgone
      simp only [teardown, hclosing, hall, if_true]
      exact .finishes pick hclosing hgone
    · have hall : (d.threads.all fun t => t.phase.isGone) = false := by simpa using hgone
      obtain ⟨t, ht, hthere⟩ := List.all_eq_false.mp hall
      simp only [teardown, hclosing, hall]
      exact .waits pick t ht hclosing (by simpa using hthere)
  | finished =>
    simp only [teardown, hclosing]
    exact .isOver pick hclosing

theorem move_spec (d : Device) (m : Move) : d.Step m (d.move m) := by
  cases m with
  | thread index =>
    cases ht : d.threads[index]? with
    | none =>
      simp only [move, stepThread, ht]
      exact .absent index ht
    | some t =>
      have hdeed : d.deed index = d.deedOf t.phase := by simp [deed, ht]
      have hturn := d.stepPhase_turn t
      rw [← hdeed] at hturn
      have hthreads := hturn.fields.1
      simp only [move, stepThread, ht, hthreads]
      exact .turn index t _ _ ht hturn
  | teardown pick => exact d.teardown_spec pick
  | call id call => exact .call id call
  | listen => exact .listens
  | elapse nanos => exact .elapses nanos

/-! ## What a move does to a queue -/

def puts (d : Device) (id : QueueId) : Move → List Message
  | .thread index => (d.deed index).puts id
  | .call queue call => if queue = id then call.taken (d.call queue call).1 else []
  | _ => []

def takes (d : Device) (id : QueueId) : Move → List Message
  | .thread index => (d.deed index).takes id
  | .call queue call => if queue = id then (d.call queue call).1.given else []
  | _ => []

theorem call_change (d : Device) (queue : QueueId) (call : Call Message) {id : QueueId} {q : Queue Message}
    (hq : d.store.get? id = some q) :
    ∃ after, (d.call queue call).2.store.get? id = some after ∧
      q.Change (d.puts id (.call queue call)) (d.takes id (.call queue call)) after := by
  simp only [puts, takes, Device.call]
  by_cases hid : queue = id
  · subst hid
    rw [QueueStore.modify_of_get? hq, if_pos rfl, if_pos rfl]
    refine ⟨(q.perform call).2, ?_, q.perform_change call⟩
    simp only [QueueStore.get?_set hq, if_true]
  · rw [if_neg hid, if_neg hid]
    exact ⟨q, by simp only [QueueStore.get?_modify_of_ne d.store hid, hq], .nothing⟩

/-- A call closes no queue unless that is what it is for. -/
theorem call_closed (d : Device) (queue : QueueId) {call : Call Message} (hcall : call ≠ .close) {id : QueueId}
    {after : Queue Message} (hafter : (d.call queue call).2.store.get? id = some after) :
    ∃ q, d.store.get? id = some q ∧ after.closed = q.closed := by
  simp only [Device.call] at hafter
  cases hq : d.store.get? queue with
  | none =>
    rw [QueueStore.modify_of_absent hq] at hafter
    exact ⟨after, hafter, rfl⟩
  | some q =>
    rw [QueueStore.get?_modify hq] at hafter
    by_cases hid : id = queue
    · rw [if_pos hid] at hafter
      obtain rfl := Option.some.inj hafter
      refine ⟨q, hid ▸ hq, ?_⟩
      rw [Bool.eq_iff_iff, Queue.closed_perform]
      simp [hcall]
    · rw [if_neg hid] at hafter
      exact ⟨after, hafter, rfl⟩

theorem close_change (s : QueueStore Message) (queue : QueueId) {id : QueueId} {q : Queue Message}
    (hq : s.get? id = some q) : ∃ after, (s.close queue).get? id = some after ∧ q.Change [] [] after := by
  unfold QueueStore.close
  by_cases hid : queue = id
  · subst hid
    exact ⟨q.close, by rw [QueueStore.get?_modify hq, if_pos rfl], .closes⟩
  · exact ⟨q, by rw [QueueStore.get?_modify_of_ne s hid, hq], .nothing⟩

theorem Step.change {m : Move} (h : d.Step m next) {id : QueueId} {q : Queue Message} (hq : d.store.get? id = some q) :
    ∃ after, next.store.get? id = some after ∧ q.Change (d.puts id m) (d.takes id m) after := by
  cases h with
  | absent index hnone =>
    have hdeed : d.deed index = .rested := by simp [deed, hnone]
    exact ⟨q, hq, by simpa [puts, takes, hdeed] using .nothing⟩
  | turn index t phase next ht hturn => exact hturn.change hq
  | closes pick left queue => exact close_change d.store queue hq
  | finishes => exact ⟨q, by simp [finishClosing, hq], .nothing⟩
  | call queue call => exact d.call_change queue call hq
  | _ => exact ⟨q, hq, .nothing⟩

/-- A queue changes by what a move puts into it and takes out of it. -/
theorem move_change (d : Device) (m : Move) {id : QueueId} {q : Queue Message} (hq : d.store.get? id = some q) :
    ∃ after, (d.move m).store.get? id = some after ∧ q.Change (d.puts id m) (d.takes id m) after :=
  (d.move_spec m).change hq

theorem Step.served {m : Move} (h : d.Step m next) : next.served = d.served := by
  cases h with
  | turn index t phase after ht hturn => exact hturn.fields.2.2.2.1
  | finishes => simp [finishClosing]
  | _ => rfl

theorem Step.size {m : Move} (h : d.Step m next) : next.store.size = d.store.size := by
  cases h with
  | turn index t phase next ht hturn => exact hturn.size
  | closes => exact QueueStore.size_modify ..
  | finishes => simp [finishClosing]
  | call queue call => exact QueueStore.size_modify ..
  | _ => rfl

end Device

end FrameGraph
