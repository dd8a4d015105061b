import FrameGraph.Process
import FrameGraph.Proofs.Queue.Calls

/-!
# What one step of a process can do

* `QueueStore.offer_cases`, `QueueStore.tryTake_cases`: an attempt on a queue of a store, and what it says of the queue.
* `Body.Begins`: all that the beginning of a run can come to, if it does not panic. `Body.begins_of_begin` says that
  there is nothing else, and `Process.exists_start` when it does not panic.
* `Process.Step`: all that a step of a process can come to. `Process.step_spec` says that there is nothing else.
* `Process.Step.change`: what a step does to a queue is said by its deed. `Process.Step.closed`: it closes none.
* `Process.Step.error`: a step ends a process with a failure only at a closed queue.
-/

namespace FrameGraph
set_option autoImplicit false

/-! ## Attempts on a store -/

namespace QueueStore
variable {α β : Type} {s : QueueStore α} {id : QueueId}

theorem get?_modify {q : Queue α} (h : s.get? id = some q) (absent : β) (call : Queue α → β × Queue α) (other : QueueId) :
    (s.modify id absent call).2.get? other = if other = id then some (call q).2 else s.get? other := by
  rw [modify_of_get? h, get?_set h]

theorem modify_of_same {q : Queue α} (h : s.get? id = some q) (absent : β) {call : Queue α → β × Queue α}
    (hsame : (call q).2 = q) : s.modify id absent call = ((call q).1, s) := by
  rw [modify_of_get? h, hsame, set_self h]

/-- Where a message is not taken in, nothing has changed: the sender waits, or the queue is closed. -/
theorem offer_cases (s : QueueStore α) (id : QueueId) (item : α) :
    s.offer id item = (.wait, s) ∨
    (∃ q, s.get? id = some q ∧ q.closed = true ∧ s.offer id item = (.done (.error q.closedError), s)) ∨
    ∃ q, s.get? id = some q ∧ q.Change [item] [] (q.offer item).2 ∧
      s.offer id item = (.done (.ok ()), { queues := s.queues.set id (q.offer item).2 }) := by
  cases hq : s.get? id with
  | none => exact .inl (modify_of_absent hq _ _)
  | some q =>
    rcases q.offer_cases item with ⟨hclosed, h⟩ | ⟨hopen, hroom, h⟩ | ⟨hopen, hfull, hdrops, h⟩ | ⟨-, -, -, h⟩
    · refine .inr (.inl ⟨q, rfl, hclosed, ?_⟩)
      rw [offer, modify_of_same hq _ (by rw [h]), h]
    · refine .inr (.inr ⟨q, rfl, by rw [h]; exact .takesIn item hopen hroom, ?_⟩)
      rw [offer, modify_of_get? hq, h]
    · refine .inr (.inr ⟨q, rfl, by rw [h]; exact .takesInDropping item hopen hfull hdrops, ?_⟩)
      rw [offer, modify_of_get? hq, h]
    · refine .inl ?_
      rw [offer, modify_of_same hq _ (by rw [h]), h]

/-- Where nothing is taken, nothing has changed: there is nothing, or the queue is closed. -/
theorem tryTake_cases (s : QueueStore α) (id : QueueId) :
    ((∀ q, s.get? id = some q → q.buffer = []) ∧ s.tryTake id = (.ok none, s)) ∨
    (∃ q, s.get? id = some q ∧ q.closed = true ∧ s.tryTake id = (.error q.closedError, s)) ∨
    ∃ q item rest, s.get? id = some q ∧ q.closed = false ∧ q.buffer = item :: rest ∧
      s.tryTake id = (.ok (some item), { queues := s.queues.set id { q with buffer := rest } }) := by
  cases hq : s.get? id with
  | none => exact .inl ⟨fun _ h => (nomatch h), modify_of_absent hq _ _⟩
  | some q =>
    have htry := q.tryTake_eq
    rcases q.take_cases with ⟨hclosed, h⟩ | ⟨-, hbuffer, h⟩ | ⟨hopen, item, rest, hbuffer, h⟩ <;>
      simp only [h, Except.map] at htry
    · refine .inr (.inl ⟨q, rfl, hclosed, ?_⟩)
      rw [tryTake, modify_of_same hq _ (by rw [htry]), htry]
    · refine .inl ⟨fun _ h => Option.some.inj h ▸ hbuffer, ?_⟩
      rw [tryTake, modify_of_same hq _ (by rw [htry]), htry]
    · refine .inr (.inr ⟨q, item, rest, rfl, hopen, hbuffer, ?_⟩)
      rw [tryTake, modify_of_get? hq, htry]

end QueueStore

/-! ## Beginnings -/

namespace Body
variable {c : Context} {now : Nat}

/-- What the beginning of a run comes to, if it does not panic. -/
inductive Begins (c : Context) (now : Nat) : Body → Beginning → Prop
  | camera (cam : Camera) (period : Nat) (hperiod : cam.period = .ok period) :
      Begins c now (.camera cam)
        (.working (.camera (.start cam (c.isLinked "still") period now)) (Agenda.camera c))
  | neuralNetwork (config : NeuralNetworkConfig) :
      Begins c now (.neuralNetwork config) (.working (.neuralNetwork config) (Agenda.neuralNetwork c))
  | streamSync (config : StreamSyncConfig) :
      Begins c now (.streamSync config)
        (.working (.streamSync (.make (StreamSync.streamsOf (c.inputs.map Prod.fst)) config.sync)) (Agenda.streamSync c))
  | xlinkIn (config : XLinkInConfig) (queue : QueueId) (hhost : c.hostQueue = .ok queue) :
      Begins c now (.xlinkIn config) (.working (.xlinkIn config) [.look .host queue false])
  | xlinkOut (config : XLinkOutConfig) (host queue : QueueId) (gap : Option Nat) (hhost : c.hostQueue = .ok host)
      (hinput : c.input? "in" = some queue) (hgap : config.leastGap = .ok gap) :
      Begins c now (.xlinkOut config) (.working (.xlinkOut { gap }) [.look (.port "in") queue false])
  | unfed (config : XLinkOutConfig) (host : QueueId) (hhost : c.hostQueue = .ok host) (hinput : c.input? "in" = none) :
      Begins c now (.xlinkOut config) (.ended (.ok ()))
  | inUnserved (config : XLinkInConfig) (e : RuntimeError) (hhost : c.hostQueue = .error e) :
      Begins c now (.xlinkIn config) (.ended (.error e))
  | outUnserved (config : XLinkOutConfig) (e : RuntimeError) (hhost : c.hostQueue = .error e) :
      Begins c now (.xlinkOut config) (.ended (.error e))
  | producer (config : ProducerConfig) :
      Begins c now (.producer config) (.working (.producer (.start config now)) [.clock])
  | idles (p : Plugin) (hfailure : p.failure = none) : Begins c now (.plugin p) (.working .idle [])
  | fails (p : Plugin) (reason : String) (hfailure : p.failure = some reason) :
      Begins c now (.plugin p) (.ended (.error (.nodeFailed c.name reason)))

theorem begins_of_begin {body : Body} {beginning : Beginning} (h : body.begin c now = .ok beginning) :
    Begins c now body beginning := by
  cases body with
  | camera cam =>
    cases hperiod : cam.period <;> simp only [begin, hperiod] at h <;> cases h
    exact .camera cam _ hperiod
  | xlinkIn config =>
    cases hhost : c.hostQueue <;> simp only [begin, hhost] at h <;> cases h
    · exact .inUnserved config _ hhost
    · exact .xlinkIn config _ hhost
  | xlinkOut config =>
    cases hhost : c.hostQueue with
    | error e =>
      simp only [begin, hhost] at h
      cases h
      exact .outUnserved config e hhost
    | ok host => cases hinput : c.input? "in" with
      | none =>
        simp only [begin, hhost, hinput] at h
        cases h
        exact .unfed config host hhost hinput
      | some queue =>
        cases hgap : config.leastGap <;> simp only [begin, hhost, hinput, hgap] at h <;> cases h
        exact .xlinkOut config host queue _ hhost hinput hgap
  | plugin p =>
    cases hfailure : p.failure <;> simp only [begin, hfailure] at h <;> cases h
    · exact .idles p hfailure
    · exact .fails p _ hfailure
  | neuralNetwork config => cases h; exact .neuralNetwork config
  | streamSync config => cases h; exact .streamSync config
  | producer config => cases h; exact .producer config

/-- The rates of a node have periods. -/
def Paced : Body → Prop
  | camera cam => ∃ period, cam.period = .ok period
  | xlinkOut config => ∃ gap, config.leastGap = .ok gap
  | _ => True

end Body

namespace Process

/-- A node that does not panic at its beginning is at work then, or has ended. -/
theorem start_eq_ok_iff {body : Body} {c : Context} {now : Nat} {p : Process} : start body c now = .ok p ↔
    ∃ beginning, body.begin c now = .ok beginning ∧ p = ofBeginning c beginning := by
  rw [start]
  cases body.begin c now with
  | error e => simp [Except.map]
  | ok beginning => simp [Except.map, eq_comm]

theorem begins_of_start {body : Body} {c : Context} {now : Nat} {p : Process} (h : start body c now = .ok p) :
    ∃ beginning, body.Begins c now beginning ∧ p = ofBeginning c beginning := by
  obtain ⟨beginning, hbegin, rfl⟩ := start_eq_ok_iff.mp h
  exact ⟨beginning, Body.begins_of_begin hbegin, rfl⟩

theorem start_camera {cam : Camera} {period : Nat} (h : cam.period = .ok period) (c : Context) (now : Nat) :
    start (.camera cam) c now =
      .ok (ofBeginning c (.working (.camera (.start cam (c.isLinked "still") period now)) (Agenda.camera c))) := by
  simp only [start, Body.begin, h]
  rfl

theorem begun_of_camera {cam : Camera} {c : Context} {now : Nat} {p : Process} (h : start (.camera cam) c now = .ok p) :
    ∃ period, p = ofBeginning c (.working (.camera (.start cam (c.isLinked "still") period now)) (Agenda.camera c)) := by
  obtain ⟨beginning, hbegins, rfl⟩ := begins_of_start h
  cases hbegins with
  | camera _ period => exact ⟨period, rfl⟩

theorem result_of_camera {cam : Camera} {c : Context} {now : Nat} {p : Process} (h : start (.camera cam) c now = .ok p) :
    p.result = none := by
  obtain ⟨period, rfl⟩ := begun_of_camera h
  rfl

/-- Only a rate without a period makes a node panic. -/
theorem exists_start {body : Body} (h : body.Paced) (c : Context) (now : Nat) : ∃ p, start body c now = .ok p := by
  have hbegins : ∃ beginning, body.begin c now = .ok beginning := by
    cases body with
    | camera cam =>
      obtain ⟨period, hperiod⟩ := h
      exact ⟨_, by simp only [Body.begin, hperiod]; rfl⟩
    | xlinkIn config => cases hhost : c.hostQueue <;> exact ⟨_, by simp only [Body.begin, hhost]; rfl⟩
    | xlinkOut config =>
      obtain ⟨gap, hgap⟩ := h
      cases hhost : c.hostQueue <;> cases hinput : c.input? "in" <;>
        exact ⟨_, by simp only [Body.begin, hhost, hinput, hgap]; rfl⟩
    | plugin p => cases hfailure : p.failure <;> exact ⟨_, by simp only [Body.begin, hfailure]; rfl⟩
    | neuralNetwork | streamSync | producer => exact ⟨_, rfl⟩
  obtain ⟨beginning, hbegin⟩ := hbegins
  exact ⟨_, start_eq_ok_iff.mpr ⟨beginning, hbegin, rfl⟩⟩

end Process

/-! ## Steps -/

/-- What a deed puts into a queue. -/
def Deed.puts (queue : QueueId) : Deed → List Message
  | delivered d => if d.queue = queue then [d.message] else []
  | _ => []

/-- What a deed takes out of a queue. -/
def Deed.takes (queue : QueueId) : Deed → List Message
  | took _ source m => if source = queue then [m] else []
  | _ => []

namespace Process

/-- What a step of a process comes to: the deed, the process after it, and the queues after it. -/
inductive Step (p : Process) (now : Nat) (running : Bool) (s : QueueStore Message) :
    Deed → Process → QueueStore Message → Prop
  | rested (hover : p.result.isSome = true) : Step p now running s .rested p s
  | blocked (d : Delivery) (rest : List Delivery) (hlive : p.result = none) (hnext : p.outbox = d :: rest)
    (hoffer : s.offer d.queue d.message = (.wait, s)) : Step p now running s .blocked p s
  | delivered (d : Delivery) (rest : List Delivery) (q : Queue Message) (hlive : p.result = none)
    (hnext : p.outbox = d :: rest) (hq : s.get? d.queue = some q)
    (hchange : q.Change [d.message] [] (q.offer d.message).2) :
    Step p now running s (.delivered d) (p.handedOver now rest)
      { queues := s.queues.set d.queue (q.offer d.message).2 }
  | refused (d : Delivery) (rest : List Delivery) (q : Queue Message) (hlive : p.result = none)
    (hnext : p.outbox = d :: rest) (hq : s.get? d.queue = some q) (hclosed : q.closed = true) :
    Step p now running s (.ended (.error q.closedError)) (p.finish (.error q.closedError)) s
  | denied (place : Place) (queue : QueueId) (repeatedly : Bool) (rest : Agenda) (q : Queue Message)
    (hlive : p.result = none) (hidle : p.outbox = []) (hnext : p.todo = .look place queue repeatedly :: rest)
    (hq : s.get? queue = some q) (hclosed : q.closed = true) :
    Step p now running s (.ended (.error q.closedError)) (p.finish (.error q.closedError)) s
  | foundNothing (place : Place) (queue : QueueId) (repeatedly : Bool) (rest : Agenda) (hlive : p.result = none)
    (hidle : p.outbox = []) (hnext : p.todo = .look place queue repeatedly :: rest)
    (hempty : ∀ q, s.get? queue = some q → q.buffer = []) : Step p now running s .looked { p with todo := rest } s
  | took (place : Place) (queue : QueueId) (repeatedly : Bool) (rest : Agenda) (q : Queue Message) (m : Message)
    (others : List Message) (hlive : p.result = none) (hidle : p.outbox = [])
    (hnext : p.todo = .look place queue repeatedly :: rest) (hq : s.get? queue = some q) (hopen : q.closed = false)
    (hbuffer : q.buffer = m :: others) :
    Step p now running s (.took place queue m)
      ({ p with todo := if repeatedly then p.todo else rest }.respond (p.work.receive now place m).1
        (p.work.receive now place m).2)
      { queues := s.queues.set queue { q with buffer := others } }
  | notDue (rest : Agenda) (hlive : p.result = none) (hidle : p.outbox = []) (hnext : p.todo = .clock :: rest)
    (htick : p.work.tick? now = none) : Step p now running s .looked { p with todo := rest } s
  | ticked (rest : Agenda) (emissions : List Emission) (work : Work) (hlive : p.result = none) (hidle : p.outbox = [])
    (hnext : p.todo = .clock :: rest) (htick : p.work.tick? now = some (emissions, work)) :
    Step p now running s .ticked ({ p with todo := rest }.respond emissions work) s
  | ended (hlive : p.result = none) (hidle : p.outbox = []) (hnext : p.todo = [])
    (hend : running = false ∨ p.work.isDone = true) : Step p now running s (.ended (.ok ())) (p.finish (.ok ())) s
  | began (hlive : p.result = none) (hidle : p.outbox = []) (hnext : p.todo = []) (hrunning : running = true)
    (hmore : p.work.isDone = false) : Step p now running s .looked { p with todo := p.agenda } s

theorem deliver_spec (p : Process) (now : Nat) (running : Bool) (s : QueueStore Message) {d : Delivery}
    {rest : List Delivery} (hlive : p.result = none) (hnext : p.outbox = d :: rest) :
    p.Step now running s (p.deliver now d rest s).1 (p.deliver now d rest s).2.1 (p.deliver now d rest s).2.2 := by
  rcases s.offer_cases d.queue d.message with h | ⟨q, hq, hclosed, h⟩ | ⟨q, hq, hchange, h⟩ <;>
    simp only [deliver, h]
  · exact .blocked d rest hlive hnext h
  · exact .refused d rest q hlive hnext hq hclosed
  · exact .delivered d rest q hlive hnext hq hchange

theorem look_spec (p : Process) (now : Nat) (running : Bool) (s : QueueStore Message) {place : Place} {queue : QueueId}
    {repeatedly : Bool} {rest : Agenda} (hlive : p.result = none) (hidle : p.outbox = [])
    (hnext : p.todo = .look place queue repeatedly :: rest) :
    p.Step now running s (p.look now place queue repeatedly rest s).1 (p.look now place queue repeatedly rest s).2.1
      (p.look now place queue repeatedly rest s).2.2 := by
  rcases s.tryTake_cases queue with ⟨hempty, h⟩ | ⟨q, hq, hclosed, h⟩ | ⟨q, m, others, hq, hopen, hbuffer, h⟩ <;>
    simp only [look, h]
  · exact .foundNothing place queue repeatedly rest hlive hidle hnext hempty
  · exact .denied place queue repeatedly rest q hlive hidle hnext hq hclosed
  · have htook : p.Step now running s (.took place queue m) _ _ :=
      .took place queue repeatedly rest q m others hlive hidle hnext hq hopen hbuffer
    cases repeatedly <;> exact htook

theorem step_spec (p : Process) (now : Nat) (running : Bool) (s : QueueStore Message) :
    p.Step now running s (p.step now running s).1 (p.step now running s).2.1 (p.step now running s).2.2 := by
  cases hresult : p.result with
  | some result =>
    simp only [step, hresult]
    exact .rested (by rw [hresult]; rfl)
  | none =>
    cases houtbox : p.outbox with
    | cons d rest =>
      simp only [step, hresult, houtbox]
      exact p.deliver_spec now running s hresult houtbox
    | nil =>
      rcases htodo : p.todo with _ | ⟨⟨place, queue, repeatedly⟩ | _, rest⟩ <;>
        simp only [step, hresult, houtbox, htodo]
      · by_cases hend : running = false ∨ p.work.isDone = true
        · have hguard : (!running || p.work.isDone) = true := by simpa using hend
          simp only [beginPass, hguard, if_true]
          exact .ended hresult houtbox htodo hend
        · obtain ⟨hrunning, hmore⟩ : running = true ∧ p.work.isDone = false := by simpa using hend
          have hguard : (!running || p.work.isDone) = false := by simp [hrunning, hmore]
          simp only [beginPass, hguard]
          exact .began hresult houtbox htodo hrunning hmore
      · exact p.look_spec now running s hresult houtbox htodo
      · cases htick : p.work.tick? now with
        | none =>
          simp only [lookAtClock, htick]
          exact .notDue rest hresult houtbox htodo htick
        | some tick =>
          simp only [lookAtClock, htick]
          exact .ticked rest tick.1 tick.2 hresult houtbox htodo htick

/-! ## What steps do to others -/

variable {p next : Process} {now : Nat} {running : Bool} {s t : QueueStore Message} {deed : Deed}

/-- A queue changes by what the deed puts into it and takes out of it. -/
theorem Step.change (h : p.Step now running s deed next t) {id : QueueId} {q : Queue Message} (hq : s.get? id = some q) :
    ∃ after, t.get? id = some after ∧ q.Change (deed.puts id) (deed.takes id) after := by
  cases h with
  | delivered d rest target _ _ htarget hchange =>
    rw [QueueStore.get?_set htarget]
    by_cases hid : id = d.queue
    · subst hid
      obtain rfl : target = q := Option.some.inj (htarget.symm.trans hq)
      exact ⟨_, if_pos rfl, by simpa [Deed.puts, Deed.takes] using hchange⟩
    · exact ⟨q, by rw [if_neg hid, hq], by simpa [Deed.puts, Deed.takes, Ne.symm hid] using .nothing⟩
  | took place queue _ _ source m others _ _ _ hsource hopen hbuffer =>
    rw [QueueStore.get?_set hsource]
    by_cases hid : id = queue
    · subst hid
      obtain rfl : source = q := Option.some.inj (hsource.symm.trans hq)
      exact ⟨_, if_pos rfl, by simpa [Deed.puts, Deed.takes] using .givesOne m others hopen hbuffer⟩
    · exact ⟨q, by rw [if_neg hid, hq], by simpa [Deed.puts, Deed.takes, Ne.symm hid] using .nothing⟩
  | _ => exact ⟨q, hq, .nothing⟩

theorem Step.size (h : p.Step now running s deed next t) : t.size = s.size := by
  cases h with
  | delivered => exact List.length_set
  | took => exact List.length_set
  | _ => rfl

/-- No step opens or closes a queue. -/
theorem Step.closed (h : p.Step now running s deed next t) {id : QueueId} {after : Queue Message}
    (hafter : t.get? id = some after) : ∃ q, s.get? id = some q ∧ after.closed = q.closed := by
  cases h with
  | delivered d rest target _ _ htarget hchange =>
    rw [QueueStore.get?_set htarget] at hafter
    by_cases hid : id = d.queue
    · rw [if_pos hid] at hafter
      obtain rfl := Option.some.inj hafter
      exact ⟨target, hid ▸ htarget, hchange.closed_of_taken⟩
    · rw [if_neg hid] at hafter
      exact ⟨after, hafter, rfl⟩
  | took place queue _ _ source m others _ _ _ hsource hopen hbuffer =>
    rw [QueueStore.get?_set hsource] at hafter
    by_cases hid : id = queue
    · rw [if_pos hid] at hafter
      obtain rfl := Option.some.inj hafter
      exact ⟨source, hid ▸ hsource, rfl⟩
    · rw [if_neg hid] at hafter
      exact ⟨after, hafter, rfl⟩
  | _ => exact ⟨after, hafter, rfl⟩

/-- A process is told of a failure by a closed queue and by nothing else. -/
theorem Step.error (h : p.Step now running s deed next t) {e : RuntimeError} (hlive : p.result = none)
    (he : next.result = some (.error e)) : e.isClosed = true ∧ ∃ id q, s.get? id = some q ∧ q.closed = true := by
  cases h with
  | refused d _ q _ _ hq hclosed =>
    cases he
    exact ⟨rfl, d.queue, q, hq, hclosed⟩
  | denied _ queue _ _ q _ _ _ hq hclosed =>
    cases he
    exact ⟨rfl, queue, q, hq, hclosed⟩
  | ended => cases he
  | _ =>
    simp only [respond, handedOver, hlive] at he
    cases he

end Process

end FrameGraph
