import FrameGraph.Proofs.Process.Steps

/-!
# What a process has done

* `Act`: a step of a process in the books, with what it took, what it had to send for that and what it delivered.
  `progress` counts the steps in which it got on.
* `Process.Keeps`: what is true of a node at work from its start, whatever it does.
* `Process.keeps_regular`: a node takes from the queues on its agenda, and delivers to those behind its places.
* `Process.Keeps.delivering`: what a node had to send has been delivered, or it is on its way.
* `Process.Step.relates`, `Process.keeps_of_relation`: what a node sends goes by what it takes.
-/

namespace FrameGraph
set_option autoImplicit false

/-! ## Books -/

structure Intake where
  place : Place
  queue : QueueId
  message : Message

/-- A step, with the work and the time at which it was taken. -/
structure Act where
  work : Work
  now : Nat
  deed : Deed

namespace Act

def intake (a : Act) : List Intake :=
  match a.deed with
  | .took place queue m => [⟨place, queue, m⟩]
  | _ => []

/-- What had to be sent for what was taken, or because it was due. -/
def sent (a : Act) : List Emission :=
  match a.deed with
  | .took place _ m => (a.work.receive a.now place m).1
  | .ticked => ((a.work.tick? a.now).map Prod.fst).getD []
  | _ => []

def put (a : Act) : List Delivery :=
  match a.deed with
  | .delivered d => [d]
  | _ => []

end Act

/-- In such a step a node had to wait, or it had ended before. -/
def Deed.isIdle : Deed → Bool
  | blocked | rested => true
  | _ => false

/-- The number of steps in which a node has got on. -/
def progress (acts : List Act) : Nat :=
  acts.countP fun a => !a.deed.isIdle

def messagesInto (queue : QueueId) (deliveries : List Delivery) : List Message :=
  (deliveries.filter fun d => d.queue == queue).map Delivery.message

def messagesFrom (queue : QueueId) (intakes : List Intake) : List Message :=
  (intakes.filter fun i => i.queue == queue).map Intake.message

def messagesAt (place : Place) (emissions : List Emission) : List Message :=
  (emissions.filter fun e => e.place = place).map Emission.message

/-- The deliveries of what was sent at one place. -/
def deliveriesAt (place : Place) (deliveries : List Delivery) : List Delivery :=
  deliveries.filter fun d => d.place = place

theorem messagesInto_append (queue : QueueId) (a b : List Delivery) :
    messagesInto queue (a ++ b) = messagesInto queue a ++ messagesInto queue b := by
  simp [messagesInto]

theorem messagesFrom_append (queue : QueueId) (a b : List Intake) :
    messagesFrom queue (a ++ b) = messagesFrom queue a ++ messagesFrom queue b := by
  simp [messagesFrom]

theorem messagesAt_append (place : Place) (a b : List Emission) :
    messagesAt place (a ++ b) = messagesAt place a ++ messagesAt place b := by
  simp [messagesAt]

theorem messagesAt_flatMap {α : Type} (place : Place) (l : List α) (f : α → List Emission) :
    messagesAt place (l.flatMap f) = l.flatMap fun a => messagesAt place (f a) := by
  simp [messagesAt, List.filter_flatMap, List.map_flatMap]

theorem deliveriesAt_append (place : Place) (a b : List Delivery) :
    deliveriesAt place (a ++ b) = deliveriesAt place a ++ deliveriesAt place b :=
  List.filter_append ..

theorem messagesInto_of_forall {queue : QueueId} {deliveries : List Delivery} (h : ∀ d ∈ deliveries, d.queue = queue) :
    messagesInto queue deliveries = deliveries.map Delivery.message := by
  rw [messagesInto, List.filter_eq_self.mpr fun d hd => beq_iff_eq.mpr (h d hd)]

theorem messagesInto_eq_nil {queue : QueueId} {deliveries : List Delivery} (h : ∀ d ∈ deliveries, d.queue ≠ queue) :
    messagesInto queue deliveries = [] := by
  rw [messagesInto, List.filter_eq_nil_iff.mpr fun d hd => by simpa using h d hd, List.map_nil]

theorem messagesAt_eq_nil {place : Place} {emissions : List Emission} (h : ∀ e ∈ emissions, e.place ≠ place) :
    messagesAt place emissions = [] := by
  rw [messagesAt, List.filter_eq_nil_iff.mpr fun e he => by simpa using h e he, List.map_nil]

theorem messagesFrom_of_forall {queue : QueueId} {intakes : List Intake} (h : ∀ i ∈ intakes, i.queue = queue) :
    messagesFrom queue intakes = intakes.map Intake.message := by
  rw [messagesFrom, List.filter_eq_self.mpr fun i hi => beq_iff_eq.mpr (h i hi)]

@[simp] theorem progress_nil : progress [] = 0 := rfl

theorem progress_concat (acts : List Act) (a : Act) : progress (acts ++ [a]) = progress acts + (!a.deed.isIdle).toNat := by
  rw [progress, List.countP_append, ← progress, List.countP_singleton]
  cases a.deed.isIdle <;> rfl

theorem puts_eq (queue : QueueId) (a : Act) : a.deed.puts queue = messagesInto queue a.put := by
  obtain ⟨work, now, deed⟩ := a
  cases deed with
  | delivered d => by_cases h : d.queue = queue <;> simp [Deed.puts, Act.put, messagesInto, h]
  | _ => rfl

theorem takes_eq (queue : QueueId) (a : Act) : a.deed.takes queue = messagesFrom queue a.intake := by
  obtain ⟨work, now, deed⟩ := a
  cases deed with
  | took place source m => by_cases h : source = queue <;> simp [Deed.takes, Act.intake, messagesFrom, h]
  | _ => rfl

/-! ## Nodes at work -/

/-- Where a node looks. -/
def Body.agenda (b : Body) (c : Context) : Agenda :=
  match b.begin c 0 with
  | .ok (.working _ agenda) => agenda
  | _ => []

namespace Process

section
variable {body : Body} {c : Context} {now : Nat} {p : Process}

theorem agenda_start (h : start body c now = .ok p) : p.agenda = body.agenda c := by
  obtain ⟨beginning, hbegins, rfl⟩ := begins_of_start h
  cases hbegins with
  | camera cam period hperiod => simp only [Body.agenda, Body.begin, hperiod]; rfl
  | xlinkIn config queue hhost => simp only [Body.agenda, Body.begin, hhost]; rfl
  | xlinkOut config host queue gap hhost hinput hgap => simp only [Body.agenda, Body.begin, hhost, hinput, hgap]; rfl
  | unfed config host hhost hinput => simp only [Body.agenda, Body.begin, hhost, hinput]; rfl
  | inUnserved _ _ hhost | outUnserved _ _ hhost => simp only [Body.agenda, Body.begin, hhost]; rfl
  | idles _ hfailure | fails _ _ hfailure => simp only [Body.agenda, Body.begin, hfailure]; rfl
  | neuralNetwork | streamSync | producer => rfl

theorem start_fields (h : start body c now = .ok p) : p.context = c ∧ p.todo = [] ∧ p.outbox = [] := by
  obtain ⟨beginning, -, rfl⟩ := start_eq_ok_iff.mp h
  cases beginning <;> exact ⟨rfl, rfl, rfl⟩

end

/-- A property of a node at work and of what it has done, which every step keeps as long as the queues are good. -/
structure Keeps (body : Body) (c : Context) (good : QueueStore Message → Prop) (inv : Process → List Act → Prop) :
    Prop where
  start : ∀ {now : Nat} {p : Process}, Process.start body c now = .ok p → inv p []
  step : ∀ {p next : Process} {now : Nat} {running : Bool} {s t : QueueStore Message} {deed : Deed} {acts : List Act},
    inv p acts → good s → p.Step now running s deed next t → inv next (acts ++ [⟨p.work, now, deed⟩])

variable {body : Body} {c : Context} {good : QueueStore Message → Prop} {inv more : Process → List Act → Prop}

theorem Keeps.and (h : Keeps body c good inv) (h' : Keeps body c good more) :
    Keeps body c good fun p acts => inv p acts ∧ more p acts where
  start hp := ⟨h.start hp, h'.start hp⟩
  step hp hgood hstep := ⟨h.step hp.1 hgood hstep, h'.step hp.2 hgood hstep⟩

theorem Keeps.weaken (h : Keeps body c good inv) {better : QueueStore Message → Prop} (hbetter : ∀ s, better s → good s) :
    Keeps body c better inv where
  start := h.start
  step hp hgood hstep := h.step hp (hbetter _ hgood) hstep

/-- What is true of every node. -/
structure Regular (body : Body) (c : Context) (p : Process) (acts : List Act) : Prop where
  context : p.context = c
  agenda : p.agenda = body.agenda c
  todo : ∀ poll ∈ p.todo, poll ∈ p.agenda
  settled : p.result.isSome = true → p.outbox = []
  intake : ∀ i ∈ acts.flatMap Act.intake, ∃ repeatedly, Poll.look i.place i.queue repeatedly ∈ body.agenda c
  outbox : ∀ d ∈ acts.flatMap Act.put ++ p.outbox, d.queue ∈ c.destinations d.place

theorem mem_destinations {e : Emission} {d : Delivery} (h : d ∈ c.deliveries e) : d.queue ∈ c.destinations d.place := by
  obtain ⟨queue, hqueue, rfl⟩ := List.mem_map.mp h
  exact hqueue

section
variable {p next : Process} {now : Nat} {deed : Deed} {acts : List Act}

/-- A step that neither takes nor puts anything, and leaves the node as it was but for what it is about to do. -/
theorem Regular.quiet (h : Regular body c p acts) (hcontext : next.context = p.context) (hagenda : next.agenda = p.agenda)
    (htodo : ∀ poll ∈ next.todo, poll ∈ p.agenda) (hresult : next.result.isSome = true → next.outbox = [])
    (hintake : Act.intake ⟨p.work, now, deed⟩ = []) (hput : Act.put ⟨p.work, now, deed⟩ = [])
    (hnext : next.outbox = p.outbox ∨ next.outbox = []) : Regular body c next (acts ++ [⟨p.work, now, deed⟩]) where
  context := hcontext.trans h.context
  agenda := hagenda.trans h.agenda
  todo := by rw [hagenda]; exact htodo
  settled := hresult
  intake := by simpa [hintake] using h.intake
  outbox := by
    rw [List.flatMap_append, List.flatMap_singleton, hput, List.append_nil]
    rcases hnext with hnext | hnext <;> rw [hnext]
    · exact h.outbox
    · exact fun d hd => h.outbox d (List.mem_append_left _ (by simpa using hd))

theorem Regular.response (h : Regular body c p acts) {emissions : List Emission} (hcontext : next.context = p.context)
    (hagenda : next.agenda = p.agenda) (hlive : next.result = none) (htodo : ∀ poll ∈ next.todo, poll ∈ p.agenda)
    (hput : Act.put ⟨p.work, now, deed⟩ = [])
    (hintake : ∀ i ∈ Act.intake ⟨p.work, now, deed⟩, ∃ repeatedly, Poll.look i.place i.queue repeatedly ∈ p.agenda)
    (hnext : next.outbox = emissions.flatMap p.context.deliveries) :
    Regular body c next (acts ++ [⟨p.work, now, deed⟩]) where
  context := hcontext.trans h.context
  agenda := hagenda.trans h.agenda
  todo := by rw [hagenda]; exact htodo
  settled hover := by
    rw [hlive] at hover
    cases hover
  intake i hi := by
    rw [List.flatMap_append, List.flatMap_singleton] at hi
    exact (List.mem_append.mp hi).elim (h.intake i) fun hi => h.agenda ▸ hintake i hi
  outbox d hd := by
    rw [List.flatMap_append, List.flatMap_singleton, hput, List.append_nil, hnext] at hd
    rcases List.mem_append.mp hd with hd | hd
    · exact h.outbox d (List.mem_append_left _ hd)
    · obtain ⟨e, -, hd⟩ := List.mem_flatMap.mp hd
      exact mem_destinations (h.context ▸ hd)

end

theorem keeps_regular (body : Body) (c : Context) (good : QueueStore Message → Prop) :
    Keeps body c good (Regular body c) where
  start hp := by
    obtain ⟨hcontext, htodo, houtbox⟩ := start_fields hp
    refine ⟨hcontext, agenda_start hp, ?_, fun _ => houtbox, List.forall_mem_nil _, ?_⟩
    · rw [htodo]
      exact List.forall_mem_nil _
    · rw [houtbox]
      exact List.forall_mem_nil _
  step {p next now running s t deed acts} hp _ hstep := by
    have hrest {poll : Poll} {rest : Agenda} (hnext : p.todo = poll :: rest) : ∀ other ∈ rest, other ∈ p.agenda :=
      fun other hother => hp.todo other (by rw [hnext]; exact List.mem_cons_of_mem _ hother)
    -- Only a delivery, a message and a tick are not quiet.
    cases hstep with
    | rested | blocked => exact hp.quiet rfl rfl hp.todo hp.settled rfl rfl (.inl rfl)
    | refused | denied | ended => exact hp.quiet rfl rfl (List.forall_mem_nil _) (fun _ => rfl) rfl rfl (.inr rfl)
    | foundNothing _ _ _ rest _ hidle hnext => exact hp.quiet rfl rfl (hrest hnext) hp.settled rfl rfl (.inl rfl)
    | notDue rest _ hidle hnext => exact hp.quiet rfl rfl (hrest hnext) hp.settled rfl rfl (.inl rfl)
    | began => exact hp.quiet rfl rfl (fun _ h => h) hp.settled rfl rfl (.inl rfl)
    | delivered d rest q hlive hnext =>
      refine ⟨hp.context, hp.agenda, hp.todo, fun h => ?_, by simpa [Act.intake] using hp.intake, ?_⟩
      · simp [handedOver, hlive] at h
      · have houtbox := hp.outbox
        rw [hnext] at houtbox
        simpa [Act.put, handedOver, List.flatMap_append] using houtbox
    | took place queue repeatedly rest q m others hlive hidle hnext =>
      refine hp.response rfl rfl hlive ?_ rfl (fun i hi => ?_) rfl
      · cases repeatedly
        · exact hrest hnext
        · exact hp.todo
      · rw [List.mem_singleton.mp hi]
        exact ⟨repeatedly, hp.todo _ (by rw [hnext]; exact List.mem_cons_self)⟩
    | ticked rest emissions work hlive hidle hnext htick =>
      exact hp.response rfl rfl hlive (hrest hnext) rfl (List.forall_mem_nil _) rfl

theorem Regular.looked {p : Process} {acts : List Act} (h : Regular body c p acts) {place : Place} {queue : QueueId}
    {repeatedly : Bool} (hagenda : body.agenda c = [.look place queue repeatedly]) :
    ∀ i ∈ acts.flatMap Act.intake, i.place = place ∧ i.queue = queue := by
  intro i hi
  obtain ⟨_, hlook⟩ := h.intake i hi
  rw [hagenda, List.mem_singleton] at hlook
  obtain ⟨hplace, hqueue, -⟩ := Poll.look.inj hlook
  exact ⟨hplace, hqueue⟩

/-! ## Deliveries -/

/-- What a node had to send has been delivered, or it is on its way. -/
def Delivers (c : Context) (p : Process) (acts : List Act) : Prop :=
  acts.flatMap Act.put ++ p.outbox = (acts.flatMap Act.sent).flatMap c.deliveries

section
variable {p next : Process} {now : Nat} {deed : Deed} {acts : List Act}

theorem Delivers.quiet (h : Delivers c p acts) (hsent : Act.sent ⟨p.work, now, deed⟩ = [])
    (hput : Act.put ⟨p.work, now, deed⟩ = []) (hnext : next.outbox = p.outbox) :
    Delivers c next (acts ++ [⟨p.work, now, deed⟩]) := by
  simpa [Delivers, hsent, hput, hnext] using h

theorem Delivers.response (h : Delivers c p acts) {emissions : List Emission} (hcontext : p.context = c)
    (hidle : p.outbox = []) (hsent : Act.sent ⟨p.work, now, deed⟩ = emissions)
    (hput : Act.put ⟨p.work, now, deed⟩ = []) (hnext : next.outbox = emissions.flatMap p.context.deliveries) :
    Delivers c next (acts ++ [⟨p.work, now, deed⟩]) := by
  rw [Delivers, hidle, List.append_nil] at h
  simp [Delivers, List.flatMap_append, hsent, hput, hnext, hcontext, h]

end

/-- Nothing is lost on the way to queues that are open. -/
theorem Keeps.delivering (h : Keeps body c good inv)
    (hopen : ∀ p acts s, inv p acts → good s → ∀ e ∈ acts.flatMap Act.sent, ∀ queue ∈ c.destinations e.place, ∀ q,
      s.get? queue = some q → q.closed = false) :
    Keeps body c good fun p acts => (inv p acts ∧ p.context = c) ∧ Delivers c p acts where
  start hp := by
    obtain ⟨hcontext, -, houtbox⟩ := start_fields hp
    exact ⟨⟨h.start hp, hcontext⟩, houtbox⟩
  step {p next now running s t deed acts} hp hgood hstep := by
    obtain ⟨⟨hinv, hcontext⟩, hdelivers⟩ := hp
    refine ⟨⟨h.step hinv hgood hstep, ?_⟩, ?_⟩
    · cases hstep <;> exact hcontext
    · cases hstep with
      | rested | blocked | foundNothing | notDue | began => exact hdelivers.quiet rfl rfl rfl
      | denied _ _ _ _ _ _ hidle | ended _ hidle => exact hdelivers.quiet rfl rfl hidle.symm
      | delivered d rest q hlive hnext =>
        rw [Delivers, hnext] at hdelivers
        simpa [Delivers, handedOver, List.flatMap_append, Act.put, Act.sent] using hdelivers
      | refused d rest q hlive hnext hq hclosed =>
        have hd : d ∈ (acts.flatMap Act.sent).flatMap c.deliveries := by
          rw [← hdelivers, hnext]
          exact List.mem_append_right _ List.mem_cons_self
        obtain ⟨e, he, hd⟩ := List.mem_flatMap.mp hd
        obtain ⟨queue, hqueue, rfl⟩ := List.mem_map.mp hd
        rw [hopen p acts _ hinv hgood e he queue hqueue q hq] at hclosed
        cases hclosed
      | took place queue repeatedly rest q m others hlive hidle => exact hdelivers.response hcontext hidle rfl rfl rfl
      | ticked rest emissions work hlive hidle hnext htick =>
        refine hdelivers.response hcontext hidle ?_ rfl rfl
        simp only [Act.sent, htick, Option.map_some, Option.getD_some]

/-- What has been delivered, or is on its way, had to be sent. -/
def Sourced (c : Context) (p : Process) (acts : List Act) : Prop :=
  p.context = c ∧ ∀ d ∈ acts.flatMap Act.put ++ p.outbox, ∃ e ∈ acts.flatMap Act.sent, d ∈ c.deliveries e

/-- Unlike `Keeps.delivering` this is so whatever becomes of the queues. -/
theorem keeps_sourced (body : Body) (c : Context) (good : QueueStore Message → Prop) :
    Keeps body c good (Sourced c) where
  start hp := by
    obtain ⟨hcontext, -, houtbox⟩ := start_fields hp
    refine ⟨hcontext, ?_⟩
    rw [houtbox]
    exact fun _ h => (nomatch h)
  step {p next now running s t deed acts} hp _ hstep := by
    obtain ⟨hcontext, hsourced⟩ := hp
    refine ⟨by cases hstep <;> exact hcontext, fun d hd => ?_⟩
    rw [List.flatMap_append, List.flatMap_singleton, List.append_assoc] at hd
    rw [List.flatMap_append, List.flatMap_singleton]
    have hbefore (hold : d ∈ acts.flatMap Act.put ++ p.outbox) :
        ∃ e ∈ acts.flatMap Act.sent ++ Act.sent ⟨p.work, now, deed⟩, d ∈ c.deliveries e := by
      obtain ⟨e, he, hd⟩ := hsourced d hold
      exact ⟨e, List.mem_append_left _ he, hd⟩
    have hanswer {emissions : List Emission} (hsent : Act.sent ⟨p.work, now, deed⟩ = emissions)
        (hnew : d ∈ acts.flatMap Act.put ++ emissions.flatMap p.context.deliveries) :
        ∃ e ∈ acts.flatMap Act.sent ++ Act.sent ⟨p.work, now, deed⟩, d ∈ c.deliveries e := by
      rcases List.mem_append.mp hnew with hold | hnew
      · exact hbefore (List.mem_append_left _ hold)
      · obtain ⟨e, he, hd⟩ := List.mem_flatMap.mp hnew
        exact ⟨e, List.mem_append_right _ (hsent ▸ he), hcontext ▸ hd⟩
    cases hstep with
    | rested | blocked | foundNothing | notDue | began => exact hbefore hd
    | refused | denied | ended => exact hbefore (List.mem_append_left _ (by simpa [finish, Act.put] using hd))
    | delivered e rest q hlive hnext =>
      refine hbefore ?_
      rw [hnext]
      exact hd
    | took => exact hanswer rfl hd
    | ticked rest emissions work hlive hidle hnext htick =>
      refine hanswer ?_ hd
      simp only [Act.sent, htick, Option.map_some, Option.getD_some]

theorem queue_of_deliveries {place : Place} {queue : QueueId} (hself : c.destinations place = [queue])
    {emissions : List Emission} (hplaces : ∀ e ∈ emissions, e.place = place) :
    ∀ d ∈ emissions.flatMap c.deliveries, d.queue = queue := by
  intro d hd
  obtain ⟨e, he, hd⟩ := List.mem_flatMap.mp hd
  obtain ⟨other, hother, rfl⟩ := List.mem_map.mp hd
  rw [hplaces e he, hself] at hother
  exact List.mem_singleton.mp hother

theorem deliveries_single {emissions : List Emission} (hone : emissions.length ≤ 1)
    (hqueues : ∀ e ∈ emissions, (c.destinations e.place).length ≤ 1) : (emissions.flatMap c.deliveries).length ≤ 1 := by
  cases emissions with
  | nil => exact Nat.zero_le 1
  | cons e rest =>
    obtain rfl : rest = [] := List.eq_nil_of_length_eq_zero (Nat.le_zero.mp (Nat.le_of_succ_le_succ hone))
    simpa [Context.deliveries] using hqueues e List.mem_cons_self

/-- A node that answers a message with one at most, to one queue at most, has no more than one in its hands. -/
theorem Keeps.single (h : Keeps body c good inv)
    (hqueues : ∀ p acts, inv p acts → ∀ e ∈ acts.flatMap Act.sent, (c.destinations e.place).length ≤ 1)
    (hanswer : ∀ p acts, inv p acts → ∀ now place m, (p.work.receive now place m).1.length ≤ 1)
    (htimeless : ∀ p acts, inv p acts → ∀ now, p.work.tick? now = none) :
    Keeps body c good fun p acts => (inv p acts ∧ p.context = c) ∧ p.outbox.length ≤ 1 where
  start hp := by
    obtain ⟨hcontext, -, houtbox⟩ := start_fields hp
    exact ⟨⟨h.start hp, hcontext⟩, by rw [houtbox]; exact Nat.zero_le 1⟩
  step {p next now running s t deed acts} hp hgood hstep := by
    obtain ⟨⟨hinv, hcontext⟩, hsingle⟩ := hp
    have hnext := h.step hinv hgood hstep
    have hsame : next.context = c := by cases hstep <;> exact hcontext
    refine ⟨⟨hnext, hsame⟩, ?_⟩
    cases hstep with
    | rested | blocked | foundNothing | notDue | began => exact hsingle
    | refused | denied | ended => exact Nat.zero_le 1
    | delivered d rest q hlive hidle =>
      rw [hidle] at hsingle
      exact Nat.le_of_succ_le hsingle
    | took place queue repeatedly rest q m =>
      have hlast : ∀ e ∈ (p.work.receive now place m).1, (c.destinations e.place).length ≤ 1 := fun e he =>
        hqueues _ _ hnext e (by rw [List.flatMap_append]; exact List.mem_append_right _ (by simpa [Act.sent] using he))
      rw [← hcontext] at hlast
      exact deliveries_single (hanswer p acts hinv now place m) hlast
    | ticked rest emissions work hlive hidle hdue htick =>
      rw [htimeless p acts hinv now] at htick
      cases htick

/-- Of what is delivered for some emissions, that into a queue behind one place only comes from there. -/
theorem messagesInto_deliveries {place : Place} {queue : QueueId} (hself : c.destinations place = [queue])
    (honly : ∀ other, queue ∈ c.destinations other → other = place) (emissions : List Emission) :
    messagesInto queue (emissions.flatMap c.deliveries) = messagesAt place emissions := by
  induction emissions with
  | nil => rfl
  | cons e rest ih =>
    rw [List.flatMap_cons, messagesInto_append, ih]
    by_cases hplace : e.place = place
    · have hone : c.deliveries e = [⟨e.place, queue, e.message⟩] := by rw [Context.deliveries, hplace, hself]; rfl
      simp [hone, messagesInto, messagesAt, hplace]
    · have hnone : messagesInto queue (c.deliveries e) = [] := by
        refine messagesInto_eq_nil fun d hd hqueue => hplace (honly e.place ?_)
        obtain ⟨other, hother, rfl⟩ := List.mem_map.mp hd
        exact hqueue ▸ hother
      rw [hnone, List.nil_append, messagesAt, messagesAt, List.filter_cons_of_neg (by simpa using hplace)]

theorem deliveriesAt_flatMap (place : Place) (emissions : List Emission) :
    deliveriesAt place (emissions.flatMap c.deliveries) =
      (messagesAt place emissions).flatMap fun m => c.deliveries ⟨place, m⟩ := by
  induction emissions with
  | nil => rfl
  | cons e rest ih =>
    have hall : ∀ d ∈ c.deliveries e, d.place = e.place := by
      intro d hd
      obtain ⟨queue, -, rfl⟩ := List.mem_map.mp hd
      rfl
    rw [List.flatMap_cons, deliveriesAt_append, ih, deliveriesAt]
    by_cases hplace : e.place = place
    · subst hplace
      rw [List.filter_eq_self.mpr fun d hd => decide_eq_true (hall d hd)]
      simp [messagesAt]
    · rw [List.filter_eq_nil_iff.mpr fun d hd h => hplace ((hall d hd).symm.trans (of_decide_eq_true h))]
      simp [messagesAt, hplace]

/-! ## What is sent for what is taken -/

section
variable {R : Work → List Intake → List Emission → Prop}

/-- What the work has come to after a step. A message, a tick and the end of a hand-over make a difference. -/
theorem Step.relates {p next : Process} {now : Nat} {running : Bool} {s t : QueueStore Message} {deed : Deed}
    (hstep : p.Step now running s deed next t) {took : List Intake} {sent : List Emission} (h : R p.work took sent)
    (hreceive : ∀ place queue repeatedly rest m, p.todo = .look place queue repeatedly :: rest →
      R (p.work.receive now place m).2 (took ++ [⟨place, queue, m⟩]) (sent ++ (p.work.receive now place m).1))
    (htick : ∀ rest emissions work, p.todo = .clock :: rest → p.work.tick? now = some (emissions, work) →
      R work took (sent ++ emissions)) (hhanded : R (p.work.handedOver now) took sent) :
    R next.work (took ++ Act.intake ⟨p.work, now, deed⟩) (sent ++ Act.sent ⟨p.work, now, deed⟩) := by
  cases hstep with
  | took place queue repeatedly rest _ m _ _ _ hnext => exact hreceive place queue repeatedly rest m hnext
  | ticked rest emissions work hlive hidle hnext hdue =>
    have hsent : Act.sent ⟨p.work, now, .ticked⟩ = emissions := by simp [Act.sent, hdue]
    rw [hsent, Act.intake, List.append_nil]
    exact htick rest emissions work hnext hdue
  | delivered d rest =>
    simp only [Act.intake, Act.sent, List.append_nil, handedOver]
    split
    · exact hhanded
    · exact h
  | _ =>
    simp only [Act.intake, Act.sent, List.append_nil]
    exact h

/-- A relation of what a node has taken and sent holds throughout, if it does as messages come in and as time passes. -/
theorem keeps_of_relation
    (hstart : ∀ {now p}, start body c now = .ok p → R p.work [] [])
    (hreceive : ∀ {w : Work} {took : List Intake} {sent : List Emission} (now : Nat) (i : Intake), R w took sent →
      R (w.receive now i.place i.message).2 (took ++ [i]) (sent ++ (w.receive now i.place i.message).1))
    (htick : ∀ {w next : Work} {took : List Intake} {sent emissions : List Emission} {now : Nat}, R w took sent →
      w.tick? now = some (emissions, next) → R next took (sent ++ emissions))
    (hhanded : ∀ {w : Work} {took : List Intake} {sent : List Emission} (now : Nat), R w took sent →
      R (w.handedOver now) took sent) :
    Keeps body c good fun p acts => R p.work (acts.flatMap Act.intake) (acts.flatMap Act.sent) where
  start := hstart
  step {p next now running s t deed acts} hp _ hstep := by
    rw [List.flatMap_append, List.flatMap_append, List.flatMap_singleton, List.flatMap_singleton]
    exact hstep.relates hp (fun place queue _ _ m _ => hreceive now ⟨place, queue, m⟩ hp)
      (fun _ _ _ _ hdue => htick hp hdue) (hhanded now hp)

end

end Process

end FrameGraph
