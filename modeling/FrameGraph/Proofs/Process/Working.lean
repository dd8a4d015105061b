import FrameGraph.Proofs.Process.WorkingOff

/-!
# Nodes with open queues

As long as none of its queues is closed, a node goes on and loses nothing. What it has to send at a place gets to all queues
behind the place, in order.

* `Context.Open`: none of the queues of a node is closed.
* `takenAt`: what a node has taken at one place.
* `Process.Works`: a node anywhere in a run with open queues. Anything else may happen to them between its steps.
* `Process.HandsOver`, `Process.Works.handsOver`: what had to be sent has been handed over, or is on its way.
* `Process.keeps_of_polls`: what a node sends goes by what it takes where it looks.
* `Solo.acts`, `Process.Works.alone`: a run with nobody else around.
-/

namespace FrameGraph
set_option autoImplicit false

/-! ## The queues of a node -/

namespace Context
variable {c : Context} {key : String} {queue : QueueId}

theorem mem_inputs_of_input? (h : c.input? key = some queue) : (key, queue) ∈ c.inputs := by
  obtain ⟨e, hfound, rfl⟩ := Option.map_eq_some_iff.mp h
  obtain rfl : e.1 = key := by simpa using List.find?_some hfound
  exact List.mem_of_find?_eq_some hfound

theorem mem_outputs_of_consumers (h : queue ∈ c.consumers key) : (key, queue) ∈ c.outputs := by
  obtain ⟨e, he, rfl⟩ := List.mem_map.mp h
  obtain ⟨hmem, hkey⟩ := List.mem_filter.mp he
  obtain rfl : e.1 = key := by simpa using hkey
  exact hmem

/-- The queues that a node takes from and sends to. -/
def queues (c : Context) : List QueueId :=
  c.inputs.map Prod.snd ++ c.outputs.map Prod.snd ++ c.host.toList

def Open (c : Context) (s : QueueStore Message) : Prop :=
  ∀ id ∈ c.queues, ∀ q, s.get? id = some q → q.closed = false

theorem open_of_forall {s : QueueStore Message} (h : ∀ q ∈ s.queues, q.closed = false) : c.Open s :=
  fun _ _ q hq => h q (List.mem_of_getElem? hq)

theorem mem_queues_of_input? (h : c.input? key = some queue) : queue ∈ c.queues :=
  List.mem_append_left _ (List.mem_append_left _ (List.mem_map_of_mem (mem_inputs_of_input? h)))

theorem mem_queues_of_host (h : c.host = some queue) : queue ∈ c.queues :=
  List.mem_append_right _ (Option.mem_toList.mpr h)

theorem mem_queues_of_destination {place : Place} (h : queue ∈ c.destinations place) : queue ∈ c.queues := by
  cases place with
  | port key =>
    exact List.mem_append_left _ (List.mem_append_right _ (List.mem_map_of_mem (mem_outputs_of_consumers h)))
  | host => exact mem_queues_of_host (Option.mem_toList.mp h)

end Context

/-! ## Where a node looks -/

namespace Agenda
variable {c : Context} {poll : Poll}

theorem mem_each {keys : List String} :
    poll ∈ each c keys ↔ ∃ key ∈ keys, ∃ queue, c.input? key = some queue ∧ poll = .look (.port key) queue false := by
  simp only [each, List.mem_filterMap, Option.map_eq_some_iff]
  simp only [eq_comm]

theorem mem_all {key : String} :
    poll ∈ all c key ↔ ∃ queue, c.input? key = some queue ∧ poll = .look (.port key) queue true := by
  simp only [all, Option.mem_toList, Option.map_eq_some_iff]
  simp only [eq_comm]

end Agenda

theorem Context.hostQueue_eq_ok_iff {c : Context} {queue : QueueId} : c.hostQueue = .ok queue ↔ c.host = some queue := by
  rw [Context.hostQueue]
  cases c.host <;> simp

/-- A node looks where it has set out to look at its beginning. -/
theorem Body.begins_of_mem_agenda {body : Body} {c : Context} {poll : Poll} (h : poll ∈ body.agenda c) :
    ∃ work polls, body.Begins c 0 (.working work polls) ∧ poll ∈ polls := by
  rw [agenda] at h
  split at h
  · exact ⟨_, _, begins_of_begin (by assumption), h⟩
  · cases h

/-- A camera that is paced looks for controls, configurations and frames, and not at its clock. -/
theorem Body.polls_of_paced {cam : Camera} {c : Context} {source : QueueId} (hpaced : c.input? "mockIsp" = some source)
    {poll : Poll} (h : poll ∈ Body.agenda (.camera cam) c) :
    (∃ queue, c.input? "inputControl" = some queue ∧ poll = .look (.port "inputControl") queue true) ∨
    (∃ queue, c.input? "inputConfig" = some queue ∧ poll = .look (.port "inputConfig") queue true) ∨
    poll = .look (.port "mockIsp") source false := by
  obtain ⟨work, polls, hbegins, hpoll⟩ := begins_of_mem_agenda h
  cases hbegins
  have hframes : Agenda.each c ["mockIsp"] = [.look (.port "mockIsp") source false] := by simp [Agenda.each, hpaced]
  simpa only [Agenda.camera, hframes, List.mem_append, Agenda.mem_all, List.mem_singleton, or_assoc] using hpoll

theorem Body.look_mem_agenda {body : Body} {c : Context} {place : Place} {queue : QueueId} {repeatedly : Bool}
    (h : Poll.look place queue repeatedly ∈ body.agenda c) :
    (∃ key, c.input? key = some queue) ∨ c.host = some queue := by
  have heach {keys : List String} (h : Poll.look place queue repeatedly ∈ Agenda.each c keys) :
      ∃ key, c.input? key = some queue := by
    obtain ⟨key, -, other, hother, hsame⟩ := Agenda.mem_each.mp h
    cases hsame
    exact ⟨key, hother⟩
  have hevery {key : String} (h : Poll.look place queue repeatedly ∈ Agenda.all c key) :
      ∃ key, c.input? key = some queue := by
    obtain ⟨other, hother, hsame⟩ := Agenda.mem_all.mp h
    cases hsame
    exact ⟨key, hother⟩
  obtain ⟨work, polls, hbegins, h⟩ := begins_of_mem_agenda h
  cases hbegins with
  | camera cam =>
    rcases List.mem_append.mp h with h | h
    · exact .inl ((List.mem_append.mp h).elim hevery hevery)
    · cases hframes : Agenda.each c ["mockIsp"] with
      | nil => simp [hframes] at h
      | cons first rest =>
        simp only [hframes] at h
        exact .inl (heach (by rwa [hframes]))
  | neuralNetwork | streamSync => exact .inl (heach h)
  | xlinkIn config own hhost =>
    obtain ⟨-, rfl, -⟩ := Poll.look.inj (List.mem_singleton.mp h)
    exact .inr (Context.hostQueue_eq_ok_iff.mp hhost)
  | xlinkOut config host own gap hhost hinput =>
    obtain ⟨-, rfl, -⟩ := Poll.look.inj (List.mem_singleton.mp h)
    exact .inl ⟨"in", hinput⟩
  | producer config => simp at h
  | idles p => cases h

theorem Body.mem_queues_of_look {body : Body} {c : Context} {place : Place} {queue : QueueId} {repeatedly : Bool}
    (h : Poll.look place queue repeatedly ∈ body.agenda c) : queue ∈ c.queues := by
  rcases look_mem_agenda h with ⟨key, hinput⟩ | hhost
  · exact Context.mem_queues_of_input? hinput
  · exact Context.mem_queues_of_host hhost

/-! ## Books by place -/

/-- The messages that were taken at one place. -/
def takenAt (place : Place) (intakes : List Intake) : List Message :=
  (intakes.filter fun i => i.place = place).map Intake.message

theorem takenAt_append (place : Place) (a b : List Intake) : takenAt place (a ++ b) = takenAt place a ++ takenAt place b := by
  simp [takenAt]

theorem takenAt_cons (place : Place) (i : Intake) (rest : List Intake) :
    takenAt place (i :: rest) = (if i.place = place then [i.message] else []) ++ takenAt place rest := by
  by_cases h : i.place = place <;> simp [takenAt, h]

theorem takenAt_concat (place : Place) (took : List Intake) (i : Intake) :
    takenAt place (took ++ [i]) = takenAt place took ++ if i.place = place then [i.message] else [] := by
  rw [takenAt_append, takenAt_cons]
  exact congrArg _ (List.append_nil _)

namespace Process

/-! ## Runs -/

/-- A node at work, with what it has done and the queues as they are. Between its steps others may do with the queues what
they want, but none of the node's own is closed. -/
inductive Works (body : Body) (c : Context) : Process → List Act → QueueStore Message → Prop
  | start {p : Process} (now : Nat) (hstart : Process.start body c now = .ok p) {s : QueueStore Message} (hopen : c.Open s) :
    Works body c p [] s
  | step {p : Process} {acts : List Act} {s : QueueStore Message} (h : Works body c p acts s) (now : Nat) (running : Bool) :
    Works body c (p.step now running s).2.1 (acts ++ [⟨p.work, now, (p.step now running s).1⟩]) (p.step now running s).2.2
  | others {p : Process} {acts : List Act} {s t : QueueStore Message} (h : Works body c p acts s) (hopen : c.Open t) :
    Works body c p acts t

variable {body : Body} {c : Context} {p : Process} {acts : List Act} {s : QueueStore Message}
  {inv : Process → List Act → Prop}

theorem Works.isOpen (h : Works body c p acts s) : c.Open s := by
  induction h with
  | start _ _ hopen => exact hopen
  | step _ now running ih =>
    intro id hid after hafter
    obtain ⟨q, hq, hsame⟩ := (step_spec _ now running _).closed hafter
    exact hsame.trans (ih id hid q hq)
  | others _ hopen => exact hopen

theorem Keeps.of_works (hkeeps : Keeps body c c.Open inv) (h : Works body c p acts s) : inv p acts := by
  induction h with
  | start now hstart => exact hkeeps.start hstart
  | step hrun now running ih => exact hkeeps.step ih hrun.isOpen (step_spec _ now running _)
  | others _ _ ih => exact ih

/-! ## What has been handed over -/

/-- What a node had to send at a place has been handed to all queues behind it, in order, up to what is still on its way.
The node has not failed, and it does not end before everything is handed over. -/
structure HandsOver (c : Context) (p : Process) (acts : List Act) : Prop where
  underway : ∀ place, deliveriesAt place (acts.flatMap Act.put) <+:
    (messagesAt place (acts.flatMap Act.sent)).flatMap fun m => c.deliveries ⟨place, m⟩
  arrived : p.outbox = [] → ∀ place, deliveriesAt place (acts.flatMap Act.put) =
    (messagesAt place (acts.flatMap Act.sent)).flatMap fun m => c.deliveries ⟨place, m⟩
  ended : ∀ result, p.result = some result → result = .ok () ∧ p.outbox = []

theorem handsOver_of_delivers (h : Delivers c p acts) (hended : ∀ result, p.result = some result →
    result = .ok () ∧ p.outbox = []) : HandsOver c p acts := by
  have hplaced (place : Place) : deliveriesAt place (acts.flatMap Act.put) ++ deliveriesAt place p.outbox =
      (messagesAt place (acts.flatMap Act.sent)).flatMap fun m => c.deliveries ⟨place, m⟩ := by
    rw [← deliveriesAt_append, h, deliveriesAt_flatMap]
  refine ⟨fun place => ⟨_, hplaced place⟩, fun hidle place => ?_, hended⟩
  rw [← hplaced, hidle]
  exact (List.append_nil _).symm

/-- A node that does not fail at once does not fail at all. -/
theorem keeps_unfailing (hbegin : ∀ now p, start body c now = .ok p → p.result = none) :
    Keeps body c c.Open fun p acts => Regular body c p acts ∧ ∀ result, p.result = some result → result = .ok () where
  start {now p} hstart := ⟨(keeps_regular body c c.Open).start hstart, fun result hresult => by
    cases (hbegin now p hstart).symm.trans hresult⟩
  step {p next now running s t deed acts} hp hopen hstep := by
    obtain ⟨hregular, hok⟩ := hp
    refine ⟨(keeps_regular body c c.Open).step hregular hopen hstep, ?_⟩
    cases hstep with
    | refused d rest q _ hnext hq hclosed =>
      have hbehind := hregular.outbox d (List.mem_append_right _ (by rw [hnext]; exact List.mem_cons_self))
      cases (hopen _ (Context.mem_queues_of_destination hbehind) q hq).symm.trans hclosed
    | denied place queue repeatedly rest q _ _ hnext hq hclosed =>
      have hlook := hregular.todo _ (by rw [hnext]; exact List.mem_cons_self)
      rw [hregular.agenda] at hlook
      cases (hopen _ (Body.mem_queues_of_look hlook) q hq).symm.trans hclosed
    | ended =>
      rintro _ ⟨⟩
      rfl
    | _ => exact hok

theorem Works.regular (h : Works body c p acts s) : Regular body c p acts :=
  (keeps_regular body c c.Open).of_works h

theorem Works.handsOver (hbegin : ∀ now p, Process.start body c now = .ok p → p.result = none)
    (h : Works body c p acts s) : HandsOver c p acts := by
  have hkeeps := (keeps_regular body c c.Open).delivering fun _ _ _ _ hopen _ _ queue hqueue q hq =>
    hopen queue (Context.mem_queues_of_destination hqueue) q hq
  obtain ⟨⟨hregular, -⟩, hdelivers⟩ := hkeeps.of_works h
  obtain ⟨-, hok⟩ := (keeps_unfailing hbegin).of_works h
  exact handsOver_of_delivers hdelivers fun result hresult =>
    ⟨hok result hresult, hregular.settled (by rw [hresult]; rfl)⟩

/-! ## What is sent for what is taken -/

/-- Like `keeps_of_relation`, where only messages from where the node looks have to keep the relation. -/
theorem keeps_of_polls {good : QueueStore Message → Prop} {R : Work → List Intake → List Emission → Prop}
    (hstart : ∀ {now p}, start body c now = .ok p → R p.work [] [])
    (hreceive : ∀ {w : Work} {took : List Intake} {sent : List Emission} (now : Nat) (i : Intake) (repeatedly : Bool),
      Poll.look i.place i.queue repeatedly ∈ body.agenda c → R w took sent →
      R (w.receive now i.place i.message).2 (took ++ [i]) (sent ++ (w.receive now i.place i.message).1))
    (htick : ∀ {w next : Work} {took : List Intake} {sent emissions : List Emission} {now : Nat},
      Poll.clock ∈ body.agenda c → R w took sent → w.tick? now = some (emissions, next) → R next took (sent ++ emissions))
    (hhanded : ∀ {w : Work} {took : List Intake} {sent : List Emission} (now : Nat), R w took sent →
      R (w.handedOver now) took sent) :
    Keeps body c good fun p acts => Regular body c p acts ∧ R p.work (acts.flatMap Act.intake) (acts.flatMap Act.sent) where
  start h := ⟨(keeps_regular body c good).start h, hstart h⟩
  step {p next now running s t deed acts} hp hgood hstep := by
    obtain ⟨hregular, hp⟩ := hp
    refine ⟨(keeps_regular body c good).step hregular hgood hstep, ?_⟩
    have hlisted {poll : Poll} {rest : Agenda} (hnext : p.todo = poll :: rest) : poll ∈ body.agenda c := by
      rw [← hregular.agenda]
      exact hregular.todo poll (by rw [hnext]; exact List.mem_cons_self)
    rw [List.flatMap_append, List.flatMap_append, List.flatMap_singleton, List.flatMap_singleton]
    exact hstep.relates hp (fun place queue repeatedly _ m hnext => hreceive now ⟨place, queue, m⟩ repeatedly (hlisted hnext) hp)
      (fun _ _ _ hnext hdue => htick (hlisted hnext) hp hdue) (hhanded now hp)

end Process

/-! ## Nobody else around -/

/-- What a process does in its next steps. -/
def Solo.acts (solo : Solo) : Nat → List Act
  | 0 => []
  | n + 1 => ⟨solo.process.work, solo.now, solo.step.1⟩ :: solo.step.2.acts n

theorem Process.Works.alone {body : Body} {c : Context} {solo : Solo} {acts : List Act}
    (h : Works body c solo.process acts solo.store) (n : Nat) :
    Works body c ((fun solo => (Solo.step solo).2)^[n] solo).process (acts ++ solo.acts n)
      ((fun solo => (Solo.step solo).2)^[n] solo).store := by
  induction n generalizing solo acts with
  | zero => simpa [Solo.acts] using h
  | succ n ih =>
    have hnext : Works body c solo.step.2.process (acts ++ [⟨solo.process.work, solo.now, solo.step.1⟩]) solo.step.2.store :=
      h.step solo.now solo.running
    simpa [Solo.acts] using ih hnext

end FrameGraph
