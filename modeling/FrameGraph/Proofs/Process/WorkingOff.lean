import FrameGraph.Process.Solo
import FrameGraph.Proofs.Process.Acts
import Mathlib.Logic.Function.Iterate

/-!
# Nodes that work off what there is

* `Process.WorksOff`: a run in which the queues that a node takes from hold all that they ever will.
* `Process.Keeps.of_worksOff`: what is true of a node at work is true in such a run.
* `Process.WorksOff.alone`: a node that sends nothing back to itself runs like this if nobody else is around.
-/

namespace FrameGraph
set_option autoImplicit false

namespace QueueStore

/-- What is in the queue at a place. -/
def held? (s : QueueStore Message) (id : QueueId) : Option (List Message) :=
  (s.get? id).map Queue.buffer

def NoneClosed (s : QueueStore Message) : Prop :=
  ∀ id q, s.get? id = some q → q.closed = false

end QueueStore

namespace Process
variable {body : Body} {c : Context} {sources : List QueueId} {first s : QueueStore Message} {passes : Nat} {p : Process}
  {acts : List Act} {inv : Process → List Act → Prop}

/-- Whether the next step begins a pass. -/
def beginsPass (p : Process) (running : Bool) : Bool :=
  p.result.isNone && p.outbox.isEmpty && p.todo.isEmpty && running && !p.work.isDone

/-- A node that works off what its sources hold, with the passes that it has begun and with what it has done. No queue is
closed, nothing else gets into the sources, nobody else takes anything out of them, and the node is told to go on until
they are empty. Anything may happen to other queues between its steps. -/
inductive WorksOff (body : Body) (c : Context) (sources : List QueueId) (first : QueueStore Message) :
    Nat → Process → List Act → QueueStore Message → Prop
  | start {p : Process} (now : Nat) (hstart : Process.start body c now = .ok p) (hopen : first.NoneClosed) :
    WorksOff body c sources first 0 p [] first
  | step {passes : Nat} {p : Process} {acts : List Act} {s : QueueStore Message}
    (h : WorksOff body c sources first passes p acts s) (now : Nat) (running : Bool)
    (hgoing : running = false → ∀ id ∈ sources, s.held? id = some [])
    (hnew : ∀ id ∈ sources, (p.step now running s).1.puts id = []) :
    WorksOff body c sources first (passes + (p.beginsPass running).toNat) (p.step now running s).2.1
      (acts ++ [⟨p.work, now, (p.step now running s).1⟩]) (p.step now running s).2.2
  | others {passes : Nat} {p : Process} {acts : List Act} {s t : QueueStore Message}
    (h : WorksOff body c sources first passes p acts s) (hopen : t.NoneClosed)
    (hsame : ∀ id ∈ sources, t.held? id = s.held? id) : WorksOff body c sources first passes p acts t

theorem WorksOff.noneClosed (h : WorksOff body c sources first passes p acts s) : s.NoneClosed := by
  induction h with
  | start _ _ hopen => exact hopen
  | step _ now running _ _ ih =>
    intro id after hafter
    obtain ⟨q, hq, hsame⟩ := (step_spec _ now running _).closed hafter
    exact hsame.trans (ih id q hq)
  | others _ hopen => exact hopen

theorem Keeps.of_worksOff (hkeeps : Keeps body c QueueStore.NoneClosed inv)
    (h : WorksOff body c sources first passes p acts s) : inv p acts := by
  induction h with
  | start now hstart => exact hkeeps.start hstart
  | step hrun now running _ _ ih => exact hkeeps.step ih hrun.noneClosed (step_spec _ now running _)
  | others _ _ _ ih => exact ih

/-- Where nothing that a node sends comes back to its sources, it does not put anything into them. -/
theorem WorksOff.puts_eq_nil (h : WorksOff body c sources first passes p acts s)
    (hapart : ∀ place, ∀ queue ∈ c.destinations place, queue ∉ sources) {next : Process} {now : Nat} {running : Bool}
    {t : QueueStore Message} {deed : Deed} (hstep : p.Step now running s deed next t) {id : QueueId}
    (hid : id ∈ sources) : deed.puts id = [] := by
  have hregular := (keeps_regular body c QueueStore.NoneClosed).of_worksOff h
  cases hstep with
  | delivered d rest q hlive hnext =>
    have hd : d ∈ acts.flatMap Act.put ++ p.outbox := by
      rw [hnext]
      exact List.mem_append_right _ List.mem_cons_self
    rw [Deed.puts, if_neg]
    rintro rfl
    exact hapart d.place d.queue (hregular.outbox d hd) hid
  | _ => rfl

/-- With nobody else around, such a node works off its sources in any number of steps. -/
theorem WorksOff.alone (hapart : ∀ place, ∀ queue ∈ c.destinations place, queue ∉ sources) {solo : Solo}
    (hrunning : solo.running = true) (h : WorksOff body c sources first passes solo.process acts solo.store) (n : Nat) :
    ∃ passes acts, WorksOff body c sources first passes ((fun solo => (Solo.step solo).2)^[n] solo).process acts
      ((fun solo => (Solo.step solo).2)^[n] solo).store := by
  induction n generalizing solo passes acts with
  | zero => exact ⟨_, _, h⟩
  | succ n ih =>
    have hnext := h.step solo.now solo.running (fun hstopped => absurd (hrunning.symm.trans hstopped) Bool.noConfusion)
      fun id hid => h.puts_eq_nil hapart (step_spec _ _ _ _) hid
    exact ih hrunning hnext

end Process

end FrameGraph
