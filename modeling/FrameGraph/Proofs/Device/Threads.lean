import FrameGraph.Proofs.Device.Flow
import FrameGraph.Proofs.Process.Acts

/-!
# One thread in a course

* `Thread.post?`: what a thread is about to run, if it can be compared. `thread_of_posts` goes back to the threads.
* `Device.acts`: what the node of a thread has done in a course.
* `Device.Serving`: a thread that has a property in its context, with `Serving.step`.
* `Process.Keeps.run_cases`: what a node keeps is true of its thread after any course, unless it panics at its beginning.
  `Process.Keeps.run` and `Process.Keeps.run_delivering` are for nodes that do not panic.
* `Device.Fresh.sources`, `Device.Fresh.destinations`: a thread takes only from the queues that its node looks at, and
  puts only into those behind its places.
-/

namespace FrameGraph
set_option autoImplicit false

/-! ## Phases -/

deriving instance DecidableEq for Call, Move

/-- The settings of a built-in node that has not been told of any output. -/
def Body.settings? : Body → Option NodeConfig
  | camera ⟨config, []⟩ => some (.camera config)
  | neuralNetwork config => some (.neuralNetwork config)
  | streamSync config => some (.streamSync config)
  | xlinkIn config => some (.xlinkIn config)
  | xlinkOut config => some (.xlinkOut config)
  | producer config => some (.producer config)
  | camera _ | plugin _ => none

/-- A thread that is about to run such a node. Unlike threads, these can be compared. -/
def Thread.post? (t : Thread) : Option (Context × NodeConfig) :=
  match t.phase with
  | .entering body => body.settings?.map fun config => (t.context, config)
  | _ => none

theorem Thread.eq_of_post? {t : Thread} {c : Context} {config : NodeConfig} (h : t.post? = some (c, config)) :
    t = ⟨c, .entering config.body⟩ := by
  obtain ⟨context, phase⟩ := t
  cases phase with
  | entering body =>
    obtain ⟨settings, hsettings, hsame⟩ := Option.map_eq_some_iff.mp h
    obtain ⟨rfl, rfl⟩ := Prod.mk.inj hsame
    have hbody : body = settings.body := by
      unfold Body.settings? at hsettings
      split at hsettings <;> cases hsettings <;> rfl
    rw [hbody]
  | _ => cases h

theorem thread_of_posts {threads : List Thread} {posts : List (Context × NodeConfig)}
    (h : threads.map Thread.post? = posts.map some) (index : Nat) (e : Context × NodeConfig) (he : posts[index]? = some e) :
    threads[index]? = some ⟨e.1, .entering e.2.body⟩ := by
  have hat := congrArg (fun l => l[index]?) h
  simp only [List.getElem?_map, he, Option.map_some] at hat
  obtain ⟨t, ht, hpost⟩ := Option.map_eq_some_iff.mp hat
  rw [ht, Thread.eq_of_post? hpost]

/-- What a node is about to deliver. -/
def Phase.outbox : Phase → List Delivery
  | working p => p.outbox
  | _ => []

/-- A property of a node at work and of what it has done, seen from the thread of the node. -/
def Phase.Holds (body : Body) (inv : Process → List Act → Prop) (acts : List Act) : Phase → Prop
  | entering b | announcing b => b = body ∧ acts = []
  | working p => inv p acts
  | failing _ | stopping | leaving => ∃ p, p.result.isSome = true ∧ inv p acts
  -- A node that has panicked at its beginning has done nothing.
  | gone => acts = [] ∨ ∃ p, p.result.isSome = true ∧ inv p acts

namespace Device
variable {d next : Device} {t : Thread} {body : Body} {c : Context} {good : QueueStore Message → Prop}
  {inv : Process → List Act → Prop} {done : List Act}

theorem holds_afterRun {p : Process} (hover : p.result.isSome = true) (hp : inv p done) (running : Bool)
    (result : Except RuntimeError Unit) : (Phase.afterRun running result).Holds body inv done := by
  have hend : ∃ p, p.result.isSome = true ∧ inv p done := ⟨p, hover, hp⟩
  cases result with
  | ok => exact hend
  | error e =>
    rw [Phase.afterRun]
    split <;> exact hend

def Turn.acts (d : Device) (phase : Phase) (deed : Deed) : List Act :=
  (phase.process?.map fun p => (⟨p.work, d.now, deed⟩ : Act)).toList

theorem Turn.holds {deed : Deed} {phase : Phase} (hkeeps : Process.Keeps body c good inv) (ht : t.context = c)
    (hphase : t.phase.Holds body inv done) (h : d.Turn t deed phase next) (hgood : good d.store) :
    phase.Holds body inv (done ++ Turn.acts d t.phase deed) := by
  cases h with
  | enters other hentering =>
    rw [hentering] at hphase ⊢
    simpa [Turn.acts, Phase.process?, Phase.Holds] using hphase
  | announces other hannouncing p hstart =>
    rw [hannouncing] at hphase ⊢
    obtain ⟨rfl, rfl⟩ := hphase
    rw [ht] at hstart
    exact hkeeps.start hstart
  | panics other hannouncing panic hstart =>
    rw [hannouncing] at hphase ⊢
    obtain ⟨rfl, rfl⟩ := hphase
    exact .inl rfl
  | works p after deed store hworking hlive hstep =>
    rw [hworking] at hphase ⊢
    exact hkeeps.step hphase hgood hstep
  | finishes p result hworking hresult =>
    rw [hworking] at hphase ⊢
    have hover : p.result.isSome = true := by rw [hresult]; rfl
    have hrested : p.Step d.now d.running d.store .rested p d.store := .rested hover
    exact holds_afterRun hover (hkeeps.step hphase hgood hrested) _ _
  | leaves hleaving =>
    rw [hleaving] at hphase ⊢
    simpa [Turn.acts, Phase.process?, Phase.Holds] using .inr hphase
  | fails _ hphase' | stops hphase' | rests hphase' =>
    rw [hphase'] at hphase ⊢
    simpa [Turn.acts, Phase.process?, Phase.Holds] using hphase

/-! ## Threads -/

/-- Where there is no thread, or none any more, its phase counts as the last one. -/
def phaseAt (d : Device) (index : Nat) : Phase :=
  (d.threads[index]?.map Thread.phase).getD .gone

/-- What a thread notes down of a move. -/
def actsAt (d : Device) (index : Nat) : Move → List Act
  | .thread other => if other = index then Turn.acts d (d.phaseAt index) (d.deed index) else []
  | _ => []

/-- What the node of a thread has done in a course. -/
def acts (d : Device) (index : Nat) (moves : List Move) : List Act :=
  along (fun d m => d.actsAt index m) d moves

theorem party_eq_thread {index : Nat} {m : Move} : m.party = .thread index ↔ m = .thread index := by
  cases m <;> simp [Move.party]

theorem actsAt_of_other {index : Nat} {m : Move} (h : m.party ≠ .thread index) (d : Device) : d.actsAt index m = [] := by
  cases m with
  | thread other => exact if_neg fun hsame => h (by rw [hsame]; rfl)
  | _ => rfl

theorem acts_concat (d : Device) (index : Nat) (moves : List Move) (m : Move) :
    d.acts index (moves ++ [m]) = d.acts index moves ++ (d.course moves).actsAt index m :=
  along_concat ..

theorem course_begin {index : Nat} (ht : d.threads[index]? = some ⟨c, .entering body⟩) :
    d.course [.thread index, .thread index] = { (d.advanceState c.node .running).publish (.started c.node c.name) with
      threads := d.threads.set index ⟨c, .begun (Process.start body c d.now)⟩ } := by
  have hlt := (List.getElem?_eq_some_iff.mp ht).1
  have hself : (d.threads.set index ⟨c, .announcing body⟩)[index]? = some ⟨c, .announcing body⟩ := List.getElem?_set_self hlt
  have hfirst : d.move (.thread index) =
      { d.advanceState c.node .running with threads := d.threads.set index ⟨c, .announcing body⟩ } := by
    simp only [move, stepThread, ht, stepPhase]
    rfl
  have hsecond (e : Device) (he : e.threads = d.threads.set index ⟨c, .announcing body⟩) : e.move (.thread index) =
      { e.publish (.started c.node c.name) with threads := d.threads.set index ⟨c, .begun (Process.start body c e.now)⟩ } := by
    simp only [move, stepThread, he, hself, stepPhase, threads_publish, List.set_set]
    rfl
  simp only [course, List.foldl_cons, List.foldl_nil, hfirst]
  rw [hsecond _ rfl]
  unfold publish
  split <;> rfl

/-- A thread in its context, with a node of which something is true. -/
structure Serving (body : Body) (c : Context) (inv : Process → List Act → Prop) (index : Nat) (d : Device)
    (done : List Act) : Prop where
  context : ∀ t, d.threads[index]? = some t → t.context = c
  phase : (d.phaseAt index).Holds body inv done

theorem Serving.of_eq {index : Nat} (h : Serving body c inv index d done) (hthreads : next.threads = d.threads) :
    Serving body c inv index next done where
  context := by
    rw [hthreads]
    exact h.context
  phase := by
    rw [phaseAt, hthreads]
    exact h.phase

theorem phaseAt_of_absent {index : Nat} (h : d.threads[index]? = none) : d.phaseAt index = .gone := by
  rw [phaseAt, h]
  rfl

theorem phaseAt_of_thread {index : Nat} (h : d.threads[index]? = some t) : d.phaseAt index = t.phase := by
  rw [phaseAt, h]
  rfl

theorem Serving.turn {index other : Nat} (hkeeps : Process.Keeps body c good inv) (h : Serving body c inv index d done)
    (hgood : good d.store) {phase : Phase} (ht : d.threads[other]? = some t) (hturn : d.Turn t (d.deed other) phase next) :
    Serving body c inv index { next with threads := d.threads.set other { t with phase } }
      (done ++ d.actsAt index (.thread other)) := by
  obtain ⟨hlt, -⟩ := List.getElem?_eq_some_iff.mp ht
  by_cases hindex : other = index
  · subst hindex
    have hself : (d.threads.set other { t with phase })[other]? = some { t with phase } := List.getElem?_set_self hlt
    have hphase := h.phase
    rw [phaseAt_of_thread ht] at hphase
    rw [actsAt, if_pos rfl, phaseAt_of_thread ht]
    refine ⟨fun t' ht' => ?_, ?_⟩
    · obtain rfl := Option.some.inj (hself.symm.trans ht')
      exact h.context t ht
    · rw [phaseAt_of_thread hself]
      exact hturn.holds hkeeps (h.context t ht) hphase hgood
  · have hsame : (d.threads.set other { t with phase })[index]? = d.threads[index]? := List.getElem?_set_ne hindex
    rw [actsAt, if_neg hindex, List.append_nil]
    refine ⟨fun t' ht' => h.context t' (hsame ▸ ht'), ?_⟩
    rw [phaseAt, hsame]
    exact h.phase

theorem Serving.step {index : Nat} {m : Move} (hkeeps : Process.Keeps body c good inv)
    (h : Serving body c inv index d done) (hgood : good d.store) (hstep : d.Step m next) :
    Serving body c inv index next (done ++ d.actsAt index m) := by
  cases hstep with
  | absent other hnone =>
    have hnothing : d.actsAt index (.thread other) = [] := by
      rw [actsAt]
      split
      · rename_i hindex
        rw [← hindex, phaseAt_of_absent hnone]
        rfl
      · rfl
    rwa [hnothing, List.append_nil]
  | turn other t phase after ht hturn => exact h.turn hkeeps hgood ht hturn
  | finishes pick hclosing hgone =>
    have hphase : d.phaseAt index = .gone := by
      cases ht : d.threads[index]? with
      | none => exact phaseAt_of_absent ht
      | some t =>
        have hthere := hgone t (List.mem_of_getElem? ht)
        rw [phaseAt_of_thread ht]
        cases hlast : t.phase with
        | gone => rfl
        | _ =>
          rw [hlast] at hthere
          cases hthere
    have hnone : d.finishClosing.threads = [] := by simp [finishClosing]
    rw [actsAt_of_other (by simp [Move.party]), List.append_nil]
    refine ⟨fun t ht => ?_, ?_⟩
    · rw [hnone] at ht
      cases ht
    · have hlast := h.phase
      rw [hphase] at hlast
      rw [phaseAt, hnone]
      exact hlast
  | _ =>
    rw [actsAt_of_other (by simp [Move.party]), List.append_nil]
    exact h.of_eq rfl

end Device

open Device

/-- What a node keeps is true of it after any course, unless it has done nothing, and what it is about to deliver is in
the hands of its thread. -/
theorem Process.Keeps.run_cases {body : Body} {c : Context} {good : QueueStore Message → Prop}
    {inv : Process → List Act → Prop} (hkeeps : Keeps body c good inv) {d : Device} {index : Nat} {moves : List Move}
    (ht : d.threads[index]? = some ⟨c, .entering body⟩) (hgood : ∀ before, before <+: moves → good (d.course before).store) :
    (d.acts index moves = [] ∧ ((d.course moves).phaseAt index).outbox = []) ∨
    ∃ p, inv p (d.acts index moves) ∧ Regular body c p (d.acts index moves) ∧
      ((d.course moves).phaseAt index).outbox = p.outbox := by
  have hboth := hkeeps.and (keeps_regular body c good)
  have hserving : Serving body c (fun p acts => inv p acts ∧ Regular body c p acts) index (d.course moves)
      (d.acts index moves) := by
    induction moves using List.reverseRecOn with
    | nil =>
      refine ⟨fun t ht' => ?_, ?_⟩
      · obtain rfl := Option.some.inj (ht.symm.trans ht')
        rfl
      · change (d.phaseAt index).Holds _ _ _
        rw [phaseAt_of_thread ht]
        exact ⟨rfl, rfl⟩
    | append_singleton before m ih =>
      have hpre := List.prefix_append before [m]
      have hbefore := ih fun first hfirst => hgood first (hfirst.trans hpre)
      rw [course_concat, acts_concat]
      exact hbefore.step hboth (hgood before hpre) ((d.course before).move_spec m)
  have hphase := hserving.phase
  cases hlast : (d.course moves).phaseAt index with
  | entering b | announcing b =>
    rw [hlast] at hphase
    exact .inl ⟨hphase.2, rfl⟩
  | working p =>
    rw [hlast] at hphase
    exact .inr ⟨p, hphase.1, hphase.2, rfl⟩
  | failing | stopping | leaving =>
    rw [hlast] at hphase
    obtain ⟨p, hover, hinv, hregular⟩ := hphase
    exact .inr ⟨p, hinv, hregular, (hregular.settled hover).symm⟩
  | gone =>
    rw [hlast] at hphase
    rcases hphase with hnothing | ⟨p, hover, hinv, hregular⟩
    · exact .inl ⟨hnothing, rfl⟩
    · exact .inr ⟨p, hinv, hregular, (hregular.settled hover).symm⟩

/-- A node that has done nothing is as it would be at its start, if it does not panic there. -/
theorem Process.Keeps.run {body : Body} {c : Context} {good : QueueStore Message → Prop}
    {inv : Process → List Act → Prop} (hkeeps : Keeps body c good inv) (hpaced : body.Paced) {d : Device} {index : Nat}
    {moves : List Move} (ht : d.threads[index]? = some ⟨c, .entering body⟩)
    (hgood : ∀ before, before <+: moves → good (d.course before).store) :
    ∃ p, inv p (d.acts index moves) ∧ Regular body c p (d.acts index moves) ∧
      ((d.course moves).phaseAt index).outbox = p.outbox := by
  rcases hkeeps.run_cases ht hgood with ⟨hnothing, houtbox⟩ | hrun
  · obtain ⟨p, hstart⟩ := exists_start hpaced c 0
    rw [hnothing, houtbox]
    exact ⟨p, hkeeps.start hstart, (keeps_regular body c good).start hstart, (start_fields hstart).2.2.symm⟩
  · exact hrun

/-- As long as the queues behind its places stay open, what a node had to send has been delivered or is in the hands of
its thread. -/
theorem Process.Keeps.run_delivering {body : Body} {c : Context} {inv : Process → List Act → Prop}
    (hkeeps : Keeps body c (fun _ => True) inv) (hpaced : body.Paced) (places : Place → Prop)
    (hplaces : ∀ p acts, inv p acts → ∀ e ∈ acts.flatMap Act.sent, places e.place) {d : Device} {index : Nat}
    {moves : List Move} (ht : d.threads[index]? = some ⟨c, .entering body⟩)
    (hopen : ∀ place, places place → ∀ queue ∈ c.destinations place, d.Steady moves queue) :
    ∃ p, inv p (d.acts index moves) ∧ Regular body c p (d.acts index moves) ∧
      (d.acts index moves).flatMap Act.put ++ ((d.course moves).phaseAt index).outbox =
        ((d.acts index moves).flatMap Act.sent).flatMap c.deliveries := by
  have hweak : Keeps body c (fun s => ∀ place, places place → ∀ queue ∈ c.destinations place, ∀ q,
      s.get? queue = some q → q.closed = false) inv := hkeeps.weaken fun _ _ => trivial
  have hdelivering := hweak.delivering fun p acts s hinv hgood e he => hgood e.place (hplaces p acts hinv e he)
  obtain ⟨p, ⟨⟨hinv, -⟩, hbooks⟩, hregular, houtbox⟩ := hdelivering.run hpaced ht
    fun before hpre place hplace queue hqueue q hq => (hopen place hplace queue hqueue).isOpen hpre hq
  exact ⟨p, hinv, hregular, by rw [houtbox]; exact hbooks⟩

namespace Device
variable {d : Device} {moves : List Move} {id : QueueId} {index : Nat}

/-! ## Queues of a thread -/

theorem deed_eq (d : Device) (index : Nat) : d.deed index = d.deedOf (d.phaseAt index) := by
  rw [deed, phaseAt]
  cases d.threads[index]? <;> rfl

theorem puts_thread (d : Device) (index : Nat) (id : QueueId) :
    d.puts id (.thread index) = messagesInto id ((d.actsAt index (.thread index)).flatMap Act.put) := by
  rw [puts, actsAt, if_pos rfl, Turn.acts]
  cases hphase : d.phaseAt index with
  | working p =>
    have hact := puts_eq id ⟨p.work, d.now, d.deed index⟩
    simpa [Phase.process?] using hact
  | _ =>
    rw [deed_eq, hphase]
    rfl

theorem takes_thread (d : Device) (index : Nat) (id : QueueId) :
    d.takes id (.thread index) = messagesFrom id ((d.actsAt index (.thread index)).flatMap Act.intake) := by
  rw [takes, actsAt, if_pos rfl, Turn.acts]
  cases hphase : d.phaseAt index with
  | working p =>
    have hact := takes_eq id ⟨p.work, d.now, d.deed index⟩
    simpa [Phase.process?] using hact
  | _ =>
    rw [deed_eq, hphase]
    rfl

theorem put_thread (d : Device) (index : Nat) (id : QueueId) (moves : List Move) :
    d.put (.thread index) id moves = messagesInto id ((d.acts index moves).flatMap Act.put) := by
  induction moves using List.reverseRecOn with
  | nil => rfl
  | append_singleton before m ih =>
    rw [put, along_concat, acts_concat, List.flatMap_append, messagesInto_append, ← ih, put]
    congr 1
    split
    · rename_i hparty
      rw [party_eq_thread.mp hparty, puts_thread]
    · rename_i hparty
      rw [actsAt_of_other hparty]
      rfl

theorem got_thread (d : Device) (index : Nat) (id : QueueId) (moves : List Move) :
    d.got (.thread index) id moves = messagesFrom id ((d.acts index moves).flatMap Act.intake) := by
  induction moves using List.reverseRecOn with
  | nil => rfl
  | append_singleton before m ih =>
    rw [got, along_concat, acts_concat, List.flatMap_append, messagesFrom_append, ← ih, got]
    congr 1
    split
    · rename_i hparty
      rw [party_eq_thread.mp hparty, takes_thread]
    · rename_i hparty
      rw [actsAt_of_other hparty]
      rfl

theorem Step.stays_absent {m : Move} {next : Device} (h : d.Step m next) (hnone : d.threads[index]? = none) :
    next.threads[index]? = none := by
  cases h with
  | turn other t phase after ht =>
    rw [List.getElem?_eq_none_iff] at hnone ⊢
    exact (List.length_set ..).symm ▸ hnone
  | finishes => simp [finishClosing]
  | _ => exact hnone

theorem threads_absent (hnone : d.threads[index]? = none) (moves : List Move) :
    (d.course moves).threads[index]? = none := by
  induction moves using List.reverseRecOn with
  | nil => exact hnone
  | append_singleton before m ih =>
    rw [course_concat]
    exact ((d.course before).move_spec m).stays_absent ih

def Fresh (d : Device) : Prop :=
  ∀ t ∈ d.threads, ∃ body, t.phase = .entering body

/-- What a thread does at its turn keeps to its node and to its context. -/
theorem Fresh.actsAt_cases (h : d.Fresh) (before : List Move) (index : Nat) :
    (d.course before).actsAt index (.thread index) = [] ∨
    ∃ (c : Context) (body : Body) (p : Process), d.threads[index]? = some ⟨c, .entering body⟩ ∧
      p.Regular body c (d.acts index before ++ (d.course before).actsAt index (.thread index)) := by
  cases ht : d.threads[index]? with
  | none =>
    rw [actsAt, phaseAt_of_absent (threads_absent ht before)]
    exact .inl (if_pos rfl)
  | some t =>
    obtain ⟨c, phase⟩ := t
    obtain ⟨body, hphase⟩ := h _ (List.mem_of_getElem? ht)
    obtain rfl : phase = .entering body := hphase
    have hgood : ∀ first, first <+: before ++ [.thread index] → (fun _ => True) (d.course first).store := fun _ _ => trivial
    rcases (Process.keeps_regular body c fun _ => True).run_cases ht hgood with ⟨hnothing, -⟩ | ⟨p, -, hregular, -⟩ <;>
      rw [acts_concat] at *
    · exact .inl (List.append_eq_nil_iff.mp hnothing).2
    · exact .inr ⟨c, body, p, rfl, hregular⟩

/-- A thread takes only from queues that its node looks at. -/
theorem Fresh.sources (h : d.Fresh) {before : List Move} (htakes : (d.course before).takes id (.thread index) ≠ []) :
    ∃ c body, d.threads[index]? = some ⟨c, .entering body⟩ ∧
      ∃ place repeatedly, Poll.look place id repeatedly ∈ body.agenda c := by
  rw [takes_thread] at htakes
  rcases h.actsAt_cases before index with hnone | ⟨c, body, p, ht, hregular⟩
  · rw [hnone] at htakes
    exact absurd rfl htakes
  · refine ⟨c, body, ht, ?_⟩
    obtain ⟨m, hm⟩ := List.exists_mem_of_ne_nil _ htakes
    obtain ⟨i, hi, -⟩ := List.mem_map.mp hm
    obtain ⟨hi, hqueue⟩ := List.mem_filter.mp hi
    obtain ⟨repeatedly, hlook⟩ := hregular.intake i (by rw [List.flatMap_append]; exact List.mem_append_right _ hi)
    exact ⟨i.place, repeatedly, beq_iff_eq.mp hqueue ▸ hlook⟩

/-- A thread puts only into queues behind the places of its node. -/
theorem Fresh.destinations (h : d.Fresh) {before : List Move} (hputs : (d.course before).puts id (.thread index) ≠ []) :
    ∃ c body, d.threads[index]? = some ⟨c, .entering body⟩ ∧ ∃ place, id ∈ c.destinations place := by
  rw [puts_thread] at hputs
  rcases h.actsAt_cases before index with hnone | ⟨c, body, p, ht, hregular⟩
  · rw [hnone] at hputs
    exact absurd rfl hputs
  · refine ⟨c, body, ht, ?_⟩
    obtain ⟨m, hm⟩ := List.exists_mem_of_ne_nil _ hputs
    obtain ⟨e, he, -⟩ := List.mem_map.mp hm
    obtain ⟨he, hqueue⟩ := List.mem_filter.mp he
    have hmem := hregular.outbox e (by
      rw [List.flatMap_append]
      exact List.mem_append_left _ (List.mem_append_right _ he))
    exact ⟨e.place, beq_iff_eq.mp hqueue ▸ hmem⟩

end Device

end FrameGraph
