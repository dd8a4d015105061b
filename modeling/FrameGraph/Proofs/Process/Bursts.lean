import FrameGraph.Proofs.Process.Roles
import FrameGraph.Proofs.Process.WorkingOff
import FrameGraph.Proofs.Synchronizer.Turns
import Mathlib.Algebra.BigOperators.Group.List.Basic
import Mathlib.Algebra.GroupWithZero.Nat
import Mathlib.Data.List.FinRange
import Mathlib.Data.List.Infix

/-!
# Bursts at a synchronizing node

All streams have brought a burst of messages before the node begins, and the messages at the same place in their bursts
belong together. The node takes one message of every stream in each pass, so it sends one set in each pass, and nothing is
lost even if it has room for no more than one message of a stream.

* `StreamSync.sources`, `StreamSync.looks`: where a synchronizing node takes its streams from.
* `Process.InTurn`: where the node is between two of its steps. `Process.InTurn.step` and `Process.inTurn_of_worksOff` are
  the step and the run.
* `Process.bursts_leave_in_order`: what has left when.
-/

namespace FrameGraph
set_option autoImplicit false

/-! ## The streams of a synchronizing node -/

namespace StreamSync

/-- The streams that enter at a node, each with the queue of its input. -/
def sources (c : Context) : List (String × QueueId) :=
  c.inputs.filterMap fun entry => (streamOfKey? entry.1).map fun stream => (stream, entry.2)

/-- The streams in the order in which the node goes over them. -/
abbrev streams (c : Context) : List String :=
  streamsOf (c.inputs.map Prod.fst)

/-- The looks into the inputs of some streams, one after the other. -/
def looks (c : Context) (streams : List String) : Agenda :=
  Agenda.each c (streams.map inputKey)

variable {c : Context}

theorem mem_sources_iff {e : String × QueueId} : e ∈ sources c ↔ (inputKey e.1, e.2) ∈ c.inputs := by
  rw [sources, List.mem_filterMap]
  constructor
  · rintro ⟨entry, hentry, hsource⟩
    obtain ⟨stream, hstream, rfl⟩ := Option.map_eq_some_iff.mp hsource
    rw [← streamOfKey?_eq_some_iff.mp hstream]
    exact hentry
  · intro hentry
    exact ⟨_, hentry, by rw [streamOfKey?_eq_some_iff.mpr rfl]; rfl⟩

theorem streams_perm (c : Context) : (streams c).Perm ((sources c).map Prod.fst) := by
  have hsame : (c.inputs.map Prod.fst).filterMap streamOfKey? = (sources c).map Prod.fst := by
    simp only [sources, List.filterMap_map, List.map_filterMap, Option.map_map, Function.comp_def, Option.map_id']
  rw [← hsame]
  exact List.mergeSort_perm _ _

theorem input?_of_mem (hdistinct : ((sources c).map Prod.fst).Nodup) {e : String × QueueId} (he : e ∈ sources c) :
    c.input? (inputKey e.1) = some e.2 := by
  have hsome : (c.inputs.find? fun entry => entry.1 == inputKey e.1).isSome = true :=
    List.find?_isSome.mpr ⟨_, mem_sources_iff.mp he, beq_self_eq_true _⟩
  obtain ⟨⟨key, queue⟩, hfound⟩ := Option.isSome_iff_exists.mp hsome
  obtain rfl : key = inputKey e.1 := by simpa using List.find?_some hfound
  have hsame : ((e.1, queue) : String × QueueId) = e :=
    List.inj_on_of_nodup_map hdistinct (mem_sources_iff.mpr (List.mem_of_find?_eq_some hfound)) he rfl
  rw [Context.input?, hfound, Option.map_some, ← hsame]

theorem looks_cons {stream : String} {queue : QueueId} (h : c.input? (inputKey stream) = some queue)
    (rest : List String) :
    looks c (stream :: rest) = .look (.port (inputKey stream)) queue false :: looks c rest := by
  simp [looks, Agenda.each, h]

/-! ### Sets of rounds -/

section
variable {rounds : Nat} {names : List String} {item : String → Fin rounds → Message}

theorem messagesAt_roundSet (hnodup : names.Nodup) {n : String} (hn : n ∈ names) (k : Fin rounds) :
    messagesAt (.port (outputKey n)) (emissions (Synchronizer.roundSet names item k)) = [item n k] := by
  have hnames : (Synchronizer.roundSet names item k).entries.map Prod.fst = names := by
    simp [Synchronizer.roundSet, Function.comp_def]
  obtain ⟨m, hm, hone⟩ := one_emission (hnames.symm ▸ hnodup) (hnames.symm ▸ hn)
  obtain ⟨other, -, hsame⟩ := List.mem_map.mp hm
  obtain ⟨rfl, rfl⟩ := Prod.mk.inj hsame
  exact hone

theorem messagesAt_rounds (hnodup : names.Nodup) {n : String} (hn : n ∈ names) (k : Nat) :
    messagesAt (.port (outputKey n)) (((List.ofFn (Synchronizer.roundSet names item)).take k).flatMap emissions) =
      (List.ofFn (item n)).take k := by
  rw [messagesAt_flatMap, List.ofFn_eq_map, List.ofFn_eq_map, ← List.map_take, ← List.map_take, List.flatMap_map,
    List.map_eq_flatMap]
  exact congrArg (List.flatMap · _) (funext fun j => messagesAt_roundSet hnodup hn j)

/-- A set goes to all queues behind the outputs of the streams. -/
theorem length_deliveries_rounds (c : Context) (k : Nat) :
    ((((List.ofFn (Synchronizer.roundSet names item)).take k).flatMap emissions).flatMap c.deliveries).length =
      min k rounds * (names.map fun n => (c.consumers (outputKey n)).length).sum := by
  have hone (j : Fin rounds) : ((emissions (Synchronizer.roundSet names item j)).flatMap c.deliveries).length =
      (names.map fun n => (c.consumers (outputKey n)).length).sum := by
    simp [emissions, Synchronizer.roundSet, List.length_flatMap, Context.deliveries, Emission.onPort,
      Context.destinations, Function.comp_def]
  rw [List.flatMap_assoc, List.ofFn_eq_map, ← List.map_take, List.flatMap_map, List.length_flatMap]
  simp [hone]

end

end StreamSync

/-! ## Turns -/

namespace Process
open StreamSync
variable {rounds : Nat} {c : Context} {config : StreamSyncConfig} {item : String → Fin rounds → Message} {passes : Nat}
  {p : Process} {acts : List Act} {s : QueueStore Message} {left : List String}

/-- Where a node is between two of its steps. In the last pass that it has begun it still has to look for the streams that
are left. It has taken what the streams before them have for this round, and everything of the rounds before. -/
structure InTurn (c : Context) (item : String → Fin rounds → Message) (passes : Nat) (p : Process) (acts : List Act)
    (s : QueueStore Message) (left : List String) : Prop where
  suffix : left <:+ streams c
  todo : p.todo = looks c left
  rest : passes = 0 → left = []
  taken : pushes (acts.flatMap Act.intake) ++ turn item left (passes - 1) =
    turns item (streams c) passes
  held : ∀ e ∈ sources c, s.held? e.2 =
    some ((List.ofFn (item e.1)).drop (arrivals e.1 (pushes (acts.flatMap Act.intake))).length)
  idle : rounds < passes → p.outbox = []
  count : p.result = none → progress acts + left.length =
    passes * ((streams c).length + 1) + (acts.flatMap Act.put).length
  settled : p.result.isSome = true → p.result = some (.ok ()) ∧ rounds ≤ passes ∧ left = [] ∧ p.outbox = []

section
variable (hdistinct : ((sources c).map Prod.fst).Nodup)
include hdistinct

theorem input?_of_suffix {n : String} {rest : List String} (h : n :: rest <:+ streams c) :
    ∃ queue, (n, queue) ∈ sources c ∧ c.input? (inputKey n) = some queue := by
  obtain ⟨e, he, rfl⟩ := List.mem_map.mp ((streams_perm c).mem_iff.mp (h.subset List.mem_cons_self))
  exact ⟨e.2, he, input?_of_mem hdistinct he⟩

theorem InTurn.left_of_todo (h : InTurn c item passes p acts s left) (hnext : p.todo = []) : left = [] := by
  cases left with
  | nil => rfl
  | cons n rest =>
    obtain ⟨queue, -, hinput⟩ := input?_of_suffix hdistinct h.suffix
    rw [h.todo, looks_cons hinput] at hnext
    cases hnext

theorem InTurn.left_of_look (h : InTurn c item passes p acts s left) {poll : Poll} {rest : Agenda}
    (hnext : p.todo = poll :: rest) : ∃ n queue others, left = n :: others ∧ (n, queue) ∈ sources c ∧
      poll = .look (.port (inputKey n)) queue false ∧ rest = looks c others := by
  cases left with
  | nil => rw [h.todo] at hnext; cases hnext
  | cons n others =>
    obtain ⟨queue, hsource, hinput⟩ := input?_of_suffix hdistinct h.suffix
    rw [h.todo, looks_cons hinput] at hnext
    obtain ⟨rfl, rfl⟩ := List.cons.inj hnext
    exact ⟨n, queue, others, rfl, hsource, rfl, rfl⟩

/-- What is waiting for a node when the turn comes to a stream. -/
theorem InTurn.held_in_turn {n : String} {queue : QueueId} {others : List String}
    (h : InTurn c item passes p acts s (n :: others)) (hsource : (n, queue) ∈ sources c) :
    ∃ k, passes = k + 1 ∧ arrivals n (pushes (acts.flatMap Act.intake)) = (List.ofFn (item n)).take k ∧
      s.held? queue = some ((List.ofFn (item n)).drop k) := by
  obtain ⟨k, rfl⟩ : ∃ k, passes = k + 1 := by
    cases passes with
    | zero => cases h.rest rfl
    | succ k => exact ⟨k, rfl⟩
  have hnodup := (streams_perm c).nodup_iff.mpr hdistinct
  have harrivals : arrivals n (pushes (acts.flatMap Act.intake)) = (List.ofFn (item n)).take k :=
    arrivals_of_append_turn hnodup h.suffix h.taken
  refine ⟨k, rfl, harrivals, ?_⟩
  rw [h.held _ hsource, harrivals, List.length_take, List.length_ofFn]
  rcases Nat.le_total k rounds with hk | hk
  · rw [Nat.min_eq_left hk]
  · rw [Nat.min_eq_right hk, List.drop_of_length_le (by simp), List.drop_of_length_le (by simpa using hk)]

end

theorem InTurn.quiet (h : InTurn c item passes p acts s left) {a : Act} (hintake : a.intake = []) (hput : a.put = [])
    (hidle : a.deed.isIdle = true) : InTurn c item passes p (acts ++ [a]) s left where
  suffix := h.suffix
  todo := h.todo
  rest := h.rest
  taken := by simpa [hintake] using h.taken
  held := by simpa [hintake] using h.held
  idle := h.idle
  count := by simpa [hput, progress_concat, hidle] using h.count
  settled := h.settled

/-- What a step counts for in which the node gets on. -/
theorem InTurn.counted (h : InTurn c item passes p acts s left) (hlive : p.result = none) {a : Act}
    (hgot : a.deed.isIdle = false) : progress (acts ++ [a]) + left.length + a.put.length =
      passes * ((streams c).length + 1) + ((acts ++ [a]).flatMap Act.put).length + 1 := by
  have hcount := h.count hlive
  simp only [progress_concat, hgot, Bool.not_false, Bool.toNat_true, List.flatMap_append, List.flatMap_singleton,
    List.length_append]
  omega

/-- A delivery goes somewhere else than to the sources. -/
theorem InTurn.delivered (h : InTurn c item passes p acts s left) {now : Nat} {d : Delivery} {rest : List Delivery}
    {q after : Queue Message} (hlive : p.result = none) (hnext : p.outbox = d :: rest) (hq : s.get? d.queue = some q)
    (hapart : ∀ e ∈ sources c, e.2 ≠ d.queue) :
    InTurn c item passes (p.handedOver now rest) (acts ++ [⟨p.work, now, .delivered d⟩])
      { queues := s.queues.set d.queue after } left where
  suffix := h.suffix
  todo := h.todo
  rest := h.rest
  taken := by simpa [Act.intake] using h.taken
  held e he := by
    rw [QueueStore.held?, QueueStore.get?_set hq, if_neg (hapart e he), ← QueueStore.held?, h.held e he]
    simp [Act.intake]
  idle hover := by
    rw [h.idle hover] at hnext
    cases hnext
  count _ := Nat.succ_injective (h.counted hlive (a := ⟨p.work, now, .delivered d⟩) rfl)
  settled hover := by simp [handedOver, hlive] at hover

section
variable {now : Nat} {place : Place} {queue : QueueId} {repeatedly : Bool} {rest : Agenda} {q : Queue Message}
  (hdistinct : ((sources c).map Prod.fst).Nodup)
include hdistinct

/-- Where nothing is found, all rounds are over. -/
theorem InTurn.foundNothing (h : InTurn c item passes p acts s left) (hlive : p.result = none) (hidle : p.outbox = [])
    (hnext : p.todo = .look place queue repeatedly :: rest) (hempty : ∀ q, s.get? queue = some q → q.buffer = []) :
    ∃ others, InTurn c item passes { p with todo := rest } (acts ++ [⟨p.work, now, .looked⟩]) s others := by
  obtain ⟨n, source, others, rfl, hsource, hlook, hrest⟩ := h.left_of_look hdistinct hnext
  obtain ⟨-, rfl, -⟩ := Poll.look.inj hlook
  obtain ⟨k, rfl, -, hheld⟩ := h.held_in_turn hdistinct hsource
  have hpast : rounds ≤ k := by
    obtain ⟨q, hq, hbuffer⟩ := Option.map_eq_some_iff.mp hheld
    rw [hempty q hq] at hbuffer
    simpa using List.drop_eq_nil_iff.mp hbuffer.symm
  refine ⟨others, (List.suffix_cons n others).trans h.suffix, hrest, fun hzero => absurd hzero (Nat.succ_ne_zero _), ?_,
    by simpa [Act.intake] using h.held, fun _ => hidle, fun _ => ?_, fun hover => by simp [hlive] at hover⟩
  · have htaken := h.taken
    rw [Nat.add_sub_cancel, turn_of_le _ _ hpast] at htaken ⊢
    simpa [Act.intake] using htaken
  -- One step more has been taken, and one look less is left.
  · exact Nat.succ_injective (h.counted hlive (a := ⟨p.work, now, .looked⟩) rfl)

/-- What is found is the message of the round. -/
theorem InTurn.took (hqueues : ((sources c).map Prod.snd).Nodup) (h : InTurn c item passes p acts s left)
    {m : Message} {behind : List Message} {emissions : List Emission} {work : Work} (hlive : p.result = none)
    (hnext : p.todo = .look place queue repeatedly :: rest) (hq : s.get? queue = some q)
    (hbuffer : q.buffer = m :: behind) :
    ∃ others, InTurn c item passes ({ p with todo := if repeatedly then p.todo else rest }.respond emissions work)
      (acts ++ [⟨p.work, now, .took place queue m⟩]) { queues := s.queues.set queue { q with buffer := behind } }
      others := by
  obtain ⟨n, source, others, rfl, hsource, hlook, hrest⟩ := h.left_of_look hdistinct hnext
  obtain ⟨rfl, rfl, rfl⟩ := Poll.look.inj hlook
  obtain ⟨k, rfl, harrivals, hheld⟩ := h.held_in_turn hdistinct hsource
  have hwaiting : (List.ofFn (item n)).drop k = m :: behind := by
    rw [QueueStore.held?, hq, Option.map_some, hbuffer] at hheld
    exact (Option.some.inj hheld).symm
  have hk : k < rounds := by
    have hlength := congrArg List.length hwaiting
    simp only [List.length_drop, List.length_ofFn, List.length_cons] at hlength
    omega
  have hone : (List.ofFn (item n))[k]? = some m := by
    rw [← List.head?_drop, hwaiting, List.head?_cons]
  have hpushed : pushes (List.flatMap Act.intake (acts ++ [⟨p.work, now, .took (.port (inputKey n)) queue m⟩])) =
      pushes (acts.flatMap Act.intake) ++ [(n, m)] := by
    rw [List.flatMap_append, List.flatMap_singleton, Act.intake, pushes_concat]
    simp [pushes, streamOfKey?_eq_some_iff.mpr rfl]
  refine ⟨others, (List.suffix_cons n others).trans h.suffix, hrest, fun hzero => absurd hzero (Nat.succ_ne_zero _), ?_,
    fun e he => ?_, fun hover => absurd hover (by omega), fun _ => ?_, fun hover => by simp [hlive, respond] at hover⟩
  · rw [hpushed, ← h.taken, List.append_assoc, Nat.add_sub_cancel]
    rw [turn, turn, List.filterMap_cons_some (by rw [hone]; rfl)]
    rfl
  · rw [hpushed, arrivals_concat, QueueStore.held?, QueueStore.get?_set hq]
    by_cases hsame : e.2 = queue
    · obtain rfl : e = (n, queue) := List.inj_on_of_nodup_map hqueues he hsource hsame
      rw [if_pos rfl, if_pos rfl, harrivals, Option.map_some, List.length_append, List.length_take, List.length_ofFn,
        Nat.min_eq_left hk.le, List.length_singleton, ← List.tail_drop, hwaiting, List.tail_cons]
    · have hother : n ≠ e.1 := fun hname =>
        hsame (congrArg Prod.snd (List.inj_on_of_nodup_map hdistinct he hsource hname.symm))
      rw [if_neg hsame, ← QueueStore.held?, h.held e he, if_neg hother, List.append_nil]
  · exact Nat.succ_injective (h.counted hlive (a := ⟨p.work, now, .took (.port (inputKey n)) queue m⟩) rfl)

/-- A pass begins when the one before it is over. -/
theorem InTurn.began (h : InTurn c item passes p acts s left) (hlive : p.result = none) (hidle : p.outbox = [])
    (hnext : p.todo = []) (hagenda : p.agenda = looks c (streams c)) :
    InTurn c item (passes + 1) { p with todo := p.agenda } (acts ++ [⟨p.work, now, .looked⟩]) s
      (streams c) := by
  obtain rfl := h.left_of_todo hdistinct hnext
  refine ⟨List.suffix_refl _, hagenda, fun hzero => absurd hzero (Nat.succ_ne_zero _), ?_,
    by simpa [Act.intake] using h.held, fun _ => hidle, fun _ => ?_, fun hover => by simp [hlive] at hover⟩
  · have htaken := h.taken
    rw [turn_nil, List.append_nil] at htaken
    rw [Nat.add_sub_cancel, turns_succ, ← htaken]
    simp [Act.intake]
  · have hcount := h.counted hlive (a := ⟨p.work, now, .looked⟩) rfl
    simp only [List.length_nil, Act.put] at hcount
    rw [Nat.succ_mul]
    omega

/-- A node that is told to stop when nothing is left has gone through all rounds. -/
theorem InTurn.ended (hsome : sources c ≠ []) (h : InTurn c item passes p acts s left)
    (hnext : p.todo = []) (hempty : ∀ e ∈ sources c, s.held? e.2 = some []) :
    InTurn c item passes (p.finish (.ok ())) (acts ++ [⟨p.work, now, .ended (.ok ())⟩]) s [] := by
  obtain rfl := h.left_of_todo hdistinct hnext
  have hpast : rounds ≤ passes := by
    obtain ⟨e, he⟩ := List.exists_mem_of_ne_nil _ hsome
    have hstream := (streams_perm c).mem_iff.mpr (List.mem_map_of_mem he)
    have htaken := h.taken
    rw [turn_nil, List.append_nil] at htaken
    have hheld := (h.held e he).symm.trans (hempty e he)
    rw [htaken, arrivals_turns ((streams_perm c).nodup_iff.mpr hdistinct) hstream] at hheld
    have hlength := List.drop_eq_nil_iff.mp (Option.some.inj hheld)
    simp only [List.length_take, List.length_ofFn] at hlength
    omega
  exact ⟨h.suffix, rfl, fun _ => rfl, by simpa [Act.intake] using h.taken, by simpa [Act.intake] using h.held,
    fun _ => rfl, fun hlive => (nomatch hlive), fun _ => ⟨rfl, hpast, rfl, rfl⟩⟩

/-- All that one step can make of it. -/
theorem InTurn.step (hqueues : ((sources c).map Prod.snd).Nodup) (hsome : sources c ≠ [])
    (h : InTurn c item passes p acts s left) {next : Process} {running : Bool} {t : QueueStore Message} {deed : Deed}
    (hagenda : p.agenda = looks c (streams c)) (hmore : p.work.isDone = false)
    (hopen : s.NoneClosed) (hgoing : running = false → ∀ e ∈ sources c, s.held? e.2 = some [])
    (hnew : ∀ e ∈ sources c, deed.puts e.2 = []) (hstep : p.Step now running s deed next t) :
    ∃ left, InTurn c item (passes + (p.beginsPass running).toNat) next (acts ++ [⟨p.work, now, deed⟩]) t left := by
  have hpass (hno : p.beginsPass running = false) : passes + (p.beginsPass running).toNat = passes := by rw [hno]; rfl
  cases hstep with
  | rested hover =>
    rw [hpass (by simp [beginsPass, Option.isNone_eq_false_iff.mpr hover])]
    exact ⟨left, h.quiet rfl rfl rfl⟩
  | blocked d rest hlive hnext =>
    rw [hpass (by simp [beginsPass, hnext])]
    exact ⟨left, h.quiet rfl rfl rfl⟩
  | delivered d rest q hlive hnext hq =>
    rw [hpass (by simp [beginsPass, hnext])]
    refine ⟨left, h.delivered hlive hnext hq fun e he hsame => ?_⟩
    have hput := hnew e he
    simp [Deed.puts, hsame] at hput
  | refused d rest q hlive hnext hq hclosed =>
    rw [hopen _ q hq] at hclosed
    cases hclosed
  | denied place queue repeatedly rest q hlive hidle hnext hq hclosed =>
    rw [hopen _ q hq] at hclosed
    cases hclosed
  | foundNothing place queue repeatedly rest hlive hidle hnext hempty =>
    rw [hpass (by simp [beginsPass, hnext])]
    exact h.foundNothing hdistinct hlive hidle hnext hempty
  | took place queue repeatedly rest q m behind hlive hidle hnext hq _ hbuffer =>
    rw [hpass (by simp [beginsPass, hnext])]
    exact h.took hdistinct hqueues hlive hnext hq hbuffer
  | notDue rest hlive hidle hnext | ticked rest _ _ hlive hidle hnext =>
    obtain ⟨_, _, _, _, _, hlook, -⟩ := h.left_of_look hdistinct hnext
    cases hlook
  | ended hlive hidle hnext hend =>
    have hstopped : running = false := hend.resolve_right (by simp [hmore])
    rw [hpass (by simp [beginsPass, hstopped])]
    exact ⟨[], h.ended hdistinct hsome hnext (hgoing hstopped)⟩
  | began hlive hidle hnext hrunning =>
    have hbegins : p.beginsPass running = true := by simp [beginsPass, hlive, hidle, hnext, hrunning, hmore]
    rw [hbegins]
    exact ⟨_, h.began hdistinct hlive hidle hnext hagenda⟩

end

/-! ## What has left -/

/-- As many rounds have left as passes are over, or it is one more in the last pass. -/
theorem InTurn.passed (hdistinct : ((sources c).map Prod.fst).Nodup) (hsome : sources c ≠ [])
    (hroom : 1 ≤ config.sync.maxBacklog) (hnear : ∀ a ∈ streams c, ∀ b ∈ streams c, ∀ k,
      Timestamped.timestamp (item a k) ≤ Timestamped.timestamp (item b k) + config.sync.tolerance)
    (h : InTurn c item passes p acts s left) :
    ∃ k, Synchronizer.Passed config.sync item (streams c) (pushes (acts.flatMap Act.intake)) k ∧
      min (passes - 1) rounds ≤ k ∧ k ≤ min passes rounds ∧ (left = [] → k = min passes rounds) := by
  have hnodup := (streams_perm c).nodup_iff.mpr hdistinct
  have hnames : streams c ≠ [] := fun hnil => hsome (by simpa [hnil] using streams_perm c)
  cases passes with
  | zero =>
    have htaken := h.taken
    rw [h.rest rfl, turn_nil, List.append_nil] at htaken
    have hpassed := Synchronizer.passed_turns hnodup hroom hnames hnear 0
    rw [← htaken] at hpassed
    exact ⟨_, hpassed, le_rfl, le_rfl, fun _ => rfl⟩
  | succ k => exact Synchronizer.passed_within hnodup hroom hnames hnear h.suffix h.taken

/-- In each round a node begins a pass, looks for every stream and delivers the set, so that a bounded number of steps is
enough. -/
theorem InTurn.finished (h : InTurn c item passes p acts s left) {k consumers : Nat} (hlow : min (passes - 1) rounds ≤ k)
    (hhigh : k ≤ min passes rounds) (hdone : left = [] → k = min passes rounds)
    (hput : (acts.flatMap Act.put).length + p.outbox.length = k * consumers)
    (hend : p.result.isSome = true ∨ rounds * ((streams c).length + 1 + consumers) ≤ progress acts) :
    k = rounds ∧ p.outbox = [] := by
  by_cases hover : p.result.isSome = true
  · obtain ⟨-, hpast, hnone, hidle⟩ := h.settled hover
    exact ⟨by rw [hdone hnone, Nat.min_eq_right hpast], hidle⟩
  · have hprogress := hend.resolve_left hover
    have hcount := h.count (by simpa using hover)
    rcases Nat.lt_or_ge rounds passes with hlater | hpasses
    · exact ⟨by omega, h.idle hlater⟩
    · have hputs : k * consumers ≤ rounds * consumers := Nat.mul_le_mul_right _ (by omega)
      have hlooks : passes * ((streams c).length + 1) ≤ rounds * ((streams c).length + 1) := Nat.mul_le_mul_right _ hpasses
      rw [Nat.mul_add] at hprogress
      have hall : passes * ((streams c).length + 1) = rounds * ((streams c).length + 1) := by omega
      have hrounds : passes = rounds := Nat.eq_of_mul_eq_mul_right (Nat.succ_pos _) hall
      have hnone : left = [] := List.eq_nil_of_length_eq_zero (by omega)
      exact ⟨by rw [hdone hnone, hrounds, Nat.min_self], List.eq_nil_of_length_eq_zero (by omega)⟩

/-! ## Runs -/

section
variable {first : QueueStore Message} (hdistinct : ((sources c).map Prod.fst).Nodup)
  (hqueues : ((sources c).map Prod.snd).Nodup) (hsome : sources c ≠ [])
  (hfirst : ∀ e ∈ sources c, first.held? e.2 = some (List.ofFn (item e.1)))
include hdistinct hqueues hsome hfirst

theorem inTurn_of_worksOff
    (h : WorksOff (.streamSync config) c ((sources c).map Prod.snd) first passes p acts s) :
    ∃ left, InTurn c item passes p acts s left := by
  induction h with
  | start now hstart =>
    cases hstart
    exact ⟨[], List.nil_suffix, rfl, fun _ => rfl, rfl, hfirst, fun _ => rfl, fun _ => by simp, fun h => nomatch h⟩
  | step hrun now running hgoing hnew ih =>
    obtain ⟨left, hin⟩ := ih
    have hregular := (keeps_regular (.streamSync config) c QueueStore.NoneClosed).of_worksOff hrun
    have hsends := ((keeps_streamSync config).weaken fun _ _ => trivial).of_worksOff hrun
    exact hin.step hdistinct hqueues hsome hregular.agenda (by rw [hsends.1]; rfl) hrun.noneClosed
      (fun hstopped e he => hgoing hstopped _ (List.mem_map_of_mem he)) (fun e he => hnew _ (List.mem_map_of_mem he))
      (step_spec _ now running _)
  | others _ _ hsame ih =>
    obtain ⟨left, hin⟩ := ih
    exact ⟨left, { hin with held := fun e he => (hsame _ (List.mem_map_of_mem he)).trans (hin.held e he) }⟩

variable (hroom : 1 ≤ config.sync.maxBacklog)
  (hnear : ∀ a ∈ streams c, ∀ b ∈ streams c, ∀ k, Timestamped.timestamp (item a k) ≤
    Timestamped.timestamp (item b k) + config.sync.tolerance)
include hroom hnear

/-- Every stream that enters has brought the same number of messages, and nothing else arrives. Then a pass sends one set,
with the messages that the streams have brought at one place in their bursts, and no message is stale or lost on the way,
whatever lies between the messages of a stream. A run that has ended has delivered every message, stream by stream in
order, to all queues behind the output of its stream, and taken all that there was. A run that has not ended comes to this as
well, after so many steps in which it did not have to wait. -/
theorem bursts_leave_in_order (hrun : WorksOff (.streamSync config) c ((sources c).map Prod.snd) first passes p acts s) :
    let sets := List.ofFn (Synchronizer.roundSet (streams c) item)
    let consumers := ((streams c).map fun n => (c.consumers (outputKey n)).length).sum
    (∃ sync k, p.work = .streamSync sync ∧ sync.stats.emittedSets = k ∧ sync.stats.discardedStale = 0 ∧
      sync.stats.overflowDrops = 0 ∧ acts.flatMap Act.sent = (sets.take k).flatMap emissions ∧
      min (passes - 1) rounds ≤ k ∧ k ≤ min passes rounds ∧ (p.todo = [] → k = min passes rounds)) ∧
    (∀ n ∈ streams c, deliveriesAt (.port (outputKey n)) (acts.flatMap Act.put) <+:
      (List.ofFn (item n)).flatMap fun m => c.deliveries (.onPort (outputKey n) m)) ∧
    (∀ result, p.result = some result → result = .ok ()) ∧
    (p.result.isSome = true ∨ rounds * ((streams c).length + 1 + consumers) ≤ progress acts →
      (∀ e ∈ sources c, s.held? e.2 = some []) ∧
      ∀ n ∈ streams c, deliveriesAt (.port (outputKey n)) (acts.flatMap Act.put) =
        (List.ofFn (item n)).flatMap fun m => c.deliveries (.onPort (outputKey n) m)) := by
  intro sets consumers
  have hnodup := (streams_perm c).nodup_iff.mpr hdistinct
  obtain ⟨left, hin⟩ := inTurn_of_worksOff hdistinct hqueues hsome hfirst hrun
  obtain ⟨k, ⟨hstep, hmatched⟩, hlow, hhigh, hdone⟩ := hin.passed hdistinct hsome hroom hnear
  have hkeeps : Keeps (.streamSync config) c QueueStore.NoneClosed _ :=
    (keeps_streamSync config).weaken fun _ _ => trivial
  obtain ⟨⟨⟨hwork, hsent⟩, -⟩, hdelivers⟩ :=
    (hkeeps.delivering fun _ _ _ _ hopen _ _ queue _ q hq => hopen queue q hq).of_worksOff hrun
  rw [matched, hmatched] at hsent
  have hplaced (n : String) (hn : n ∈ streams c) : deliveriesAt (.port (outputKey n)) (acts.flatMap Act.put) ++
      deliveriesAt (.port (outputKey n)) p.outbox =
        ((List.ofFn (item n)).take k).flatMap fun m => c.deliveries (.onPort (outputKey n) m) := by
    rw [← deliveriesAt_append, hdelivers, hsent, deliveriesAt_flatMap, messagesAt_rounds hnodup hn]
    rfl
  have hfinished (h : p.result.isSome = true ∨ rounds * ((streams c).length + 1 + consumers) ≤ progress acts) :
      k = rounds ∧ p.outbox = [] := by
    refine hin.finished hlow hhigh hdone ?_ h
    rw [← List.length_append, hdelivers, hsent, length_deliveries_rounds, Nat.min_eq_left (by omega)]
  refine ⟨⟨_, k, hwork, by rw [hstep.stats], by rw [hstep.stats], by rw [hstep.stats], hsent, hlow, hhigh,
    fun hnext => hdone (hin.left_of_todo hdistinct hnext)⟩, fun n hn => ?_, fun result hresult => ?_, fun h => ?_⟩
  · refine (List.prefix_append _ (deliveriesAt (.port (outputKey n)) p.outbox)).trans ?_
    rw [hplaced n hn]
    exact List.IsPrefix.flatMap (List.take_prefix k _) _
  · obtain ⟨hok, -⟩ := hin.settled (by rw [hresult]; rfl)
    exact Option.some.inj (hresult.symm.trans hok)
  · obtain ⟨rfl, hidle⟩ := hfinished h
    refine ⟨fun e he => ?_, fun n hn => ?_⟩
    · have hall := hstep.reached _ ((streams_perm c).mem_iff.mpr (List.mem_map_of_mem he))
      rw [hin.held e he, List.drop_of_length_le (by simpa using hall)]
    · have hall := hplaced n hn
      rw [hidle, List.take_of_length_le (by simp)] at hall
      simpa [deliveriesAt] using hall

end

/-- Two streams of which the node may hold one message at a time. It is told to stop when all of them have gone out. -/
theorem bursts_leave_in_order_two_streams :
    let c : Context := {
      node := ⟨0⟩, name := "sync", pollInterval := 1000000
      inputs := [("inputs.disp_in", 0), ("inputs.rgb_in", 1)], outputs := [("outputs.disp_out", 2), ("outputs.rgb_out", 3)] }
    let config : StreamSyncConfig := { sync := { tolerance := 8, maxBacklog := 1 } }
    let item : String → Fin 3 → Message := fun n k =>
      ⟨[0, 16, 330][k] + (if n = "rgb" then 1 else 0), k, .buffer []⟩
    let queue (name : String) (buffer : List Message) : Queue Message :=
      { name, capacity := 8, blocking := false, buffer }
    let first : QueueStore Message := { queues := [
      queue "disp_in" (List.ofFn (item "disp")), queue "rgb_in" (List.ofFn (item "rgb")), queue "disp_out" [],
      queue "rgb_out" []] }
    ∃ passes p acts s, WorksOff (.streamSync config) c ((sources c).map Prod.snd) first passes p acts s ∧
      p.result = some (.ok ()) ∧
      (∃ sync, p.work = .streamSync sync ∧ sync.stats.discardedStale = 0 ∧ sync.stats.overflowDrops = 0) ∧
      ∀ n ∈ ["disp", "rgb"],
        (deliveriesAt (.port (outputKey n)) (acts.flatMap Act.put)).map Delivery.message = List.ofFn (item n) := by
  intro c config item queue first
  have hsources : sources c = [("disp", 0), ("rgb", 1)] := by decide +kernel
  have hsorted : streams c = ["disp", "rgb"] := by
    have hnames : (c.inputs.map Prod.fst).filterMap streamOfKey? = ["disp", "rgb"] := by decide +kernel
    rw [streams, streamsOf, hnames]
    exact List.mergeSort_of_pairwise (by decide +kernel)
  have hqueues : (sources c).map Prod.snd = [0, 1] := by rw [hsources]; rfl
  -- Sorting does not compute, so the node is put to work with its streams in order.
  let p : Process := {
    context := c
    work := .streamSync { streams := [⟨"disp", []⟩, ⟨"rgb", []⟩], config := { tolerance := 8, maxBacklog := 1 } }
    agenda := [.look (.port "inputs.disp_in") 0 false, .look (.port "inputs.rgb_in") 1 false] }
  have hstart : start (.streamSync config) c 0 = .ok p := by
    simp only [start, Body.begin, Agenda.streamSync, hsorted]
    rfl
  let solo : Solo := { process := p, store := first }
  have hbegun : WorksOff (.streamSync config) c [0, 1] first 0 solo.process [] solo.store := by
    have hopen : ∀ q ∈ first.queues, q.closed = false := by decide +kernel
    exact .start 0 hstart fun id q hq => hopen q (List.mem_of_getElem? hq)
  have hapart : ∀ place, ∀ queue ∈ c.destinations place, queue ∉ [0, 1] := by
    have houtputs : ∀ e ∈ c.outputs, e.2 ∉ [0, 1] := by decide +kernel
    intro place queue hqueue
    cases place with
    | host => cases hqueue
    | port key =>
      obtain ⟨e, he, rfl⟩ := List.mem_map.mp hqueue
      exact houtputs e (List.mem_filter.mp he).1
  have hempty : ∀ id ∈ [0, 1], ((fun solo => (Solo.step solo).2)^[15] solo).store.held? id = some [] := by decide +kernel
  have hover : (((fun solo => (Solo.step solo).2)^[15] solo).process.step 0 false
      ((fun solo => (Solo.step solo).2)^[15] solo).store).2.1.result.isSome = true := by decide +kernel
  obtain ⟨passes, acts, hlong⟩ := WorksOff.alone hapart rfl hbegun 15
  have hrun := hlong.step 0 false (fun _ => hempty) fun id hid => hlong.puts_eq_nil hapart (step_spec _ _ _ _) hid
  generalize (fun solo => (Solo.step solo).2)^[15] solo = after at hlong hrun hempty hover
  rw [← hqueues] at hrun
  have hnear : ∀ a ∈ streams c, ∀ b ∈ streams c, ∀ k, Timestamped.timestamp (item a k) ≤
      Timestamped.timestamp (item b k) + config.sync.tolerance := by
    rw [hsorted]
    decide +kernel
  obtain ⟨⟨sync, k, hwork, -, hstale, hlost, -⟩, -, hok, hdone⟩ := bursts_leave_in_order
    (by rw [hsources]; decide) (by rw [hqueues]; decide) (by rw [hsources]; decide) (by rw [hsources]; decide +kernel)
    (by decide) hnear hrun
  obtain ⟨result, hresult⟩ := Option.isSome_iff_exists.mp hover
  refine ⟨_, _, _, _, hrun, hok result hresult ▸ hresult, ⟨sync, hwork, hstale, hlost⟩, fun n hn => ?_⟩
  rw [(hdone (.inl hover)).2 n (hsorted ▸ hn)]
  revert n
  decide +kernel

end Process

end FrameGraph
