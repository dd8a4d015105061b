import FrameGraph.Proofs.Graph.Keys
import FrameGraph.Proofs.Process.Acts
import FrameGraph.Proofs.Synchronizer.Push

/-!
# What the nodes on the way to the host do

* `Process.LetsIn`, `Process.keeps_xlinkIn`: bridges from the host.
* `Process.PassesOn`, `Process.keeps_xlinkOut`: bridges to the host without a limit.
* `Process.SendsSets`, `Process.keeps_streamSync`: synchronizing nodes. `StreamSync.one_emission` says what leaves at one
  output for a set.
* `Process.Numbered`, `Process.keeps_producer`: producers, which number what they send and stop in time.
-/

namespace FrameGraph
set_option autoImplicit false

namespace StreamSync

/-- The messages of a set, each at the output of its stream. -/
def emissions (set : SyncedSet Message) : List Emission :=
  set.entries.map fun e => .onPort (outputKey e.1) e.2

/-- What a synchronizing node makes of the messages that it has taken. -/
def pushes (took : List Intake) : List (String × Message) :=
  took.filterMap fun i => match i.place with
    | .port key => (streamOfKey? key).map fun stream => (stream, i.message)
    | .host => none

/-- The sets that are completed, one after the other. -/
def matched (start : Synchronizer Message) (took : List Intake) : List (SyncedSet Message) :=
  (start.pushAll (pushes took)).1.filterMap Arrival.set?

theorem handle_eq (s : Synchronizer Message) {key stream : String} (hkey : streamOfKey? key = some stream)
    (m : Message) : handle s key m =
      ((s.push stream m).1.set?.toList.flatMap emissions, (s.push stream m).2) := by
  rw [handle, hkey]
  rcases h : s.push stream m with ⟨_ | _ | _, next⟩ <;> simp [h, Arrival.set?, emissions]

theorem pushes_concat (took : List Intake) (i : Intake) : pushes (took ++ [i]) = pushes took ++ pushes [i] := by
  simp [pushes]

/-- A set has a message of every stream, in the order of the streams. -/
theorem names_of_matched {start : Synchronizer Message} {took : List Intake} {set : SyncedSet Message}
    (h : set ∈ matched start took) : set.entries.map Prod.fst = start.names := by
  rw [matched] at h
  generalize pushes took = pushed at h
  induction pushed generalizing start with
  | nil => cases h
  | cons p rest ih =>
    have hsplit : set ∈ (start.push p.1 p.2).1.set?.toList ++
        (((start.push p.1 p.2).2.pushAll rest).1.filterMap Arrival.set?) := by
      cases hset : (start.push p.1 p.2).1.set? <;> simpa [Synchronizer.pushAll, hset] using h
    rcases List.mem_append.mp hsplit with hset | hrest
    · by_cases hname : p.1 ∈ start.names
      · rcases Synchronizer.push_cases hname p.2 with ⟨-, hpush⟩ | ⟨cuts, hcuts, hpush⟩
        · simp [hpush, Arrival.set?] at hset
        · obtain rfl : set = ⟨cuts.map Cut.entry⟩ := by simpa [hpush, Arrival.set?] using hset
          have hnames := map_stream_of_splitAll hcuts
          rw [← Synchronizer.names, Synchronizer.names_receive] at hnames
          rw [← hnames, List.map_map]
          rfl
      · simp [Synchronizer.push_untracked hname, Arrival.set?] at hset
    · rw [ih hrest, Synchronizer.names_push]

theorem messagesAt_emissions (set : SyncedSet Message) (x : String) :
    messagesAt (.port (outputKey x)) (emissions set) = (set.entries.filter fun e => e.1 = x).map Prod.snd := by
  have hsame (e : String × Message) : decide ((Emission.onPort (outputKey e.1) e.2).place = .port (outputKey x)) =
      decide (e.1 = x) :=
    decide_eq_decide.mpr ⟨fun hplace => outputKey_inj (Place.port.inj hplace), fun hname => by rw [hname]; rfl⟩
  have hkept := List.filter_congr fun e (_ : e ∈ set.entries) => hsame e
  rw [messagesAt, emissions, List.filter_map, List.map_map, ← hkept]
  rfl

/-- Of a set with one message of every stream, one message leaves at the output of a stream. -/
theorem one_emission {set : SyncedSet Message} (hdistinct : (set.entries.map Prod.fst).Nodup) {x : String}
    (hx : x ∈ set.entries.map Prod.fst) :
    ∃ m, (x, m) ∈ set.entries ∧ messagesAt (.port (outputKey x)) (emissions set) = [m] := by
  obtain ⟨⟨name, m⟩, hm, hname⟩ := List.mem_map.mp hx
  obtain rfl : name = x := hname
  refine ⟨m, hm, ?_⟩
  have hone : set.entries.filter (fun e => decide (e.1 = name)) = set.entries.filter fun e => e == (name, m) :=
    List.filter_congr fun e he => by
      rw [Bool.eq_iff_iff, decide_eq_true_iff, beq_iff_eq]
      exact ⟨fun hname => List.inj_on_of_nodup_map hdistinct he hm hname, congrArg Prod.fst⟩
  rw [messagesAt_emissions, hone, List.filter_beq, List.count_eq_one_of_mem (List.Nodup.of_map _ hdistinct) hm]
  rfl

end StreamSync

namespace Process

variable {c : Context}

/-! ## Bridges -/

/-- A bridge from the host sends what it takes from there, as far as it lets it through. -/
def LetsIn (config : XLinkInConfig) (p : Process) (acts : List Act) : Prop :=
  p.work = .xlinkIn config ∧ acts.flatMap Act.sent = (acts.flatMap Act.intake).flatMap fun i => match i.place with
    | .host => config.forward i.message
    | .port _ => []

theorem keeps_xlinkIn (config : XLinkInConfig) {queue : QueueId} (hhost : c.host = some queue) :
    Keeps (.xlinkIn config) c (fun _ => True) (LetsIn config) := by
  refine keeps_of_relation (R := fun w took sent => w = .xlinkIn config ∧ sent = took.flatMap fun i => match i.place with
    | .host => config.forward i.message
    | .port _ => []) (fun hstart => ?_) (fun now i h => ?_) (fun h hdue => ?_) (fun now h => ?_)
  · obtain ⟨beginning, hbegins, rfl⟩ := begins_of_start hstart
    cases hbegins with
    | xlinkIn => exact ⟨rfl, rfl⟩
    | inUnserved _ e herror => simp [Context.hostQueue, hhost] at herror
  · obtain ⟨rfl, rfl⟩ := h
    rcases i with ⟨_ | _, _, m⟩ <;> simp [Work.receive]
  · obtain ⟨rfl, -⟩ := h
    cases hdue
  · obtain ⟨rfl, hsent⟩ := h
    exact ⟨rfl, hsent⟩

theorem LetsIn.places {config : XLinkInConfig} {p : Process} {acts : List Act} (h : LetsIn config p acts) :
    ∀ e ∈ acts.flatMap Act.sent, e.place = .port "out" := by
  intro e he
  rw [h.2] at he
  obtain ⟨i, -, he⟩ := List.mem_flatMap.mp he
  split at he
  · rw [XLinkInConfig.forward] at he
    split at he
    · rw [List.mem_singleton.mp he]
      rfl
    · cases he
  · cases he

theorem LetsIn.answer {config : XLinkInConfig} {p : Process} {acts : List Act} (h : LetsIn config p acts) :
    (∀ now place m, (p.work.receive now place m).1.length ≤ 1) ∧ ∀ now, p.work.tick? now = none := by
  rw [h.1]
  refine ⟨fun now place m => ?_, fun now => rfl⟩
  cases place with
  | host =>
    rw [Work.receive, XLinkInConfig.forward]
    split
    · exact Nat.le_refl 1
    · exact Nat.zero_le 1
  | port => exact Nat.zero_le 1

theorem LetsIn.messagesAt {config : XLinkInConfig} {p : Process} {acts : List Act} (h : LetsIn config p acts)
    (hhost : ∀ i ∈ acts.flatMap Act.intake, i.place = .host) : messagesAt (.port "out") (acts.flatMap Act.sent) =
      ((acts.flatMap Act.intake).map Intake.message).filter fun m => config.letsThrough m.payload.dataLength := by
  rw [h.2]
  generalize acts.flatMap Act.intake = took at hhost
  induction took with
  | nil => rfl
  | cons i rest ih =>
    have hfirst := hhost i List.mem_cons_self
    have hrest := ih fun other hother => hhost other (List.mem_cons_of_mem _ hother)
    rw [List.flatMap_cons, messagesAt_append, hrest, hfirst, List.map_cons, List.filter_cons]
    by_cases hlets : config.letsThrough i.message.payload.dataLength = true <;>
      simp [XLinkInConfig.forward, hlets, FrameGraph.messagesAt, Emission.onPort]

theorem agenda_xlinkIn (config : XLinkInConfig) {queue : QueueId} (hhost : c.host = some queue) :
    Body.agenda (.xlinkIn config) c = [.look .host queue false] := by
  simp only [Body.agenda, Body.begin, Context.hostQueue, hhost]
  rfl

/-- A bridge to the host without a limit sends there what it takes. -/
def PassesOn (p : Process) (acts : List Act) : Prop :=
  (∃ f, p.work = .xlinkOut f ∧ f.gap = none) ∧
    acts.flatMap Act.sent = (acts.flatMap Act.intake).flatMap fun i => match i.place with
      | .host => []
      | .port _ => [.toHost i.message]

theorem keeps_xlinkOut {config : XLinkOutConfig} (hlimit : config.leastGap = .ok none) {queue source : QueueId}
    (hhost : c.host = some queue) (hinput : c.input? "in" = some source) :
    Keeps (.xlinkOut config) c (fun _ => True) PassesOn := by
  refine keeps_of_relation (R := fun w took sent => (∃ f, w = .xlinkOut f ∧ f.gap = none) ∧
    sent = took.flatMap fun i => match i.place with
      | .host => []
      | .port _ => [.toHost i.message]) (fun hstart => ?_) (fun now i h => ?_) (fun h hdue => ?_) (fun now h => ?_)
  · obtain ⟨beginning, hbegins, rfl⟩ := begins_of_start hstart
    cases hbegins with
    | xlinkOut _ host _ gap _ _ hgap => exact ⟨⟨_, rfl, Except.ok.inj (hgap.symm.trans hlimit)⟩, rfl⟩
    | unfed _ _ _ hnone => simp [hinput] at hnone
    | outUnserved _ e herror => simp [Context.hostQueue, hhost] at herror
  · obtain ⟨⟨f, rfl, hgap⟩, rfl⟩ := h
    have hnever : f.isEarly now = false := by simp [Forwarding.isEarly, hgap]
    rcases i with ⟨_ | _, _, m⟩ <;> simp [Work.receive, Forwarding.forward, hnever, hgap]
  · obtain ⟨⟨f, rfl, -⟩, -⟩ := h
    cases hdue
  · obtain ⟨⟨f, rfl, hgap⟩, hsent⟩ := h
    exact ⟨⟨_, rfl, hgap⟩, hsent⟩

theorem PassesOn.places {p : Process} {acts : List Act} (h : PassesOn p acts) :
    ∀ e ∈ acts.flatMap Act.sent, e.place = .host := by
  intro e he
  rw [h.2] at he
  obtain ⟨i, -, he⟩ := List.mem_flatMap.mp he
  split at he
  · cases he
  · rw [List.mem_singleton.mp he]
    rfl

theorem PassesOn.answer {p : Process} {acts : List Act} (h : PassesOn p acts) :
    (∀ now place m, (p.work.receive now place m).1.length ≤ 1) ∧ ∀ now, p.work.tick? now = none := by
  obtain ⟨⟨f, hwork, -⟩, -⟩ := h
  rw [hwork]
  refine ⟨fun now place m => ?_, fun now => rfl⟩
  cases place with
  | host => exact Nat.zero_le 1
  | port =>
    simp only [Work.receive, Forwarding.forward]
    split
    · exact Nat.zero_le 1
    · exact Nat.le_refl 1

theorem agenda_xlinkOut {config : XLinkOutConfig} {gap : Option Nat} (hgap : config.leastGap = .ok gap)
    {queue source : QueueId} (hhost : c.host = some queue) (hinput : c.input? "in" = some source) :
    Body.agenda (.xlinkOut config) c = [.look (.port "in") source false] := by
  simp only [Body.agenda, Body.begin, Context.hostQueue, hhost, hinput, hgap]
  rfl

/-! ## Synchronizing nodes -/

/-- A synchronizing node sends the sets that are completed by what it takes. -/
def SendsSets (first : Synchronizer Message) (p : Process) (acts : List Act) : Prop :=
  p.work = .streamSync (first.pushAll (StreamSync.pushes (acts.flatMap Act.intake))).2 ∧
    acts.flatMap Act.sent = (StreamSync.matched first (acts.flatMap Act.intake)).flatMap StreamSync.emissions

theorem keeps_streamSync (config : StreamSyncConfig) :
    Keeps (.streamSync config) c (fun _ => True)
      (SendsSets (.make (StreamSync.streamsOf (c.inputs.map Prod.fst)) config.sync)) := by
  generalize hfirst : Synchronizer.make (StreamSync.streamsOf (c.inputs.map Prod.fst)) config.sync = first
  refine keeps_of_relation (R := fun w took sent => w = .streamSync (first.pushAll (StreamSync.pushes took)).2 ∧
    sent = (StreamSync.matched first took).flatMap StreamSync.emissions)
    (fun hstart => ?_) (fun now i h => ?_) (fun h hdue => ?_) (fun now h => ?_)
  · cases hstart
    exact ⟨by rw [← hfirst]; rfl, rfl⟩
  · obtain ⟨rfl, rfl⟩ := h
    obtain ⟨place, queue, m⟩ := i
    -- What comes in at a place that belongs to no stream is passed over.
    have hskipped (hnone : StreamSync.pushes [⟨place, queue, m⟩] = []) (took : List Intake) :
        StreamSync.pushes (took ++ [⟨place, queue, m⟩]) = StreamSync.pushes took := by
      rw [StreamSync.pushes_concat, hnone, List.append_nil]
    cases place with
    | host => simp [Work.receive, StreamSync.matched, hskipped rfl]
    | port key =>
      cases hkey : StreamSync.streamOfKey? key with
      | none =>
        have hnone : StreamSync.pushes [⟨.port key, queue, m⟩] = [] := by simp [StreamSync.pushes, hkey]
        simp [Work.receive, StreamSync.handle, hkey, StreamSync.matched, hskipped hnone]
      | some stream =>
        have hone : StreamSync.pushes [⟨.port key, queue, m⟩] = [(stream, m)] := by simp [StreamSync.pushes, hkey]
        simp only [Work.receive, StreamSync.handle_eq _ hkey, StreamSync.matched, StreamSync.pushes_concat, hone,
          Synchronizer.pushAll_concat, List.filterMap_append, List.flatMap_append, true_and, List.append_cancel_left_eq]
        generalize ((first.pushAll (StreamSync.pushes _)).2.push stream m).1 = answer
        cases hset : answer.set? <;> simp [hset]
  · obtain ⟨rfl, -⟩ := h
    cases hdue
  · obtain ⟨rfl, hsent⟩ := h
    exact ⟨rfl, hsent⟩

/-! ## Producers -/

/-- The numbers that a producer has sent run up from zero, and stay below its count. -/
structure Numbered (config : ProducerConfig) (p : Process) (acts : List Act) (production : Production) : Prop where
  work : p.work = .producer production
  settings : production.config = config
  agenda : p.agenda = [.clock]
  todo : p.todo = [] ∨ p.todo = [.clock]
  sent : (acts.flatMap Act.sent).map (fun e => (e.place, e.message.sequence)) =
    (List.range production.sequence).map fun k => (.port "out", k)
  count : ∀ n, config.count = some n → production.sequence ≤ n ∧ (p.todo ≠ [] → production.sequence < n)

theorem Numbered.rest {config : ProducerConfig} {p : Process} {acts : List Act} {production : Production}
    (h : Numbered config p acts production) {poll : Poll} {rest : Agenda} (hnext : p.todo = poll :: rest) :
    poll = .clock ∧ rest = [] := by
  rcases h.todo with htodo | htodo <;> rw [htodo] at hnext
  · cases hnext
  · exact ⟨(List.cons.inj hnext).1.symm, (List.cons.inj hnext).2.symm⟩

theorem Numbered.quiet {config : ProducerConfig} {p next : Process} {acts : List Act} {production : Production}
    (h : Numbered config p acts production) {a : Act} (hwork : next.work = p.work) (hagenda : next.agenda = p.agenda)
    (htodo : next.todo = [] ∨ next.todo = p.todo) (hnone : a.sent = []) :
    Numbered config next (acts ++ [a]) production where
  work := hwork.trans h.work
  settings := h.settings
  agenda := hagenda.trans h.agenda
  todo := by
    rcases htodo with hnext | hnext <;> rw [hnext]
    · exact .inl rfl
    · exact h.todo
  sent := by rw [List.flatMap_append, List.flatMap_singleton, hnone, List.append_nil, h.sent]
  count n hn := by
    obtain ⟨hle, hlt⟩ := h.count n hn
    refine ⟨hle, ?_⟩
    rcases htodo with hnext | hnext <;> rw [hnext]
    · exact fun hne => absurd rfl hne
    · exact hlt

theorem keeps_producer (config : ProducerConfig) :
    Keeps (.producer config) c (fun _ => True) fun p acts => ∃ production, Numbered config p acts production where
  start {now p} hstart := by
    cases hstart
    exact ⟨.start config now, rfl, rfl, rfl, .inl rfl, rfl, fun n _ => ⟨Nat.zero_le n, fun h => absurd rfl h⟩⟩
  step {p next now running s t deed acts} hp _ hstep := by
    obtain ⟨production, h⟩ := hp
    cases hstep with
    | rested | blocked => exact ⟨production, h.quiet rfl rfl (.inr rfl) rfl⟩
    | delivered d rest =>
      have hwork : (p.handedOver now rest).work = p.work := by
        rw [handedOver, h.work]
        exact ite_self _
      exact ⟨production, h.quiet hwork rfl (.inr rfl) rfl⟩
    | refused | denied | ended => exact ⟨production, h.quiet rfl rfl (.inl rfl) rfl⟩
    | foundNothing _ _ _ rest _ _ hnext => exact ⟨production, h.quiet rfl rfl (.inl (h.rest hnext).2) rfl⟩
    | notDue rest _ _ hnext => exact ⟨production, h.quiet rfl rfl (.inl (h.rest hnext).2) rfl⟩
    | took _ _ _ _ _ _ _ _ _ hnext =>
      obtain ⟨hclock, -⟩ := h.rest hnext
      cases hclock
    | began _ _ _ _ hmore =>
      refine ⟨production, h.work, h.settings, h.agenda, .inr h.agenda, ?_, fun n hn => ⟨(h.count n hn).1, fun _ => ?_⟩⟩
      · simpa [Act.sent] using h.sent
      · rw [h.work] at hmore
        simpa [Work.isDone, Production.isDone, ProducerConfig.isDone, h.settings, hn] using hmore
    | ticked rest emissions work hlive hidle hnext htick =>
      obtain ⟨-, rfl⟩ := h.rest hnext
      have hsent : Act.sent ⟨p.work, now, .ticked⟩ = emissions := by simp [Act.sent, htick]
      rw [h.work] at htick
      simp only [Work.tick?, Production.tick?] at htick
      split at htick
      · cases htick
      · obtain ⟨rfl, rfl⟩ := Prod.mk.inj (Option.some.inj htick)
        refine ⟨_, rfl, h.settings, h.agenda, .inl rfl, ?_, fun n hn => ⟨?_, fun hne => absurd rfl hne⟩⟩
        · rw [List.flatMap_append, List.flatMap_singleton, hsent, List.map_append, h.sent, List.range_succ, List.map_append]
          rfl
        · exact (h.count n hn).2 (by rw [hnext]; exact List.cons_ne_nil _ _)

end Process

end FrameGraph
