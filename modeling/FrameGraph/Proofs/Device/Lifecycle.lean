import FrameGraph.Proofs.Device.Courses
import FrameGraph.Proofs.Device.Starting

/-!
# The lives of the nodes of a device

* `Thread.InOrder`: what is told of a node, and the state that it is in, go with the phase of its thread.
* `Device.Underway`: the threads are in order, and only closing has closed a queue. `Underway.step` is the step.
* `Device.Over`: the device has closed, with `Over.step`.
* `Device.lifecycle_orderly`: what is told of nodes that are built in, and the states that they go through.
-/

namespace FrameGraph
set_option autoImplicit false

/-! ## Phases -/

def DeviceEvent.node? : DeviceEvent → Option NodeId
  | started node _ | failed node .. | stopped node _ => some node
  | closed => none

def Phase.state : Phase → NodeState
  | entering _ => .linked
  | announcing _ | working _ | failing _ | stopping => .running
  | leaving | gone => .stopped

theorem Phase.eq_gone {phase : Phase} (h : phase.isGone = true) : phase = .gone := by
  cases phase with
  | gone => rfl
  | _ => cases h

/-- What has been told of a node by the time that its thread is in a phase, if it has not failed. -/
def Phase.announced (c : Context) : Phase → List DeviceEvent
  | entering _ | announcing _ => []
  | working _ | failing _ | stopping | leaving => [.started c.node c.name]
  | gone => [.started c.node c.name, .stopped c.node c.name]

/-- A node that is built in, with a queue for its stream if it serves one. -/
def Body.Ready (b : Body) (c : Context) : Prop :=
  b.kind?.isSome = true ∧ (b.hostStream?.isSome = true → c.host.isSome = true)

/-- Such a node fails at a closed queue or not at all. -/
theorem Body.Ready.start {b : Body} {c : Context} (h : b.Ready c) {now : Nat} {p : Process}
    (hstart : Process.start b c now = .ok p) (e : RuntimeError) : p.result ≠ some (.error e) := by
  have hserved (hstream : b.hostStream?.isSome = true) {other : RuntimeError} : c.hostQueue ≠ .error other := by
    obtain ⟨queue, hhost⟩ := Option.isSome_iff_exists.mp (h.2 hstream)
    rw [Context.hostQueue, hhost]
    rintro ⟨⟩
  obtain ⟨beginning, hbegins, rfl⟩ := Process.begins_of_start hstart
  cases hbegins with
  | inUnserved _ _ hhost | outUnserved _ _ hhost => exact absurd hhost (hserved rfl)
  | idles | fails => cases h.1
  | _ => rintro ⟨⟩

/-- No failure can come of the phase. -/
def Phase.Sound (c : Context) (running : Bool) : Phase → Prop
  | entering body | announcing body => body.Ready c
  | working p => ∀ e, p.result = some (.error e) → e.isClosed = true ∧ running = false
  | failing _ => False
  | stopping | leaving | gone => True

/-- The node does not panic if it begins to run now. -/
def Phase.Calm (c : Context) (now : Nat) : Phase → Prop
  | announcing body => (Process.start body c now).isOk = true
  | _ => True

instance (c : Context) (now : Nat) (phase : Phase) : Decidable (phase.Calm c now) :=
  match phase with
  | .announcing body => inferInstanceAs (Decidable ((Process.start body c now).isOk = true))
  | .entering _ | .working _ | .failing _ | .stopping | .leaving | .gone => inferInstanceAs (Decidable True)

/-- A state and the one that comes next, if it does not stay. -/
def NodeState.Follows (s next : NodeState) : Prop :=
  next = s ∨ s = linked ∧ next = running ∨ s = running ∧ next = stopped

/-! ## States and events -/

namespace Graph

def stateOf (g : Graph) (id : NodeId) : Option NodeState :=
  g.nodes[id.index]?.map Node.state

theorem stateOf_advanceState (g : Graph) (node : NodeId) (state : NodeState) (id : NodeId) :
    (g.advanceState node state).stateOf id =
      if id = node then (g.stateOf id).map fun s => s.advance state else g.stateOf id := by
  rw [stateOf, stateOf, advanceState]
  by_cases hid : id = node
  · subst hid
    cases hn : g.nodes[id.index]? with
    | none => simp [hn]
    | some n =>
      have hlt := (List.getElem?_eq_some_iff.mp hn).1
      simp only [Graph.setNode, List.getElem?_set_self hlt, if_true, Option.map_some]
  · have hne : node.index ≠ id.index := fun hsame => hid (by cases id; cases node; simp_all)
    cases hn : g.nodes[node.index]? with
    | none => simp [hid]
    | some n => simp only [Graph.setNode, List.getElem?_set_ne hne, if_neg hid]

theorem stateOf_without (g : Graph) (ids : List NodeId) (id : NodeId) : (g.without ids).stateOf id = g.stateOf id := by
  rw [stateOf, node_without, stateOf, Option.map_map]
  congr 1
  funext n
  simp only [Function.comp_apply]
  split <;> rfl

theorem Assembled.stateOf_build {g : Graph} (hg : g.Assembled) {plan : Plan} (hplan : g.build.1 = .ok plan) {i : Nat}
    (hi : i < g.nodes.length) : g.build.2.stateOf ⟨i⟩ = some .linked := by
  have hn : g.nodes[i]? = some g.nodes[i] := List.getElem?_eq_getElem hi
  have hstate : g.nodes[i].state.advance .linked = .linked := by
    have hrank := (hg.untouched g.nodes[i] (List.mem_of_getElem? hn)).state
    generalize g.nodes[i].state = state at hrank ⊢
    cases state <;> first | rfl | exact absurd hrank (by decide)
  rw [hg.arises.consistent.build_eq hplan, stateOf]
  simp only [built, List.getElem?_map, hn, Option.map_some, hstate]

theorem stateOf_foldl_stopped {g : Graph} {id : NodeId} (h : g.stateOf id = some .stopped) (ids : List NodeId) :
    (ids.foldl (fun g other => g.advanceState other .stopped) g).stateOf id = some .stopped := by
  induction ids generalizing g with
  | nil => exact h
  | cons other rest ih =>
    refine ih ?_
    rw [stateOf_advanceState, h, Option.map_some]
    exact ite_self _

end Graph

namespace Device

def stateOf (d : Device) (id : NodeId) : Option NodeState :=
  d.graph.bind fun g => g.stateOf id

theorem stateOf_advanceState (d : Device) (node : NodeId) (state : NodeState) (id : NodeId) :
    (d.advanceState node state).stateOf id =
      if id = node then (d.stateOf id).map fun s => s.advance state else d.stateOf id := by
  rw [stateOf, stateOf, advanceState]
  cases d.graph with
  | none => simp
  | some g => exact g.stateOf_advanceState node state id

theorem stateOf_finishClosing {d : Device} {id : NodeId} (h : d.stateOf id = some .stopped) :
    d.finishClosing.stateOf id = some .stopped := by
  obtain ⟨g, hg, hstate⟩ := Option.bind_eq_some_iff.mp h
  rw [stateOf, finishClosing, graph_publish, hg]
  exact Graph.stateOf_foldl_stopped hstate g.nodeIds

def eventsOf (id : NodeId) (told : List DeviceEvent) : List DeviceEvent :=
  told.filter fun event => event.node? = some id

theorem eventsOf_append (id : NodeId) (a b : List DeviceEvent) : eventsOf id (a ++ b) = eventsOf id a ++ eventsOf id b :=
  List.filter_append ..

end Device

/-! ## Threads -/

structure Thread.InOrder (d : Device) (told : List DeviceEvent) (t : Thread) : Prop where
  told : Device.eventsOf t.node told = t.phase.announced t.context
  state : d.stateOf t.node = some t.phase.state
  sound : t.phase.Sound t.context d.running

theorem Phase.Sound.mono {c : Context} {running later : Bool} {phase : Phase} (h : phase.Sound c running)
    (hlater : later = true → running = true) : phase.Sound c later := by
  cases phase with
  | working p =>
    intro e he
    obtain ⟨hclosed, hrunning⟩ := h e he
    refine ⟨hclosed, Bool.not_eq_true _ ▸ fun hstill => ?_⟩
    rw [hlater hstill] at hrunning
    cases hrunning
  | _ => exact h

theorem Thread.InOrder.of_eq {d next : Device} {told : List DeviceEvent} {t : Thread} (h : t.InOrder d told)
    (hgraph : next.graph = d.graph) (hrunning : next.running = true → d.running = true) : t.InOrder next told where
  told := h.told
  state := by rw [← h.state, Device.stateOf, hgraph, Device.stateOf]
  sound := h.sound.mono hrunning

namespace Device
variable {d next : Device} {t : Thread} {told : List DeviceEvent}

/-- A turn of another thread tells nothing of a node and leaves its state alone. -/
theorem Turn.others {deed : Deed} {phase : Phase} (h : d.Turn t deed phase next) {other : Thread}
    (hother : other.InOrder d told) (hne : other.node ≠ t.node) :
    other.InOrder next (told ++ t.phase.news t.context) := by
  have hnews : eventsOf other.node (t.phase.news t.context) = [] := by
    have hne' : t.context.node ≠ other.node := Ne.symm hne
    cases t.phase <;> simp [eventsOf, Phase.news, DeviceEvent.node?, hne']
  have hstate : next.stateOf other.node = d.stateOf other.node := by
    cases h with
    | enters | stops => rw [stateOf_advanceState, if_neg hne]
    | announces | panics | fails | leaves => rw [stateOf, graph_publish, stateOf]
    | works | finishes | rests => rfl
  refine ⟨?_, hstate.trans hother.state, ?_⟩
  · rw [eventsOf_append, hnews, List.append_nil, hother.told]
  · rw [h.fields.2.1]
    exact hother.sound

theorem eventsOf_news (c : Context) (phase : Phase) : eventsOf c.node (phase.news c) = phase.news c := by
  cases phase <;> simp [eventsOf, Phase.news, DeviceEvent.node?]

/-- A thread stays in order at its turn, as long as only closing has closed a queue, unless its node panics. -/
theorem Turn.inOrder {deed : Deed} {phase : Phase} (h : d.Turn t deed phase next) (ht : t.InOrder d told)
    (hcalm : t.phase.Calm t.context d.now) (hopen : d.running = true → ∀ id q, d.store.get? id = some q → q.closed = false) :
    Thread.InOrder next (told ++ t.phase.news t.context) { t with phase } ∧ t.phase.state.Follows phase.state := by
  have hstate := ht.state
  have hsound := ht.sound
  have hgoal (htold : t.phase.announced t.context ++ t.phase.news t.context = phase.announced t.context)
      (hstate : next.stateOf t.node = some phase.state) (hsound : phase.Sound t.context next.running)
      (hfollows : t.phase.state.Follows phase.state) :
      Thread.InOrder next (told ++ t.phase.news t.context) { t with phase } ∧ t.phase.state.Follows phase.state := by
    refine ⟨⟨?_, hstate, hsound⟩, hfollows⟩
    have hnode : Thread.node { t with phase } = t.node := rfl
    rw [hnode, eventsOf_append, ht.told, ← htold]
    exact congrArg _ (eventsOf_news t.context t.phase)
  cases h with
  | enters body hphase =>
    rw [hphase] at hstate hsound hgoal ⊢
    refine hgoal rfl ?_ hsound (.inr (.inl ⟨rfl, rfl⟩))
    rw [stateOf_advanceState, if_pos rfl, hstate]
    rfl
  | announces body hphase p hstart =>
    rw [hphase] at hstate hsound hgoal ⊢
    refine hgoal rfl ?_ (fun e he => absurd he (hsound.start hstart e)) (.inl rfl)
    rw [stateOf, graph_publish]
    exact hstate
  | panics body hphase panic hstart =>
    rw [hphase, Phase.Calm, hstart] at hcalm
    cases hcalm
  | works p after deed store hphase hlive hstep =>
    rw [hphase] at hstate hgoal ⊢
    refine hgoal rfl hstate (fun e he => ?_) (.inl rfl)
    obtain ⟨hclosed, id, q, hq, hqclosed⟩ := hstep.error hlive he
    refine ⟨hclosed, Bool.not_eq_true _ ▸ fun hrunning => ?_⟩
    rw [hopen hrunning id q hq] at hqclosed
    cases hqclosed
  | finishes p result hphase hresult =>
    rw [hphase] at hstate hsound hgoal ⊢
    -- A failure at a closed queue is none, as the device has been told to stop before it closed any.
    have hstopping : Phase.afterRun d.running result = .stopping := by
      cases result with
      | ok => rfl
      | error e =>
        obtain ⟨hclosed, hrunning⟩ := hsound e hresult
        simp [Phase.afterRun, hclosed, hrunning]
    rw [hstopping] at hgoal ⊢
    exact hgoal rfl hstate trivial (.inl rfl)
  | fails error hphase =>
    rw [hphase] at hsound
    exact hsound.elim
  | stops hphase =>
    rw [hphase] at hstate hgoal ⊢
    refine hgoal rfl ?_ trivial (.inr (.inr ⟨rfl, rfl⟩))
    rw [stateOf_advanceState, if_pos rfl, hstate]
    rfl
  | leaves hphase =>
    rw [hphase] at hstate hgoal ⊢
    refine hgoal rfl ?_ trivial (.inl rfl)
    rw [stateOf, graph_publish]
    exact hstate
  | rests hphase =>
    rw [hphase] at hstate hgoal ⊢
    exact hgoal rfl hstate trivial (.inl rfl)

/-! ## Devices -/

/-- An event that is neither the last one nor a failure. -/
def Regular (event : DeviceEvent) : Prop :=
  event ≠ .closed ∧ event.isFailure = false

/-- The threads of the nodes are in order, and only closing has closed a queue. -/
structure Underway (nodes : List NodeId) (names : NodeId → String) (d : Device) (told : List DeviceEvent) : Prop where
  nodes : d.threads.map Thread.node = nodes
  names : ∀ t ∈ d.threads, t.name = names t.node
  inOrder : ∀ t ∈ d.threads, t.InOrder d told
  told : ∀ event ∈ told, Regular event
  unfinished : d.closing ≠ .finished
  running : d.running = true → d.closing = .notBegun
  isOpen : d.running = true → ∀ id q, d.store.get? id = some q → q.closed = false

/-- All threads are gone, and nothing is told after the end of closing. -/
structure Over (nodes : List NodeId) (names : NodeId → String) (d : Device) (told : List DeviceEvent) : Prop where
  closing : d.closing = .finished
  threads : d.threads = []
  events : ∀ id ∈ nodes, eventsOf id told = [.started id (names id), .stopped id (names id)]
  states : ∀ id ∈ nodes, d.stateOf id = some .stopped
  told : ∃ before, told = before ++ [.closed] ∧ ∀ event ∈ before, Regular event

variable {nodes : List NodeId} {names : NodeId → String} {m : Move}

theorem regular_of_inOrder (ht : t.InOrder d told) : ∀ event ∈ t.phase.news t.context, Regular event := by
  have hsound := ht.sound
  intro event hevent
  cases hphase : t.phase with
  | announcing | leaving =>
    rw [hphase] at hevent
    rw [List.mem_singleton.mp hevent]
    exact ⟨by simp, rfl⟩
  | failing error =>
    rw [hphase] at hsound
    exact hsound.elim
  | entering | working | stopping | gone =>
    rw [hphase] at hevent
    cases hevent

theorem Underway.not_running (h : Underway nodes names d told) (hbegun : d.closing ≠ .notBegun) : d.running = false :=
  Bool.not_eq_true _ ▸ fun hrunning => hbegun (h.running hrunning)

theorem Underway.turn (h : Underway nodes names d told) (hnodes : nodes.Nodup) {index : Nat} {deed : Deed}
    {phase : Phase} (ht : d.threads[index]? = some t) (hcalm : t.phase.Calm t.context d.now)
    (hturn : d.Turn t deed phase next) :
    Underway nodes names { next with threads := d.threads.set index { t with phase } }
      (told ++ t.phase.news t.context) := by
  have hmem := List.mem_of_getElem? ht
  have hself := (hturn.inOrder (h.inOrder t hmem) hcalm h.isOpen).1
  obtain ⟨hlt, hat⟩ := List.getElem?_eq_some_iff.mp ht
  obtain ⟨-, hrunning, hclosing, -, -⟩ := hturn.fields
  refine ⟨?_, fun other hother => ?_, fun other hother => ?_, fun event hevent => ?_, ?_, fun hrun => ?_,
    fun hrun id after hafter => ?_⟩
  · rw [← h.nodes]
    refine List.ext_getElem? fun j => ?_
    simp only [List.getElem?_map, List.getElem?_set]
    by_cases hj : index = j
    · subst hj
      simp [hlt, ← hat, Thread.node]
    · rw [if_neg hj]
  · rcases List.mem_or_eq_of_mem_set hother with hother | rfl
    · exact h.names other hother
    · exact h.names t hmem
  · obtain ⟨j, hj⟩ := List.mem_iff_getElem?.mp hother
    by_cases hindex : index = j
    · subst hindex
      rw [List.getElem?_set_self hlt] at hj
      rw [← Option.some.inj hj]
      exact hself.of_eq rfl id
    · -- Another thread is that of another node, because no node has two.
      rw [List.getElem?_set_ne hindex] at hj
      refine (hturn.others (h.inOrder other (List.mem_of_getElem? hj)) fun hsame => hindex ?_).of_eq rfl id
      have hlt' : index < (d.threads.map Thread.node).length := by simpa using hlt
      refine (List.getElem?_inj hlt' (h.nodes ▸ hnodes)).mp ?_
      rw [List.getElem?_map, List.getElem?_map, ht, hj, Option.map_some, Option.map_some, hsame]
  · rcases List.mem_append.mp hevent with hevent | hevent
    · exact h.told event hevent
    · exact regular_of_inOrder (h.inOrder t hmem) event hevent
  · rw [hclosing]
    exact h.unfinished
  · rw [hclosing]
    exact h.running (hrunning ▸ hrun)
  · obtain ⟨q, hq, hclosed⟩ := hturn.closed hafter
    rw [hclosed]
    exact h.isOpen (hrunning ▸ hrun) id q hq

/-- What is neither a thread nor their graph may change, as long as it is not a queue that is closed meanwhile. -/
theorem Underway.of_eq (h : Underway nodes names d told) (hthreads : next.threads = d.threads)
    (hgraph : next.graph = d.graph) (hrunning : next.running = true → d.running = true)
    (hclosing : next.closing ≠ .finished) (hbegun : next.running = true → next.closing = .notBegun)
    (hopen : next.running = true → ∀ id after, next.store.get? id = some after →
      ∃ q, d.store.get? id = some q ∧ (q.closed = false → after.closed = false)) :
    Underway nodes names next told where
  nodes := by rw [hthreads, h.nodes]
  names := by rw [hthreads]; exact h.names
  inOrder := by
    rw [hthreads]
    exact fun t ht => (h.inOrder t ht).of_eq hgraph hrunning
  told := h.told
  unfinished := hclosing
  running := hbegun
  isOpen hrun id after hafter := by
    obtain ⟨q, hq, hstays⟩ := hopen hrun id after hafter
    exact hstays (h.isOpen (hrunning hrun) id q hq)

theorem Underway.finish (h : Underway nodes names d told) (hgone : ∀ t ∈ d.threads, t.phase.isGone = true) :
    Over nodes names d.finishClosing (told ++ [.closed]) := by
  have hlast (id : NodeId) (hid : id ∈ nodes) :
      eventsOf id told = [.started id (names id), .stopped id (names id)] ∧ d.stateOf id = some .stopped := by
    rw [← h.nodes] at hid
    obtain ⟨t, ht, rfl⟩ := List.mem_map.mp hid
    have horder := h.inOrder t ht
    rw [← h.names t ht, horder.told, horder.state, Phase.eq_gone (hgone t ht)]
    exact ⟨rfl, rfl⟩
  refine ⟨by rw [finishClosing, closing_publish], by rw [finishClosing, threads_publish], fun id hid => ?_,
    fun id hid => stateOf_finishClosing (hlast id hid).2, told, rfl, h.told⟩
  rw [eventsOf_append, (hlast id hid).1]
  simp [eventsOf, DeviceEvent.node?]

/-- No node panics in a move. -/
def Calm (d : Device) (m : Move) : Prop :=
  ∀ index t, m = .thread index → d.threads[index]? = some t → t.phase.Calm t.context d.now

/-- No move but the last one of closing ends the course of the nodes, unless a node panics or the host closes a queue. -/
theorem Underway.step (h : Underway nodes names d told) (hnodes : nodes.Nodup) (hstep : d.Step m next)
    (hcalm : d.Calm m) (hcall : ∀ id, m ≠ .call id .close) :
    Underway nodes names next (told ++ d.news m) ∨ Over nodes names next (told ++ d.news m) := by
  have hsame (hnews : d.news m = []) (hnext : Underway nodes names next told) :
      Underway nodes names next (told ++ d.news m) ∨ Over nodes names next (told ++ d.news m) := by
    rw [hnews, List.append_nil]
    exact .inl hnext
  cases hstep with
  | absent index hnone => exact hsame (by simp [news, hnone]) h
  | turn index t phase after ht hturn =>
    have hnews : d.news (.thread index) = t.phase.news t.context := by simp [news, ht]
    rw [hnews]
    exact .inl (h.turn hnodes ht (hcalm index t rfl ht) hturn)
  | begins _ hclosing =>
    refine hsame (by simp [news, hclosing]) (h.of_eq rfl rfl ?_ ?_ ?_ ?_)
    all_goals simp
  | closes _ left id hclosing hid =>
    have hstopped := h.not_running (by simp [hclosing])
    refine hsame (by simp [news, hclosing]) (h.of_eq rfl rfl ?_ ?_ ?_ ?_)
    all_goals simp [hstopped]
  | joins _ hclosing =>
    have hstopped := h.not_running (by simp [hclosing])
    refine hsame (by simp [news, hclosing]) (h.of_eq rfl rfl ?_ ?_ ?_ ?_)
    all_goals simp [hstopped]
  | waits _ t ht hclosing hthere =>
    have hnot : ¬∀ t ∈ d.threads, t.phase.isGone = true := fun hall => by simp [hall t ht] at hthere
    exact hsame (by simp [news, hnot]) h
  | finishes _ hclosing hgone =>
    rw [news, if_pos ⟨hclosing, hgone⟩]
    exact .inr (h.finish hgone)
  | isOver _ hclosing => exact absurd hclosing h.unfinished
  | call id call =>
    -- The host does not close the queue, so whatever it does, an open queue stays open.
    have hother : call ≠ .close := fun hclose => hcall id (by rw [hclose])
    refine hsame rfl (h.of_eq rfl rfl (fun hrun => hrun) h.unfinished h.running fun hrun other after hafter => ?_)
    obtain ⟨q, hq, hclosed⟩ := d.call_closed id hother hafter
    exact ⟨q, hq, fun hopen => hclosed.trans hopen⟩
  | listens | elapses =>
    exact hsame rfl (h.of_eq rfl rfl (fun hrun => hrun) h.unfinished h.running fun _ _ q hq => ⟨q, hq, fun hopen => hopen⟩)

theorem Underway.exists_thread (h : Underway nodes names d told) {id : NodeId} (hid : id ∈ nodes) :
    ∃ t ∈ d.threads, t.node = id := by
  rw [← h.nodes] at hid
  exact List.mem_map.mp hid

theorem Underway.follows (h : Underway nodes names d told) (hstep : d.Step m next) (hcalm : d.Calm m) {id : NodeId}
    (hid : id ∈ nodes) :
    ∃ s after, d.stateOf id = some s ∧ next.stateOf id = some after ∧ s.Follows after := by
  obtain ⟨t, ht, rfl⟩ := h.exists_thread hid
  have horder := h.inOrder t ht
  have hsame (hstate : next.stateOf t.node = d.stateOf t.node) :
      ∃ s after, d.stateOf t.node = some s ∧ next.stateOf t.node = some after ∧ s.Follows after :=
    ⟨_, _, horder.state, hstate.trans horder.state, .inl rfl⟩
  cases hstep with
  | turn index actor phase after hactor hturn =>
    by_cases hnode : t.node = actor.node
    · have hactor' := h.inOrder actor (List.mem_of_getElem? hactor)
      obtain ⟨hself, hfollows⟩ := hturn.inOrder hactor' (hcalm index actor rfl hactor) h.isOpen
      rw [hnode]
      exact ⟨_, _, hactor'.state, hself.state, hfollows⟩
    · exact hsame ((hturn.others horder hnode).state.trans horder.state.symm)
  | finishes _ _ hgone =>
    have hstopped := (h.finish hgone).states t.node hid
    have hlast : t.phase.state = .stopped := by rw [Phase.eq_gone (hgone t ht)]; rfl
    exact ⟨_, _, horder.state, hstopped, .inl hlast.symm⟩
  | _ => exact hsame rfl

/-- After the end of closing nothing happens to the nodes, and nothing is told. -/
theorem Over.step (h : Over nodes names d told) (hstep : d.Step m next) :
    Over nodes names next told ∧ d.reads m ++ next.events = d.events := by
  obtain ⟨hclosing, hthreads, hevents, hstates, htold⟩ := h
  cases hstep with
  | absent | waits | isOver => exact ⟨⟨hclosing, hthreads, hevents, hstates, htold⟩, rfl⟩
  | turn index t phase after ht =>
    rw [hthreads] at ht
    cases ht
  | begins _ hclosing' | closes _ _ _ hclosing' | joins _ hclosing' | finishes _ hclosing' =>
    rw [hclosing] at hclosing'
    cases hclosing'
  | call | elapses => exact ⟨⟨hclosing, hthreads, hevents, hstates, htold⟩, rfl⟩
  | listens =>
    refine ⟨⟨hclosing, hthreads, hevents, hstates, htold⟩, ?_⟩
    cases h : d.events <;> simp [reads, listen, h]

theorem Over.course (h : Over nodes names d told) (later : List Move) :
    Over nodes names (d.course later) told ∧ d.told later = d.events := by
  induction later generalizing d with
  | nil => exact ⟨h, rfl⟩
  | cons m rest ih =>
    obtain ⟨hnext, hread⟩ := h.step (d.move_spec m)
    obtain ⟨hlast, hrest⟩ := ih hnext
    refine ⟨hlast, ?_⟩
    rw [← hread, ← hrest]
    exact List.append_assoc ..

theorem told_append (d : Device) (before later : List Move) :
    d.told (before ++ later) = along reads d before ++ (d.course before).told later := by
  rw [Device.told, along_append, course_append, List.append_assoc, Device.told]

variable {s : Settings} {g : Graph}

theorem inOrder_of_posted {contexts : NodeId → Context} {served : List Served}
    (hbuiltin : ∀ id body, g.bodyAt id = some body → body.kind?.isSome = true)
    (hstate : d.stateOf t.node = some .linked)
    (h : Posted g contexts served t) : t.InOrder d [] := by
  cases h with
  | plain id body hbody hstream =>
    exact ⟨rfl, hstate, hbuiltin id body hbody, fun hserves => by simp [hstream] at hserves⟩
  | bridge id body stream queue hbody hstream hserved => exact ⟨rfl, hstate, hbuiltin id body hbody, fun _ => rfl⟩

theorem underway_started (hg : g.Assembled)
    (hbuiltin : ∀ n ∈ g.nodes, ∀ body, n.body = some body → body.kind?.isSome = true)
    (hstart : (ofSettings s).start g = (.ok (), d)) :
    ∃ nodes : List NodeId, nodes.Nodup ∧ (∀ i, ⟨i⟩ ∈ nodes ↔ i < g.nodes.length) ∧
      Underway nodes (fun id => (g.nodes[id.index]?.map Node.name).getD "") d [] ∧ d.told [] = [] ∧
      ∀ id ∈ nodes, d.stateOf id = some .linked := by
  have hopen (id : QueueId) (q : Queue Message) (hq : d.store.get? id = some q) : q.closed = false := by
    obtain ⟨name, capacity, blocking, rfl⟩ := queue_of_started hg hstart hq
    rfl
  obtain ⟨plan, w, next, launch, hplan, hwiring, hmanned, rfl⟩ := started hstart
  have hperm := hg.arises.order_perm hplan
  have hmem (i : Nat) : NodeId.mk i ∈ plan.order.map NodeId.mk ↔ i < g.nodes.length := by
    rw [hperm.mem_iff, Graph.nodeIds, List.mem_map]
    exact ⟨fun ⟨j, hj, hsame⟩ => NodeId.mk.inj hsame ▸ List.mem_range.mp hj, fun hi => ⟨i, List.mem_range.mpr hi, rfl⟩⟩
  have hfields (id : NodeId) := (ofSettings s).contextOf_fields g.build.2 w id
  have hbuilt := hg.arises.consistent.build_eq hplan
  have hlinked (id : NodeId) (hid : id ∈ plan.order.map NodeId.mk) :
      stateOf { next with graph := some launch.graph, running := true, now := 0, threads := launch.threads } id =
        some .linked := by
    rw [stateOf, Option.bind_some, hmanned.graph, Graph.stateOf_without]
    exact hg.stateOf_build hplan ((hmem id.index).mp hid)
  refine ⟨plan.order.map NodeId.mk, hmanned.startable.nodup, hmem, ⟨hmanned.nodes, fun t ht => ?_, fun t ht => ?_,
    fun _ h => (nomatch h), ?_, fun _ => ?_, fun _ => hopen⟩, ?_, hlinked⟩
  · have hname (id : NodeId) : ((ofSettings s).contextOf g.build.2 w id).name =
        (g.nodes[id.index]?.map Node.name).getD "" := by
      rw [(hfields id).2.2, hbuilt]
      simp [Graph.built, Function.comp_def]
    cases hmanned.posted t ht with
    | plain id | bridge id => exact (hname id).trans (by rw [Thread.node]; simp [Context.setHost, hfields id])
  · refine inOrder_of_posted (g := g.build.2) (fun id body hbody => ?_) (hlinked t.node ?_) (hmanned.posted t ht)
    · rw [hbuilt, Graph.bodyAt_built] at hbody
      obtain ⟨n, hn, hbody⟩ := Option.bind_eq_some_iff.mp hbody
      exact hbuiltin n (List.mem_of_getElem? hn) body hbody
    · rw [← hmanned.nodes]
      exact List.mem_map_of_mem ht
  · rw [hmanned.device]
    simp [ofSettings]
  · rw [hmanned.device]
    rfl
  · rw [Device.told, along]
    change next.events = []
    rw [hmanned.device]
    rfl

def HasRoom (d : Device) : Prop :=
  d.events.length < d.eventCapacity

/-- As long as events find room, no node panics and the host closes no queue. -/
theorem Underway.course (h : Underway nodes names d []) (htold : d.told [] = []) (hnodes : nodes.Nodup)
    {moves : List Move} (hcalls : ∀ id, Move.call id .close ∉ moves)
    (hroom : ∀ before m later, moves = before ++ m :: later → (d.course before).HasRoom)
    (hcalm : ∀ before m later, moves = before ++ m :: later → (d.course before).Calm m) :
    Underway nodes names (d.course moves) (d.told moves) ∨ Over nodes names (d.course moves) (d.told moves) := by
  induction moves using List.reverseRecOn with
  | nil =>
    rw [htold]
    exact .inl h
  | append_singleton before m ih =>
    have hbefore := ih (fun id hmem => hcalls id (List.mem_append_left _ hmem))
      (fun first mid later hsplit => hroom first mid (later ++ [m]) (by rw [hsplit]; simp))
      fun first mid later hsplit => hcalm first mid (later ++ [m]) (by rw [hsplit]; simp)
    rw [course_concat, told_concat d before m (hroom before m [] rfl)]
    rcases hbefore with hunderway | hover
    · exact hunderway.step hnodes ((d.course before).move_spec m) (hcalm before m [] rfl) fun id hm => hcalls id (by simp [hm])
    · have hnews : (d.course before).news m = [] := by
        cases m with
        | thread index => simp [news, hover.threads]
        | teardown pick => simp [news, hover.closing]
        | _ => rfl
      rw [hnews, List.append_nil]
      exact .inr (hover.step ((d.course before).move_spec m)).1

/-- Of a node that is built in a device tells nothing, or that it has started, or that it has started and that it has
stopped, as long as no node panics. It tells of no failure, and at the end of closing that it is closed, which is the
last thing that it tells. The node is linked, running and stopped in turn. -/
theorem lifecycle_orderly (s : Settings) (g : Graph) (d : Device) (moves : List Move) (hg : g.Assembled)
    (hbuiltin : ∀ n ∈ g.nodes, ∀ body, n.body = some body → body.kind?.isSome = true)
    (hstart : (ofSettings s).start g = (.ok (), d)) (hcalls : ∀ id, Move.call id .close ∉ moves)
    (hroom : ∀ before m later, moves = before ++ m :: later → (d.course before).HasRoom)
    (hcalm : ∀ before m later, moves = before ++ m :: later → (d.course before).Calm m) :
    (∀ i n, g.nodes[i]? = some n →
      let started : DeviceEvent := .started ⟨i⟩ n.name
      let stopped : DeviceEvent := .stopped ⟨i⟩ n.name
      (eventsOf ⟨i⟩ (d.told moves) = [] ∨ eventsOf ⟨i⟩ (d.told moves) = [started] ∨
        eventsOf ⟨i⟩ (d.told moves) = [started, stopped]) ∧
      ((d.course moves).closing = .finished →
        eventsOf ⟨i⟩ (d.told moves) = [started, stopped] ∧ (d.course moves).stateOf ⟨i⟩ = some .stopped) ∧
      d.stateOf ⟨i⟩ = some .linked ∧
      ∀ before m later, moves = before ++ m :: later → ∃ state next, (d.course before).stateOf ⟨i⟩ = some state ∧
        (d.course (before ++ [m])).stateOf ⟨i⟩ = some next ∧ state.Follows next) ∧
    (∀ event ∈ d.told moves, event.isFailure = false) ∧
    ((d.course moves).closing ≠ .finished → .closed ∉ d.told moves) ∧
    ((d.course moves).closing = .finished →
      (∃ before, d.told moves = before ++ [.closed] ∧ .closed ∉ before) ∧
      ∀ later, d.told (moves ++ later) = d.told moves ∧ (d.course (moves ++ later)).closing = .finished) := by
  obtain ⟨nodes, hnodes, hmem, hunderway, htold, hlinked⟩ := underway_started hg hbuiltin hstart
  have hrun := hunderway.course htold hnodes hcalls hroom hcalm
  refine ⟨fun i n hn => ?_, fun event hevent => ?_, fun hunfinished hclosed => ?_, fun hfinished => ?_⟩
  · have hid : NodeId.mk i ∈ nodes := (hmem i).mpr (List.getElem?_eq_some_iff.mp hn).1
    have hname : ((g.nodes[(NodeId.mk i).index]?.map Node.name).getD "") = n.name := by rw [hn]; rfl
    refine ⟨?_, fun hfinished => ?_, hlinked _ hid, fun before m later hsplit => ?_⟩
    · rcases hrun with hrun | hover
      · obtain ⟨t, ht, hnode⟩ := hrun.exists_thread hid
        have hevents := (hrun.inOrder t ht).told
        have htname := hrun.names t ht
        rw [hnode] at hevents htname
        rw [hevents]
        have hcontext : t.context.node = ⟨i⟩ ∧ t.context.name = n.name := ⟨hnode, htname.trans hname⟩
        cases t.phase <;> simp [Phase.announced, hcontext]
      · exact .inr (.inr (hname ▸ hover.events _ hid))
    · rcases hrun with hrun | hover
      · exact absurd hfinished hrun.unfinished
      · exact ⟨hname ▸ hover.events _ hid, hover.states _ hid⟩
    · have hbefore : Underway nodes _ (d.course before) (d.told before) ∨ Over nodes _ (d.course before) _ :=
        hunderway.course htold hnodes (fun id hmem => hcalls id (by rw [hsplit]; exact List.mem_append_left _ hmem))
          (fun first mid rest hsplit' => hroom first mid (rest ++ m :: later) (by rw [hsplit, hsplit']; simp))
          fun first mid rest hsplit' => hcalm first mid (rest ++ m :: later) (by rw [hsplit, hsplit']; simp)
      have hstep := (d.course before).move_spec m
      rw [← course_concat] at hstep
      rcases hbefore with hbefore | hover
      · exact hbefore.follows hstep (hcalm before m later hsplit) hid
      · exact ⟨_, _, hover.states _ hid, (hover.step hstep).1.states _ hid, .inl rfl⟩
  · rcases hrun with hrun | hover
    · exact (hrun.told event hevent).2
    · obtain ⟨before, htold, hregular⟩ := hover.told
      rw [htold] at hevent
      rcases List.mem_append.mp hevent with hevent | hevent
      · exact (hregular event hevent).2
      · rw [List.mem_singleton.mp hevent]
        rfl
  · rcases hrun with hrun | hover
    · exact (hrun.told _ hclosed).1 rfl
    · exact hunfinished hover.closing
  · rcases hrun with hrun | hover
    · exact absurd hfinished hrun.unfinished
    · obtain ⟨before, htold, hregular⟩ := hover.told
      refine ⟨⟨before, htold, fun hclosed => (hregular _ hclosed).1 rfl⟩, fun later => ?_⟩
      obtain ⟨hlast, hquiet⟩ := hover.course later
      rw [told_append, hquiet, course_append]
      exact ⟨rfl, hlast.closing⟩

/-- Of two bridges the first finds its queue closed while it looks for a message. -/
theorem lifecycle_orderly_bridges :
    let g : Graph := ({} : Graph).after [
      .operation (.createNamed "in" (.xlinkIn { stream := "a" })),
      .operation (.createNamed "out" (.xlinkOut { stream := "b" })), .operation (.link ⟨0, 0⟩ ⟨1, 0⟩)]
    let d := ((ofSettings {}).start g).2
    let moves : List Move := List.replicate 3 (.thread 0) ++ [.thread 1, .listen, .call 1 (.send ⟨10, 0, .buffer []⟩)] ++
      List.replicate 5 (.teardown 1) ++ List.replicate 5 (.thread 0) ++ List.replicate 8 (.thread 1) ++ [.teardown 0]
    (d.course moves).closing = .finished ∧
      eventsOf ⟨0⟩ (d.told moves) = [.started ⟨0⟩ "in", .stopped ⟨0⟩ "in"] ∧
      (d.course moves).stateOf ⟨1⟩ = some .stopped ∧
      (∃ before, d.told moves = before ++ [.closed] ∧ .closed ∉ before) ∧
      (∀ event ∈ d.told moves, event.isFailure = false) ∧ (d.told moves).length = 5 := by
  intro g d moves
  have hg : g.Assembled := ⟨_, by simp [Occurrence.isCall], rfl⟩
  have hbuiltin : ∀ n ∈ g.nodes, ∀ body ∈ n.body, body.kind?.isSome = true := by decide +kernel
  have hok : ((ofSettings {}).start g).1 = .ok () := by decide +kernel
  have hcalls : ∀ id, Move.call id .close ∉ moves := by simp [moves]
  have hroom : throughout (fun e => decide (e.events.length < e.eventCapacity)) d moves = true := by decide +kernel
  have hcalm : throughout (fun e => decide (∀ t ∈ e.threads, t.phase.Calm t.context e.now)) d moves = true := by
    decide +kernel
  have hfinished : (d.course moves).closing = .finished ∧ (d.told moves).length = 5 := by decide +kernel
  have hstart : (ofSettings {}).start g = (.ok (), d) := by rw [← hok]
  obtain ⟨hnodes, hfailures, -, hclosed⟩ := lifecycle_orderly {} g d moves hg hbuiltin hstart hcalls
    (fun before m later hsplit => by simpa [HasRoom] using of_throughout hroom ⟨m :: later, hsplit.symm⟩)
    fun before m later hsplit index t _ ht =>
      of_decide_eq_true (of_throughout hcalm ⟨m :: later, hsplit.symm⟩) t (List.mem_of_getElem? ht)
  obtain ⟨first, hfirst, hfirstName⟩ : ∃ n, g.nodes[0]? = some n ∧ n.name = "in" := ⟨_, rfl, rfl⟩
  obtain ⟨second, hsecond⟩ : ∃ n, g.nodes[1]? = some n := ⟨_, rfl⟩
  obtain ⟨-, hends, -⟩ := hnodes 0 first hfirst
  obtain ⟨-, hends', -⟩ := hnodes 1 second hsecond
  rw [hfirstName] at hends
  exact ⟨hfinished.1, (hends hfinished.1).1, (hends' hfinished.1).2, (hclosed hfinished.1).1, hfailures, hfinished.2⟩

end Device

end FrameGraph
