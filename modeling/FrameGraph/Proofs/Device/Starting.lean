import FrameGraph.Proofs.Device.Launching
import FrameGraph.Proofs.Device.Moving

/-!
# Starting a device

* `Graph.Assembled.startable_iff`: the nodes of a graph that calls have put together can all be started, unless two of
  their streams have one name.
* `Graph.QueuesFit`: all queues of a graph can be made. `Graph.Arises.queuesFit_iff` reads it off the plan.
* `Device.Incident`: starts, and whatever else may happen to a device. `Device.live` is the device after some.
* `Device.Orderly`: what is true of a device at any time, as long as no start panics. `Device.Orderly.start` and
  `Device.Step.orderly` are the steps.
* `Device.Timeless`: edits that neither look at the time nor set it.
* `Device.start_all_or_nothing`: when a start succeeds, and what is left when it does not. `Device.start_overtaxed`: what
  is left when it panics.
-/

namespace FrameGraph
set_option autoImplicit false

/-! ## Graphs that calls have put together -/

/-- A node that no device has laid hands on. -/
structure Node.Untouched (n : Node) : Prop where
  body : n.body.isSome = true
  state : n.state.rank ≤ NodeState.linked.rank

theorem Node.Revision.untouched {n next : Node} {id : NodeId} (h : n.Revision id next) (hn : n.Untouched) :
    next.Untouched := by
  cases h with
  | body body => exact ⟨rfl, show NodeState.configured.rank ≤ NodeState.linked.rank by decide⟩
  | entry | queue => exact ⟨hn.body, hn.state⟩
  | request => exact ⟨by rw [Option.isSome_map]; exact hn.body, hn.state⟩

theorem NodeState.rank_advance_le {s next : NodeState} {bound : Nat} (hs : s.rank ≤ bound) (hnext : next.rank ≤ bound) :
    (s.advance next).rank ≤ bound := by
  unfold advance
  split <;> assumption

namespace Graph
variable {g next : Graph}

theorem Change.untouched (h : g.Change next) (hg : ∀ n ∈ g.nodes, n.Untouched) : ∀ n ∈ next.nodes, n.Untouched := by
  intro m hm
  cases h with
  | insert name body n _ _ hmake =>
    rcases List.mem_append.mp hm with hm | hm
    · exact hg m hm
    · rw [List.mem_singleton.mp hm, Node.eq_of_make hmake]
      exact ⟨rfl, show NodeState.constructed.rank ≤ NodeState.linked.rank by decide⟩
  | revise id n revised hn _ hrevised =>
    rcases List.mem_or_eq_of_mem_set hm with hm | rfl
    · exact hg m hm
    · exact hrevised.untouched (hg n (List.mem_of_getElem? hn))
  | link | unlink => exact hg m hm
  | build plan =>
    obtain ⟨n, hn, rfl⟩ := List.mem_map.mp hm
    exact ⟨(hg n hn).body, NodeState.rank_advance_le (hg n hn).state (Nat.le_refl _)⟩

theorem Assembled.arises (h : g.Assembled) : g.Arises := by
  obtain ⟨calls, hcalls, rfl⟩ := h
  exact Arises.empty.after hcalls

theorem Assembled.build (h : g.Assembled) : g.build.2.Assembled := by
  obtain ⟨calls, hcalls, rfl⟩ := h
  refine ⟨calls ++ [.operation .build], fun c hc => ?_, ?_⟩
  · rcases List.mem_append.mp hc with hc | hc
    · exact hcalls c hc
    · rw [List.mem_singleton.mp hc]
      rfl
  · rw [after_append]
    exact Verdict.ofBuild_snd Answer.plan _

theorem untouched_after (hg : ∀ n ∈ g.nodes, n.Untouched) {calls : List Occurrence}
    (hcalls : ∀ c ∈ calls, c.isCall = true) : ∀ n ∈ (g.after calls).nodes, n.Untouched := by
  induction calls generalizing g with
  | nil => exact hg
  | cons call rest ih =>
    obtain ⟨hcall, hrest⟩ := List.forall_mem_cons.mp hcalls
    refine ih (g := call.apply g) ?_ hrest
    rcases call.kept hcall g with hsame | hchange
    · rw [hsame]
      exact hg
    · exact hchange.untouched hg

theorem Assembled.untouched (h : g.Assembled) : ∀ n ∈ g.nodes, n.Untouched := by
  obtain ⟨calls, hcalls, rfl⟩ := h
  exact untouched_after (fun _ hn => absurd hn List.not_mem_nil) hcalls

/-! ## Streams -/

def streams (g : Graph) : List HostStream :=
  g.nodeIds.filterMap g.streamAt

theorem bodyAt_built (g : Graph) (plan : Plan) (id : NodeId) : (g.built plan).bodyAt id = g.bodyAt id := by
  simp only [bodyAt, built, List.getElem?_map]
  cases g.nodes[id.index]? <;> rfl

theorem streamAt_built (g : Graph) (plan : Plan) : (g.built plan).streamAt = g.streamAt := by
  funext id
  rw [streamAt, bodyAt_built, streamAt]

theorem Arises.exists_build_iff (hg : g.Arises) : (∃ plan, g.build.1 = .ok plan) ↔ Acyclic g.Feeds := by
  have hfeeds : FrameGraph.Feeds (g.nodes.map Node.name).length g.edges = g.Feeds := by
    funext v w
    exact propext hg.wellLinked.feeds_iff
  simp only [hg.consistent.build_eq_ok_iff, Plan.exists_compile_iff, hfeeds]

theorem Arises.order_perm (hg : g.Arises) {plan : Plan} (hplan : g.build.1 = .ok plan) :
    (plan.order.map NodeId.mk).Perm g.nodeIds := by
  have hperm := Plan.order_perm_of_compile ((hg.consistent.build_eq_ok_iff plan).mp hplan)
  rw [List.length_map] at hperm
  exact hperm.map NodeId.mk

/-- The plan has every node once, and every node has its body. -/
theorem Assembled.startable_iff (hg : g.Assembled) {plan : Plan} (hplan : g.build.1 = .ok plan) :
    g.build.2.Startable (plan.order.map NodeId.mk) ↔ (g.streams.map HostStream.name).Nodup := by
  have hperm := hg.arises.order_perm hplan
  have hnames : (((plan.order.map NodeId.mk).filterMap g.build.2.streamAt).map HostStream.name).Perm
      (g.streams.map HostStream.name) := by
    rw [hg.arises.consistent.build_eq hplan, streamAt_built]
    exact (hperm.filterMap _).map _
  refine ⟨fun h => hnames.nodup_iff.mp h.names, fun h => ⟨?_, fun id hid => ?_, hnames.nodup_iff.mpr h⟩⟩
  · refine hperm.nodup_iff.mpr (List.Nodup.map ?_ List.nodup_range)
    exact fun i j hij => NodeId.mk.inj hij
  · obtain ⟨i, hi, rfl⟩ := List.mem_map.mp (hperm.mem_iff.mp hid)
    have hlt := List.mem_range.mp hi
    have hn : g.nodes[i]? = some g.nodes[i] := List.getElem?_eq_getElem hlt
    rw [hg.arises.consistent.build_eq hplan, bodyAt_built, bodyAt, hn, Option.bind_some]
    exact (hg.untouched g.nodes[i] (List.mem_of_getElem? hn)).body

/-! ## Room for the queues -/

/-- No linked input and no stream asks for more room than a queue can have. -/
structure QueuesFit (g : Graph) (hostQueues : QueueSettings) : Prop where
  inlets : g.InletsFit
  streams : ∀ stream ∈ g.streams, stream.depth hostQueues ≤ Queue.maxCapacity

theorem inletsFit_built (g : Graph) (plan : Plan) : (g.built plan).InletsFit ↔ g.InletsFit := by
  have hports (p : PortId) (input : Port) : (g.built plan).descriptor p = .ok input ↔ g.descriptor p = .ok input := by
    simp only [descriptor_eq_ok_iff, built, List.getElem?_map, Option.map_eq_some_iff]
    constructor
    · rintro ⟨_, ⟨n, hn, rfl⟩, hport⟩
      exact ⟨n, hn, hport⟩
    · rintro ⟨n, hn, hport⟩
      exact ⟨_, ⟨n, hn, rfl⟩, hport⟩
  simp only [InletsFit, hports]
  rfl

/-- The plan has all the streams of the graph. -/
theorem Arises.queuesFit_iff (hg : g.Arises) (d : Device) {plan : Plan} (hplan : g.build.1 = .ok plan) :
    g.build.2.InletsFit ∧ d.StreamsFit g.build.2 (plan.order.map NodeId.mk) ↔ g.QueuesFit d.hostQueues := by
  have hperm := hg.order_perm hplan
  rw [hg.consistent.build_eq hplan, inletsFit_built, Device.StreamsFit, streamAt_built]
  refine ⟨fun ⟨hinlets, hstreams⟩ => ⟨hinlets, fun stream hmem => ?_⟩, fun h => ⟨h.inlets, fun id hid stream hat => ?_⟩⟩
  · obtain ⟨id, hid, hat⟩ := List.mem_filterMap.mp hmem
    exact hstreams id (hperm.mem_iff.mpr hid) stream hat
  · exact h.streams stream (List.mem_filterMap.mpr ⟨id, hperm.mem_iff.mp hid, hat⟩)

end Graph

namespace HostStream

def outputName? : HostStream → Option String
  | output name => some name
  | input .. => none

def inputName? : HostStream → Option String
  | input name .. => some name
  | output _ => none

end HostStream

namespace Device
variable {s : Settings} {d next : Device} {g : Graph}

theorem outputNames_eq (d : Device) : d.outputNames = (d.served.map Served.stream).filterMap HostStream.outputName? := by
  rw [List.filterMap_map]
  rfl

theorem inputNames_eq (d : Device) : d.inputNames = (d.served.map Served.stream).filterMap HostStream.inputName? := by
  rw [List.filterMap_map]
  rfl

theorem Manned.perm_streams {base : Device} {contexts : NodeId → Context} {plan : Plan} {l : Launch} (hg : g.Arises)
    (hplan : g.build.1 = .ok plan)
    (h : Manned base g.build.2 contexts (plan.order.map NodeId.mk) d l) : (d.served.map Served.stream).Perm g.streams := by
  rw [h.streams, hg.consistent.build_eq hplan, Graph.streamAt_built]
  exact (hg.order_perm hplan).filterMap _

/-! ## Whatever may happen to a device -/

inductive Incident where
  | start (g : Graph)
  | move (m : Move)

def meet (d : Device) : Incident → Device
  | .start g => (d.start g).2
  | .move m => d.move m

def live (d : Device) (history : List Incident) : Device :=
  history.foldl meet d

theorem live_append (d : Device) (before later : List Incident) :
    d.live (before ++ later) = (d.live before).live later :=
  List.foldl_append

/-- None of the starts in a history panics. -/
def Unbroken (d : Device) (history : List Incident) : Prop :=
  ∀ before g later, history = before ++ .start g :: later → ∀ panic, ((d.live before).start g).1 ≠ .error (.panicked panic)

theorem unbroken_nil (d : Device) : d.Unbroken [] :=
  fun before _ _ h => absurd h (by simp)

theorem Unbroken.tail {incident : Incident} {rest : List Incident} (h : d.Unbroken (incident :: rest)) :
    (d.meet incident).Unbroken rest := by
  rintro before g later rfl
  exact h (incident :: before) g later rfl

theorem Unbroken.head {rest : List Incident} (h : d.Unbroken (.start g :: rest)) (panic : Panic) :
    (d.start g).1 ≠ .error (.panicked panic) :=
  h [] g rest rfl panic

theorem Unbroken.of_append {before later : List Incident} (h : d.Unbroken (before ++ later)) :
    d.Unbroken before ∧ (d.live before).Unbroken later := by
  refine ⟨?_, ?_⟩
  · rintro earlier g rest rfl
    exact h earlier g (rest ++ later) (by simp)
  · rintro earlier g rest rfl
    rw [← live_append]
    exact h (before ++ earlier) g rest (by simp)

end Device

/-- The queues that may still be open while a device is closing. -/
def Closing.remaining? : Closing → Option (List QueueId)
  | notBegun => none
  | closingQueues left => some left
  | joining | finished => some []

namespace Device
variable {s : Settings} {d next : Device} {g : Graph}

/-- What is true of a device at any time, as long as no start panics. -/
structure Orderly (s : Settings) (d : Device) : Prop where
  /-- Nothing is in place before the device has started. -/
  blank : d.closing = .notBegun → d.running = false → d = { ofSettings s with now := d.now }
  served : ∀ e ∈ d.served, e.queue < d.store.size
  closed : ∀ left, d.closing.remaining? = some left → ∀ id q, d.store.get? id = some q → q.closed = false → id ∈ left

theorem orderly_ofSettings (s : Settings) : (ofSettings s).Orderly s where
  blank _ _ := rfl
  served _ h := nomatch h
  closed _ h := nomatch h

theorem Step.open_before {m : Move} (h : d.Step m next) {id : QueueId} {after : Queue Message}
    (hafter : next.store.get? id = some after) (hopen : after.closed = false) :
    ∃ q, d.store.get? id = some q ∧ q.closed = false := by
  have hlt : id < d.store.size := h.size ▸ (List.getElem?_eq_some_iff.mp hafter).1
  have hq : d.store.get? id = some d.store.queues[id] := List.getElem?_eq_getElem hlt
  obtain ⟨other, hother, hchange⟩ := h.change hq
  obtain rfl : after = other := Option.some.inj (hafter.symm.trans hother)
  refine ⟨_, hq, ?_⟩
  cases hclosed : d.store.queues[id].closed with
  | false => rfl
  | true =>
    rw [hchange.stays_closed hclosed] at hopen
    cases hopen

/-- Before the device has started, time is all that a move can change without closing it. -/
theorem Step.blank {m : Move} (h : d.Step m next) (hd : d.Orderly s) (hclosing : next.closing = .notBegun)
    (hresting : next.running = false) : next = { ofSettings s with now := next.now } := by
  have hblank := hd.blank
  cases h with
  | absent | waits | isOver => exact hblank hclosing hresting
  | begins | closes | joins => cases hclosing
  | finishes =>
    rw [finishClosing, closing_publish] at hclosing
    cases hclosing
  | turn index t phase after ht hturn =>
    obtain ⟨-, hrunning, hclosing', -, -⟩ := hturn.fields
    rw [hblank (hclosing'.symm.trans hclosing) (hrunning.symm.trans hresting)] at ht
    cases ht
  | call id call =>
    -- There is no queue yet that could be called.
    have hstore : d.store = {} := by rw [hblank hclosing hresting]; rfl
    have hsame : (d.call id call).2 = d := by
      simp only [Device.call]
      rw [QueueStore.modify_of_absent (by rw [hstore]; rfl)]
    rw [hsame] at hclosing hresting ⊢
    exact hblank hclosing hresting
  | listens =>
    have hempty : d.events = [] := by rw [hblank hclosing hresting]; rfl
    have hsame : d.listen = d := by rw [listen, hempty, List.tail_nil, ← hempty]
    rw [hsame] at hclosing hresting ⊢
    exact hblank hclosing hresting
  | elapses nanos =>
    have hsame := hblank hclosing hresting
    rw [elapse, hsame]

/-- What closing has come past is closed. -/
theorem Step.closed {m : Move} (h : d.Step m next) (hd : d.Orderly s) {left : List QueueId}
    (hleft : next.closing.remaining? = some left) {id : QueueId} {after : Queue Message}
    (hafter : next.store.get? id = some after) (hopen : after.closed = false) : id ∈ left := by
  obtain ⟨q, hq, hqopen⟩ := h.open_before hafter hopen
  have hold := hd.closed
  have hsame (hclosing : next.closing = d.closing) : id ∈ left := by
    rw [hclosing] at hleft
    exact hold left hleft id q hq hqopen
  cases h with
  | turn index t phase after ht hturn => exact hsame hturn.fields.2.2.1
  | begins =>
    cases hleft
    exact List.mem_range.mpr (List.getElem?_eq_some_iff.mp hq).1
  | closes pick earlier queue hclosing _ =>
    cases hleft
    rw [hclosing] at hold
    -- The queue that closing has just come past cannot be the one that is open.
    have hne : id ≠ queue := by
      rintro rfl
      obtain rfl : after = q.close := by
        rw [QueueStore.close, QueueStore.get?_modify hq, if_pos rfl] at hafter
        exact (Option.some.inj hafter).symm
      cases hopen
    exact (List.mem_erase_of_ne hne).mpr (hold earlier rfl id q hq hqopen)
  | joins _ hclosing =>
    cases hleft
    rw [hclosing] at hold
    exact hold [] rfl id q hq hqopen
  | finishes _ hclosing =>
    rw [finishClosing, closing_publish] at hleft
    cases hleft
    rw [hclosing] at hold
    exact hold [] rfl id q hq hqopen
  | _ => exact hsame rfl

theorem Step.orderly {m : Move} (h : d.Step m next) (hd : d.Orderly s) : next.Orderly s where
  blank := h.blank hd
  served e he := by
    rw [h.served] at he
    rw [h.size]
    exact hd.served e he
  closed _ hleft _ _ hafter hopen := h.closed hd hleft hafter hopen

/-- What a start on a device comes to at any time: all is as it was before, or nothing was in place, and then the start
panics or all nodes of the graph have their threads now. -/
theorem Orderly.start_cases (hd : d.Orderly s) (g : Graph) :
    (∃ e, d.start g = (.error (.failed e), d)) ∨
    d = { ofSettings s with now := d.now } ∧
      ((∃ panic next, d.start g = (.error (.panicked panic), next) ∧ ∃ plan, g.build.1 = .ok plan ∧
        ¬(g.build.2.InletsFit ∧ d.StreamsFit g.build.2 (plan.order.map NodeId.mk))) ∨
      ∃ plan w next launch, g.build.1 = .ok plan ∧ g.build.2.wiring = .ok w ∧ g.build.2.InletsFit ∧
        Manned { d with store := w.store } g.build.2 (d.contextOf g.build.2 w) (plan.order.map NodeId.mk) next launch ∧
        d.start g = (.ok (), { next with
          graph := some launch.graph, running := true, now := 0, threads := next.threads ++ launch.threads })) := by
  cases hopen : d.isClosed with
  | true => exact .inl ⟨_, start_of_closed hopen g⟩
  | false =>
    by_cases hrunning : d.running = true
    · exact .inl ⟨_, start_of_running hopen hrunning g⟩
    · have hresting := Bool.not_eq_true _ ▸ hrunning
      have hblank := hd.blank (by simpa [isClosed] using hopen) hresting
      have hstore : d.store = {} := by rw [hblank]; rfl
      have hserved : d.served = [] := by rw [hblank]; rfl
      rcases Device.start_cases hopen hresting hstore hserved g with ⟨e, h, -⟩ | ⟨next, h, hlarge⟩ | h
      · exact .inl ⟨e, h⟩
      · exact .inr ⟨hblank, .inl ⟨_, next, h, hlarge⟩⟩
      · exact .inr ⟨hblank, .inr h⟩

/-- A start that does not panic finds the device in order and leaves it in order. -/
theorem Orderly.start (hd : d.Orderly s) (hcalm : ∀ panic, (d.start g).1 ≠ .error (.panicked panic)) :
    (d.start g).2.Orderly s := by
  rcases hd.start_cases g with ⟨e, h⟩ | ⟨hblank, ⟨panic, next, h, -⟩ | ⟨plan, w, next, launch, -, -, -, hmanned, h⟩⟩
  · rw [h]
    exact hd
  · exact absurd (by rw [h]) (hcalm panic)
  · have hclosing : next.closing = .notBegun := by
      rw [hmanned.device, hblank]
      rfl
    rw [h]
    refine ⟨fun _ hresting => (nomatch hresting), fun e he => ?_, fun left hleft => ?_⟩
    · have hqueue : e.queue ∈ next.served.map Served.queue := List.mem_map_of_mem he
      rw [hmanned.queues, List.mem_range'_1] at hqueue
      rw [hmanned.size]
      exact hqueue.2
    · rw [hclosing] at hleft
      cases hleft

theorem Orderly.live (hd : d.Orderly s) {history : List Incident} (hcalm : d.Unbroken history) :
    (d.live history).Orderly s := by
  induction history generalizing d with
  | nil => exact hd
  | cons incident rest ih =>
    refine ih (d := d.meet incident) ?_ hcalm.tail
    cases incident with
    | start g => exact hd.start hcalm.head
    | move m => exact (d.move_spec m).orderly hd

theorem Orderly.size_le (hd : d.Orderly s) {history : List Incident} (hcalm : d.Unbroken history) :
    d.store.size ≤ (d.live history).store.size := by
  induction history generalizing d with
  | nil => exact Nat.le_refl _
  | cons incident rest ih =>
    cases incident with
    | start g =>
      refine Nat.le_trans (m := (d.start g).2.store.size) ?_ (ih (hd.start hcalm.head) hcalm.tail)
      rcases hd.start_cases g with ⟨e, h⟩ | ⟨hblank, -⟩
      · rw [h]
      · rw [hblank]
        exact Nat.zero_le _
    | move m =>
      have hstep := d.move_spec m
      have hrest := ih (hstep.orderly hd) hcalm.tail
      rwa [hstep.size] at hrest

theorem Orderly.closed_of_finished (hd : d.Orderly s) (hfinished : d.closing = .finished) {id : QueueId}
    (hid : id < d.store.size) : ∃ q, d.store.get? id = some q ∧ q.closed = true := by
  have hq : d.store.get? id = some d.store.queues[id] := List.getElem?_eq_getElem hid
  refine ⟨_, hq, ?_⟩
  cases hopen : d.store.queues[id].closed with
  | true => rfl
  | false =>
    have hleft := hd.closed [] (by rw [hfinished]; rfl) id _ hq hopen
    cases hleft

theorem started (h : (ofSettings s).start g = (.ok (), d)) :
    ∃ plan w next launch, g.build.1 = .ok plan ∧ g.build.2.wiring = .ok w ∧
      Manned { ofSettings s with store := w.store } g.build.2 ((ofSettings s).contextOf g.build.2 w)
        (plan.order.map NodeId.mk) next launch ∧
      d = { next with graph := some launch.graph, running := true, now := 0, threads := launch.threads } := by
  rcases (orderly_ofSettings s).start_cases g with
    ⟨e, herror⟩ | ⟨-, ⟨panic, next, herror, -⟩ | ⟨plan, w, next, launch, hplan, hwiring, -, hmanned, hok⟩⟩
  · rw [herror] at h
    cases h
  · rw [herror] at h
    cases h
  · have hthreads : next.threads = [] := by
      rw [hmanned.device]
      rfl
    rw [hok, hthreads] at h
    cases h
    exact ⟨plan, w, next, launch, hplan, hwiring, hmanned, rfl⟩

theorem queue_of_wiring {w : Wiring} (hg : g.WellLinked) (hwiring : g.wiring = .ok w) {q : Queue Message}
    (hq : q ∈ w.store.queues) : ∃ name capacity blocking, q = .make name capacity blocking := by
  obtain ⟨cableOf, hcables, hcarries⟩ := hg.wiring
  rw [hcables] at hwiring
  cases hwiring
  obtain ⟨x, hx, rfl⟩ := List.mem_map.mp hq
  obtain ⟨l, -, hcarry⟩ := Graph.carries_of_mem hcarries (Wiring.cables_of_inlets hx)
  obtain ⟨owner, input, -, -, -, hmake⟩ := hcarry.input
  exact ⟨_, _, _, hmake⟩

/-- After a start all queues are new. -/
theorem queue_of_started (hg : g.Assembled) (h : (ofSettings s).start g = (.ok (), d)) {id : QueueId}
    {q : Queue Message} (hq : d.store.get? id = some q) : ∃ name capacity blocking, q = .make name capacity blocking := by
  obtain ⟨plan, w, next, launch, -, hwiring, hmanned, rfl⟩ := started h
  have hmem := List.mem_of_getElem? hq
  simp only at hmem
  rw [hmanned.device] at hmem
  rcases List.mem_append.mp hmem with hmem | hmem
  · exact queue_of_wiring hg.build.arises.wellLinked hwiring hmem
  · obtain ⟨e, -, rfl⟩ := List.mem_map.mp hmem
    cases e.stream <;> exact ⟨_, _, _, rfl⟩

/-! A start does not look at the time, and sets it to zero in the end. -/

/-- An edit that neither looks at the time nor sets it. -/
def Timeless {ε α : Type} (edit : Edit Device ε α) : Prop :=
  ∀ (d : Device) (now : Nat), Edit.run { d with now } edit = ((Edit.run d edit).1, { (Edit.run d edit).2 with now })

section
variable {ε α β : Type}

theorem timeless_pure (a : α) : Timeless (pure a : Edit Device ε α) :=
  fun _ _ => rfl

theorem timeless_answer (answer : Except ε α) : Timeless (Edit.ask fun _ => answer) :=
  fun _ _ => rfl

theorem Timeless.bind {edit : Edit Device ε α} {next : α → Edit Device ε β} (h : Timeless edit)
    (hnext : ∀ a, Timeless (next a)) : Timeless (edit >>= next) := by
  intro d now
  rw [Edit.run_bind, Edit.run_bind, h d now]
  rcases Edit.run d edit with ⟨e | a, after⟩
  · rfl
  · exact hnext a after now

end

theorem timeless_putQueue (queue : Except Panic (Queue Message)) : Timeless (putQueue queue) := by
  intro d now
  rw [run_putQueue, run_putQueue]
  cases queue <;> rfl

theorem timeless_wireLink (g : Graph) (b : Bench) (l : Link) : Timeless (wireLink g b l) := by
  refine (timeless_answer _).bind fun output => Timeless.bind ?_ fun _ => timeless_pure _
  rw [inletFor]
  cases b.queue? l.target with
  | some queue => exact timeless_pure _
  | none =>
    refine (timeless_answer _).bind fun _ => (timeless_answer _).bind fun _ => ?_
    exact (timeless_putQueue _).bind fun _ => timeless_pure _

theorem timeless_wire (g : Graph) (b : Bench) (links : List Link) : Timeless (wire g b links) := by
  induction links generalizing b with
  | nil => exact timeless_pure b
  | cons l rest ih => exact (timeless_wireLink g b l).bind ih

theorem timeless_serve (stream : HostStream) : Timeless (serve stream) := by
  intro d now
  rw [run_serve, run_serve]
  split
  · rfl
  · split <;> rfl

theorem timeless_enlist (contexts : NodeId → Context) (l : Launch) (id : NodeId) : Timeless (enlist contexts l id) := by
  rw [enlist]
  rcases l.graph.takeBody id with ⟨_ | body, graph⟩
  · exact timeless_answer (.error _)
  · cases hstream : body.hostStream? with
    | none => simpa only [hstream] using timeless_pure _
    | some stream => simpa only [hstream] using (timeless_serve stream).bind fun _ => timeless_pure _

theorem timeless_enlistAll (contexts : NodeId → Context) (l : Launch) (ids : List NodeId) :
    Timeless (enlistAll contexts l ids) := by
  induction ids generalizing l with
  | nil => exact timeless_pure l
  | cons id rest ih => exact (timeless_enlist contexts l id).bind ih

theorem start_retimed (hopen : d.isClosed = false) (hresting : d.running = false) (now : Nat) (g : Graph)
    (h : (d.start g).1 = .ok ()) : start { d with now } g = d.start g := by
  rw [start_of_resting (d := { d with now }) hopen hresting]
  rw [start_of_resting hopen hresting] at h ⊢
  cases hplan : g.build.1 with
  | error e =>
    rw [hplan] at h
    cases h
  | ok plan =>
    have hbare : bareContext { d with now } g.build.2 = d.bareContext g.build.2 := rfl
    simp only [hplan, hbare, timeless_wire g.build.2 _ g.build.2.links d now] at h ⊢
    rcases hwire : Edit.run d (wire g.build.2 { contexts := d.bareContext g.build.2 } g.build.2.links) with ⟨e | b, next⟩
    · rw [hwire] at h
      cases h
    · simp only [hwire, timeless_enlistAll b.contexts { graph := g.build.2 } (plan.order.map NodeId.mk) next now] at h ⊢
      rcases hall : Edit.run next (enlistAll b.contexts { graph := g.build.2 } (plan.order.map NodeId.mk)) with
        ⟨e | l, last⟩
      · rw [hall] at h
        cases h
      · rfl

/-- When nothing is in place yet, only the graph can stand against a start. -/
theorem start_eq_ok_iff (hopen : d.isClosed = false) (hresting : d.running = false) (hstore : d.store = {})
    (hserved : d.served = []) (hg : g.Assembled) : (d.start g).1 = .ok () ↔
      Acyclic g.Feeds ∧ (g.streams.map HostStream.name).Nodup ∧ g.QueuesFit d.hostQueues := by
  rw [← hg.arises.exists_build_iff]
  rcases start_cases hopen hresting hstore hserved g with
    ⟨e, h, hnot⟩ | ⟨next, h, plan, hplan, hlarge⟩ | ⟨plan, w, next, launch, hplan, -, hinlets, hmanned, h⟩
  · rw [h]
    refine ⟨fun hok => (nomatch hok), ?_⟩
    rintro ⟨⟨plan, hplan⟩, hnames, -⟩
    obtain ⟨cableOf, hwiring, -⟩ := hg.build.arises.wellLinked.wiring
    exact absurd ((hg.startable_iff hplan).mpr hnames) (hnot plan _ hplan hwiring)
  · rw [h]
    exact ⟨fun hok => (nomatch hok), fun hall => absurd ((hg.arises.queuesFit_iff d hplan).mpr hall.2.2) hlarge⟩
  · have hfit := (hg.arises.queuesFit_iff d hplan).mp ⟨hinlets, hmanned.streamsFit⟩
    rw [h]
    exact ⟨fun _ => ⟨⟨plan, hplan⟩, (hg.startable_iff hplan).mp hmanned.startable, hfit⟩, fun _ => rfl⟩

theorem Orderly.start_eq_ok_iff (hd : d.Orderly s) (hg : g.Assembled) : (d.start g).1 = .ok () ↔
    d.isClosed = false ∧ d.running = false ∧ Acyclic g.Feeds ∧ (g.streams.map HostStream.name).Nodup ∧
      g.QueuesFit s.queues := by
  by_cases hidle : d.isClosed = false ∧ d.running = false
  · obtain ⟨hopen, hresting⟩ := hidle
    have hblank := hd.blank (by simpa [isClosed] using hopen) hresting
    have hstore : d.store = {} := by rw [hblank]; rfl
    have hserved : d.served = [] := by rw [hblank]; rfl
    have hsettings : d.hostQueues = s.queues := by rw [hblank]; rfl
    rw [Device.start_eq_ok_iff hopen hresting hstore hserved hg, hsettings]
    exact ⟨fun h => ⟨hopen, hresting, h⟩, fun h => h.2.2⟩
  · refine ⟨fun hok => ?_, fun h => absurd ⟨h.1, h.2.1⟩ hidle⟩
    rcases hd.start_cases g with ⟨e, h⟩ | ⟨hblank, -⟩
    · rw [h] at hok
      cases hok
    · exact absurd ⟨by rw [hblank]; rfl, by rw [hblank]; rfl⟩ hidle

/-- Only a queue that asks for too much room makes a start panic. -/
theorem Orderly.start_calm (hd : d.Orderly s) (hg : g.Arises) (hfit : g.QueuesFit s.queues) (panic : Panic) :
    (d.start g).1 ≠ .error (.panicked panic) := by
  rcases hd.start_cases g with ⟨e, h⟩ | ⟨hblank, ⟨_, next, -, plan, hplan, hlarge⟩ | ⟨plan, w, next, launch, -, -, -, -, h⟩⟩
  · rw [h]
    rintro ⟨⟩
  · have hsettings : d.hostQueues = s.queues := by rw [hblank]; rfl
    exact absurd ((hg.queuesFit_iff d hplan).mpr (hsettings ▸ hfit)) hlarge
  · rw [h]
    rintro ⟨⟩

/-- No start panics where the queues of all graphs can be made. -/
theorem Orderly.unbroken (hd : d.Orderly s) {history : List Incident}
    (hfit : ∀ g, .start g ∈ history → g.Arises ∧ g.QueuesFit s.queues) : d.Unbroken history := by
  induction history generalizing d with
  | nil => exact d.unbroken_nil
  | cons incident rest ih =>
    have hrest := fun g hg => hfit g (List.mem_cons_of_mem incident hg)
    rintro (_ | ⟨first, before⟩) g later hsplit panic
    · obtain ⟨rfl, rfl⟩ := List.cons.inj hsplit
      obtain ⟨harises, hroom⟩ := hfit g List.mem_cons_self
      exact hd.start_calm harises hroom panic
    · obtain ⟨rfl, rfl⟩ := List.cons.inj hsplit
      refine ih (d := d.meet incident) ?_ hrest before g later rfl panic
      cases incident with
      | start g =>
        obtain ⟨harises, hroom⟩ := hfit g List.mem_cons_self
        exact hd.start (hd.start_calm harises hroom)
      | move m => exact (d.move_spec m).orderly hd

/-- A start that succeeds does so as on a new device. -/
theorem Orderly.start_eq_fresh (hd : d.Orderly s) (h : (d.start g).1 = .ok ()) : d.start g = (ofSettings s).start g := by
  rcases hd.start_cases g with ⟨e, herror⟩ | ⟨hblank, -⟩
  · rw [herror] at h
    cases h
  · have hopen : d.isClosed = false := by rw [hblank]; rfl
    have hresting : d.running = false := by rw [hblank]; rfl
    have hnew : { d with now := 0 } = ofSettings s := by rw [hblank]; rfl
    rw [← hnew, start_retimed hopen hresting 0 g h]

/-- On a device that has been closed every start fails. As long as no start panics, a graph that calls have put together
starts on a device that is neither closed nor running, if it has no circle, its streams have different names and its
queues can be made. Then these are the streams of the device, and nothing tells it from a device that was made for the
graph. Where the queues can be made, a start does not panic, and a start that fails leaves the device as it was. Once the
closing of a device has come to the end, every queue that was ever there is closed. -/
theorem start_all_or_nothing (s : Settings) (history : List Incident) :
    let d := (ofSettings s).live history
    (d.isClosed = true → ∀ g : Graph,
      d.start g = (.error (.failed (.deviceUnavailable ("device '" ++ d.name ++ "' is closed"))), d)) ∧
    ((ofSettings s).Unbroken history →
      (∀ g : Graph, g.Assembled →
        ((d.start g).1 = .ok () ↔ d.isClosed = false ∧ d.running = false ∧ Acyclic g.Feeds ∧
          (g.streams.map HostStream.name).Nodup ∧ g.QueuesFit s.queues) ∧
        (g.QueuesFit s.queues → ∀ panic, (d.start g).1 ≠ .error (.panicked panic)) ∧
        ((d.start g).1 = .ok () →
          (d.start g).2.outputNames.Perm (g.streams.filterMap HostStream.outputName?) ∧
          (d.start g).2.inputNames.Perm (g.streams.filterMap HostStream.inputName?) ∧
          (d.start g).2.running = true ∧ d.start g = (ofSettings s).start g)) ∧
      (∀ (g : Graph) (e : RuntimeError), (d.start g).1 = .error (.failed e) → (d.start g).2 = d) ∧
      (d.isClosed = false → d.running = false → d = { ofSettings s with now := d.now }) ∧
      (d.closing = .finished → (∀ q ∈ d.store.queues, q.closed = true) ∧
        ∀ before later, history = before ++ later → ∀ e ∈ ((ofSettings s).live before).served,
          ∃ q, d.store.get? e.queue = some q ∧ q.closed = true)) := by
  intro d
  refine ⟨fun hclosed g => start_of_closed hclosed g, fun hcalm => ?_⟩
  have hd : d.Orderly s := (orderly_ofSettings s).live hcalm
  refine ⟨fun g hg => ⟨hd.start_eq_ok_iff hg, hd.start_calm hg.arises, fun hok => ?_⟩, fun g e herror => ?_,
    fun hopen => hd.blank ?_, fun hfinished => ⟨fun q hq => ?_, ?_⟩⟩
  · have hfresh := hd.start_eq_fresh hok
    rcases hd.start_cases g with ⟨e, h⟩ | ⟨-, ⟨panic, next, h, -⟩ | ⟨plan, w, next, launch, hplan, -, -, hmanned, h⟩⟩
    · rw [h] at hok
      cases hok
    · rw [h] at hok
      cases hok
    · have hstreams := hmanned.perm_streams hg.arises hplan
      refine ⟨?_, ?_, by rw [h], hfresh⟩ <;> rw [h]
      · rw [outputNames_eq]
        exact hstreams.filterMap _
      · rw [inputNames_eq]
        exact hstreams.filterMap _
  · rcases hd.start_cases g with ⟨e, h⟩ | ⟨-, ⟨panic, next, h, -⟩ | ⟨plan, w, next, launch, -, -, -, -, h⟩⟩
    · rw [h]
    · rw [h] at herror
      cases herror
    · rw [h] at herror
      cases herror
  · simpa [isClosed] using hopen
  · obtain ⟨id, hid, rfl⟩ := List.getElem_of_mem hq
    obtain ⟨q, hq, hclosed⟩ := hd.closed_of_finished hfinished hid
    obtain rfl := Option.some.inj ((List.getElem?_eq_getElem hid).symm.trans hq)
    exact hclosed
  · rintro before later rfl e he
    obtain ⟨hearlier, hlater⟩ := hcalm.of_append
    have hbefore := (orderly_ofSettings s).live hearlier
    have hlt := Nat.lt_of_lt_of_le (hbefore.served e he) (hbefore.size_le hlater)
    rw [← live_append] at hlt
    exact hd.closed_of_finished hfinished hlt

/-- A graph whose two streams have one name is refused, and the same with two names starts after that as if nothing had
been. Then the device is closed. -/
theorem start_all_or_nothing_renamed :
    let bridge (stream : String) : Graph := ({} : Graph).after [
      .operation (.createNamed "in" (.xlinkIn { stream := "a" })),
      .operation (.createNamed "out" (.xlinkOut { stream })), .operation (.link ⟨0, 0⟩ ⟨1, 0⟩)]
    let new := ofSettings {}
    let refused := new.live [.start (bridge "a")]
    let moves : List Move := List.replicate 5 (.teardown 1) ++ List.replicate 8 (.thread 0) ++
      List.replicate 8 (.thread 1) ++ [.teardown 0]
    let closed := new.live (.start (bridge "a") :: .start (bridge "b") :: moves.map .move)
    ¬((bridge "a").streams.map HostStream.name).Nodup ∧
      (new.start (bridge "a")).1 = .error (.failed (.graphRejected "stream name 'a' is used twice")) ∧ refused = new ∧
      Acyclic (bridge "b").Feeds ∧ (refused.start (bridge "b")).1 = .ok () ∧
      refused.start (bridge "b") = new.start (bridge "b") ∧
      (refused.start (bridge "b")).2.outputNames = ["b"] ∧ (refused.start (bridge "b")).2.inputNames = ["a"] ∧
      closed.closing = .finished ∧ closed.store.size = 3 ∧ (∀ q ∈ closed.store.queues, q.closed = true) ∧
      (closed.start (bridge "b")).1 = .error (.failed (.deviceUnavailable "device 'host' is closed")) := by
  intro bridge new refused moves closed
  have hassembled (stream : String) : (bridge stream).Assembled := ⟨_, by simp [Occurrence.isCall], rfl⟩
  have hfit (stream : String) (hname : stream = "a" ∨ stream = "b") : (bridge stream).QueuesFit ({} : Settings).queues := by
    refine ⟨Graph.inletsFit_of_ports ?_, ?_⟩ <;> rcases hname with rfl | rfl <;> decide +kernel
  have hcalm (history : List Incident)
      (hstarts : ∀ g, .start g ∈ history → ∃ stream, (stream = "a" ∨ stream = "b") ∧ g = bridge stream) :
      new.Unbroken history := by
    refine (orderly_ofSettings {}).unbroken fun g hg => ?_
    obtain ⟨stream, hname, rfl⟩ := hstarts g hg
    exact ⟨(hassembled stream).arises, hfit stream hname⟩
  have hrefused : (new.start (bridge "a")).1 = .error (.failed (.graphRejected "stream name 'a' is used twice")) := by
    decide +kernel
  obtain ⟨-, hunchanged, -⟩ := (start_all_or_nothing {} []).2 (hcalm [] (by simp))
  have hsame : refused = new := hunchanged (bridge "a") _ hrefused
  obtain ⟨hstarts, -⟩ := (start_all_or_nothing {} [.start (bridge "a")]).2 (hcalm _ (by simp))
  have hok : (refused.start (bridge "b")).1 = .ok () := by decide +kernel
  obtain ⟨hiff, -, hresult⟩ := hstarts (bridge "b") (hassembled "b")
  obtain ⟨hover, hlater⟩ := start_all_or_nothing {} (.start (bridge "a") :: .start (bridge "b") :: moves.map .move)
  obtain ⟨-, -, -, hend⟩ := hlater (hcalm _ (by simp))
  have hlived : (ofSettings {}).live (.start (bridge "a") :: .start (bridge "b") :: moves.map .move) = closed := rfl
  have hfinished : closed.closing = .finished ∧ closed.store.size = 3 ∧ closed.name = "host" := by decide +kernel
  -- From here on it is enough to know that much of the closed device.
  clear_value closed
  rw [hlived] at hover hend
  obtain ⟨hfinished, hsize, hname⟩ := hfinished
  refine ⟨by decide +kernel, hrefused, hsame, (hiff.mp hok).2.2.1, hok, (hresult hok).2.2.2, ?_, ?_, hfinished,
    hsize, (hend hfinished).1, ?_⟩
  · exact List.perm_singleton.mp ((hresult hok).1.trans (by decide +kernel))
  · exact List.perm_singleton.mp ((hresult hok).2.1.trans (by decide +kernel))
  · have herror := hover (by rw [isClosed, hfinished]; rfl) (bridge "b")
    rw [herror, hname]
    rfl

/-- A start that panics at a stream which asks for too much room leaves the stream before it in place, and from then on no
other graph can have a stream of that name. -/
theorem start_overtaxed :
    let streams (frames : Nat) : Graph := ({} : Graph).after [
      .operation (.createNamed "first" (.xlinkIn { stream := "a" })),
      .operation (.createNamed "second" (.xlinkIn { stream := "b", frames }))]
    let large := Queue.maxCapacity + 1
    let new := ofSettings {}
    let broken := (new.start (streams large)).2
    new.isClosed = false ∧ new.running = false ∧ Acyclic (streams large).Feeds ∧
      ((streams large).streams.map HostStream.name).Nodup ∧
      (new.start (streams large)).1 = .error (.panicked .capacityOverflow) ∧
      new.inputNames = [] ∧ broken.inputNames = ["a"] ∧ broken.running = false ∧
      (new.start (streams 1)).1 = .ok () ∧
      (broken.start (streams 1)).1 = .error (.failed (.graphRejected "stream name 'a' is used twice")) := by
  intro streams large new broken
  have harises : (streams large).Arises := Graph.Assembled.arises ⟨_, by simp [Occurrence.isCall], rfl⟩
  have hplan : (streams large).build.1 =
      .ok { order := [0, 1], isolated := [0, 1], stats := { nodes := 2, isolated := 2 } } := by decide +kernel
  refine ⟨rfl, rfl, harises.exists_build_iff.mp ⟨_, hplan⟩, ?_⟩
  decide +kernel

end Device

end FrameGraph
