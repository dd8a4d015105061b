import FrameGraph.Proofs.Device.Launching
import FrameGraph.Proofs.Queue.Calls

/-!
# Messages on their way to their consumers

A send hands one message to several queues, one after the other. It may have to wait before any of them, and
others use the queues meanwhile.

* `QueueStore.Open.offer_cases`: what a hand-over to an open queue comes to.
* `Sending`: a send in progress. `Sending.Going` says that all is in order, with `Going.step` for a move and
  `Going.run` for any number of them.
* `Sending.deliver_eq_attempt`: the deliveries of a running node are attempts of this kind.
* `Sending.Going.deliverAll`: a send that nobody interrupts.
* `Graph.wiring_realises_links`: what the links of a graph come to on a device, and what a send does then.
-/

namespace FrameGraph
set_option autoImplicit false

namespace QueueStore

/-- A queue stands at the place and is open. -/
def Open (s : QueueStore Message) (id : QueueId) : Prop :=
  ∃ q, s.get? id = some q ∧ q.closed = false

/-- The queue at one place takes in a message, and nothing else changes. -/
def Received (s : QueueStore Message) (id : QueueId) (m : Message) (t : QueueStore Message) : Prop :=
  ∃ q next, s.get? id = some q ∧ q.Change [m] [] next ∧
    ∀ other, t.get? other = if other = id then some next else s.get? other

/-- The queue at a place holds its senders back. -/
def Blocks (s : QueueStore Message) (id : QueueId) : Prop :=
  ∃ q, s.get? id = some q ∧ q.capacity ≤ q.buffer.length ∧ q.blocking = true

/-- An open queue takes a message in or makes its sender wait. -/
theorem Open.offer_cases {s : QueueStore Message} {id : QueueId} (h : s.Open id) (m : Message) :
    (s.Blocks id ∧ s.offer id m = (.wait, s)) ∨ ∃ t, s.offer id m = (.done (.ok ()), t) ∧ s.Received id m t := by
  obtain ⟨q, hq, hopen⟩ := h
  have hcall : s.offer id m = ((q.offer m).1, { queues := s.queues.set id (q.offer m).2 }) := modify_of_get? hq _ _
  have hreceived {next : Queue Message} (hoffer : q.offer m = (.done (.ok ()), next))
      (hchange : q.Change [m] [] next) : ∃ t, s.offer id m = (.done (.ok ()), t) ∧ s.Received id m t := by
    rw [hoffer] at hcall
    exact ⟨_, hcall, q, next, hq, hchange, get?_set hq next⟩
  rcases q.offer_cases m with ⟨hclosed, -⟩ | ⟨-, hroom, h⟩ | ⟨-, hfull, hdropping, h⟩ | ⟨-, hfull, hblocking, h⟩
  · rw [hopen] at hclosed
    cases hclosed
  · exact .inr (hreceived h (.takesIn m hopen hroom))
  · exact .inr (hreceived h (.takesInDropping m hopen hfull hdropping))
  · rw [h, set_self hq] at hcall
    exact .inl ⟨⟨q, hq, hfull, hblocking⟩, hcall⟩

theorem Received.isOpen {s t : QueueStore Message} {id : QueueId} {m : Message} (h : s.Received id m t)
    {other : QueueId} (hopen : s.Open other) : t.Open other := by
  obtain ⟨q, next, hq, hchange, hafter⟩ := h
  obtain ⟨p, hp, hpopen⟩ := hopen
  unfold Open
  rw [hafter]
  split
  · refine ⟨next, rfl, ?_⟩
    cases hchange <;> assumption
  · exact ⟨p, hp, hpopen⟩

/-- A queue stays open for as long as nobody closes it. -/
theorem Open.call {s : QueueStore Message} {id : QueueId} (h : s.Open id) {queue : QueueId} {call : Call Message}
    (hcall : queue = id → call ≠ .close) : (s.modify queue .waits fun q => q.perform call).2.Open id := by
  obtain ⟨q, hq, hopen⟩ := h
  by_cases hid : queue = id
  · subst hid
    rw [modify_of_get? hq]
    refine ⟨(q.perform call).2, ?_, ?_⟩
    · rw [get?_set hq, if_pos rfl]
    · rw [← Bool.not_eq_true, Queue.closed_perform]
      simp [hopen, hcall rfl]
  · exact ⟨q, by rw [get?_modify_of_ne s hid, hq], hopen⟩

end QueueStore

/-- A message on its way to some queues, among others who use them. -/
structure Sending where
  outbox : List Delivery
  store : QueueStore Message
  /-- What was handed over so far. -/
  handed : List Delivery := []
  /-- The failure that has ended it. -/
  failure : Option RuntimeError := none

inductive Sending.Move where
  /-- The next hand-over is tried. -/
  | attempt
  /-- Somebody else makes a call on a queue. -/
  | call (queue : QueueId) (call : Call Message)

/-- The move does not close any of these queues. -/
def Sending.Move.Spares (ids : List QueueId) : Move → Prop
  | .attempt => True
  | .call queue made => queue ∈ ids → made ≠ .close

namespace Sending

def step (s : Sending) : Move → Sending
  | .call queue call => { s with store := (s.store.modify queue .waits fun q => q.perform call).2 }
  | .attempt => match s.outbox with
    | [] => s
    | d :: rest => match s.store.offer d.queue d.message with
      | (.wait, store) => { s with store }
      | (.done (.ok ()), store) => { s with outbox := rest, store, handed := s.handed ++ [d] }
      | (.done (.error e), store) => { s with outbox := [], store, failure := some e }

def run (s : Sending) (moves : List Move) : Sending :=
  moves.foldl step s

/-- A running node makes its deliveries by such attempts. -/
theorem deliver_eq_attempt (p : Process) (now : Nat) (d : Delivery) (rest : List Delivery)
    (store : QueueStore Message) :
    let s := step { outbox := d :: rest, store } .attempt
    (p.deliver now d rest store).2 = match s.failure with
      | none => (if s.handed.isEmpty then p else p.handedOver now rest, s.store)
      | some e => (p.finish (.error e), s.store) := by
  intro s
  simp only [Process.deliver, s, step]
  rcases store.offer d.queue d.message with ⟨⟨e | _⟩ | _, next⟩ <;> rfl

/-- The deliveries are made one after the other, and all their queues are open. -/
structure Going (deliveries : List Delivery) (s : Sending) : Prop where
  split : s.handed ++ s.outbox = deliveries
  failure : s.failure = none
  isOpen : ∀ d ∈ deliveries, s.store.Open d.queue

theorem Going.start {deliveries : List Delivery} {store : QueueStore Message}
    (h : ∀ d ∈ deliveries, store.Open d.queue) : Going deliveries { outbox := deliveries, store } :=
  ⟨rfl, rfl, h⟩

theorem Going.offer_cases {deliveries : List Delivery} {s : Sending} (h : s.Going deliveries) {d : Delivery}
    {rest : List Delivery} (hnext : s.outbox = d :: rest) :
    (s.store.Blocks d.queue ∧ s.store.offer d.queue d.message = (.wait, s.store)) ∨
    ∃ t, s.store.offer d.queue d.message = (.done (.ok ()), t) ∧ s.store.Received d.queue d.message t := by
  have hmem : d ∈ deliveries := by
    rw [← h.split, hnext]
    exact List.mem_append_right _ List.mem_cons_self
  exact (h.isOpen d hmem).offer_cases d.message

/-- An attempt hands the next message over, or it finds a queue that holds its senders back. -/
theorem Going.attempt {deliveries : List Delivery} {s : Sending} (h : s.Going deliveries) {d : Delivery}
    {rest : List Delivery} (hnext : s.outbox = d :: rest) :
    (s.store.Blocks d.queue ∧ s.step .attempt = s) ∨
    ∃ t, s.store.Received d.queue d.message t ∧
      s.step .attempt = { s with outbox := rest, store := t, handed := s.handed ++ [d] } := by
  rcases h.offer_cases hnext with ⟨hblocks, hoffer⟩ | ⟨t, hoffer, hreceived⟩
  · refine .inl ⟨hblocks, ?_⟩
    simp only [step, hnext, hoffer]
    rw [← hnext]
  · exact .inr ⟨t, hreceived, by simp only [step, hnext, hoffer]⟩

theorem Going.step {deliveries : List Delivery} {s : Sending} (h : s.Going deliveries) {move : Move}
    (hmove : move.Spares (deliveries.map Delivery.queue)) : (s.step move).Going deliveries := by
  cases move with
  | call queue call =>
    refine ⟨h.split, h.failure, fun d hd => (h.isOpen d hd).call ?_⟩
    rintro rfl
    exact hmove (List.mem_map_of_mem hd)
  | attempt =>
    cases hnext : s.outbox with
    | nil =>
      have hsame : s.step .attempt = s := by simp only [Sending.step, hnext]
      rwa [hsame]
    | cons d rest =>
      rcases h.attempt hnext with ⟨-, hsame⟩ | ⟨t, hreceived, hafter⟩
      · rwa [hsame]
      · rw [hafter]
        refine ⟨?_, h.failure, fun other hother => hreceived.isOpen (h.isOpen other hother)⟩
        rw [← h.split, hnext]
        simp

theorem Going.run {deliveries : List Delivery} {s : Sending} (h : s.Going deliveries) {moves : List Move}
    (hmoves : ∀ move ∈ moves, move.Spares (deliveries.map Delivery.queue)) : (s.run moves).Going deliveries := by
  induction moves generalizing s with
  | nil => exact h
  | cons move rest ih =>
    obtain ⟨hmove, hrest⟩ := List.forall_mem_cons.mp hmoves
    exact ih (h.step hmove) hrest

/-! ## Sends that nobody interrupts -/

/-- Each queue in the log has taken in its message once, and the others are as they were before. -/
structure Spread (before : QueueStore Message) (s : Sending) : Prop where
  received : ∀ d ∈ s.handed, ∃ q next, before.get? d.queue = some q ∧ s.store.get? d.queue = some next ∧
    q.Change [d.message] [] next
  others : ∀ id, id ∉ s.handed.map Delivery.queue → s.store.get? id = before.get? id

theorem Spread.received_one {before t : QueueStore Message} {s : Sending} (h : s.Spread before) {d : Delivery}
    {rest : List Delivery} (hnew : d.queue ∉ s.handed.map Delivery.queue) (ht : s.store.Received d.queue d.message t) :
    Spread before { s with outbox := rest, store := t, handed := s.handed ++ [d] } := by
  obtain ⟨q, next, hq, hchange, hafter⟩ := ht
  refine ⟨fun other hother => ?_, fun id hid => ?_⟩
  · rcases List.mem_append.mp hother with hother | hother
    · have hne : other.queue ≠ d.queue := fun hsame => hnew (hsame ▸ List.mem_map_of_mem hother)
      simp only [hafter, if_neg hne]
      exact h.received other hother
    · rw [List.mem_singleton.mp hother]
      exact ⟨q, next, by rw [← h.others _ hnew, hq], by simp only [hafter, if_true], hchange⟩
  · simp only [List.map_append, List.map_singleton, List.mem_append, List.mem_singleton, not_or] at hid
    simp only [hafter, if_neg hid.2]
    exact h.others id hid.1

/-- A send in one go makes its deliveries up to the first queue that holds it back. -/
theorem Going.deliverAll {deliveries : List Delivery} (hdistinct : (deliveries.map Delivery.queue).Nodup)
    {before : QueueStore Message} {s : Sending} (h : s.Going deliveries) (hspread : s.Spread before) :
    ∃ t : Sending, t.Going deliveries ∧ t.Spread before ∧ (∀ d ∈ t.outbox.head?, t.store.Blocks d.queue) ∧
      Context.deliverAll s.outbox s.store = (if t.outbox.isEmpty then .done (.ok ()) else .wait, t.store) := by
  -- What has been handed over grows as the outbox shrinks, so a queue of the log does not come again.
  generalize houtbox : s.outbox = outbox
  induction outbox generalizing s with
  | nil => exact ⟨s, h, hspread, by simp [houtbox], by simp [Context.deliverAll, houtbox]⟩
  | cons d rest ih =>
    rcases h.offer_cases houtbox with ⟨hblocks, hoffer⟩ | ⟨t, hoffer, hreceived⟩
    · exact ⟨s, h, hspread, by simpa [houtbox] using hblocks, by simp [Context.deliverAll, houtbox, hoffer]⟩
    · have hnew : d.queue ∉ s.handed.map Delivery.queue := by
        rw [← h.split, houtbox, List.map_append, List.nodup_append] at hdistinct
        exact fun hold => hdistinct.2.2 _ hold _ (by simp) rfl
      have hstep : s.step .attempt = { s with outbox := rest, store := t, handed := s.handed ++ [d] } := by
        simp only [Sending.step, houtbox, hoffer]
      have hgoing : (s.step .attempt).Going deliveries := h.step trivial
      rw [hstep] at hgoing
      obtain ⟨last, hlast, hspread, hhead, hall⟩ := ih hgoing (hspread.received_one hnew hreceived) rfl
      exact ⟨last, hlast, hspread, hhead, by simp only [Context.deliverAll, hoffer, hall]⟩

end Sending

namespace Graph

/-- Building moves the nodes on, and their ports stay. -/
theorem KeysDiffer.built {g : Graph} (h : g.KeysDiffer) (plan : Plan) : (g.built plan).KeysDiffer := by
  intro n hn
  obtain ⟨m, hm, rfl⟩ := List.mem_map.mp hn
  exact h m hm

/-- A device on which no queue stands goes through the links of a graph that was built. If every linked input asks for a
queue that can be made, the graph is wired then as it is linked; otherwise the device panics on the way. A send on an
output whose consumers are all open makes one delivery to the queue of every input that the output leads to, in the order
of the links, and none besides. It does not fail; whatever others do meanwhile, it waits only where a queue holds its
senders back, and every delivery that it makes changes one queue, by the message. -/
theorem wiring_realises_links {g : Graph} {plan : Plan} (hg : g.Arises) (hbuild : g.build.1 = .ok plan)
    (hkeys : g.KeysDiffer) (d : Device) (hstore : d.store = {}) :
    let wired := Edit.run d (Device.wire g.build.2 { contexts := d.bareContext g.build.2 } g.build.2.links)
    (¬g.build.2.InletsFit → ∃ store, wired = (.error (.panicked .capacityOverflow), { d with store })) ∧
    (g.build.2.InletsFit → ∃ b store queueOf, wired = (.ok b, { d with store }) ∧
      g.build.2.Realised store queueOf b.contexts ∧
      ∀ (p : PortId) (output : Port) (m : Message) (later : QueueStore Message),
        g.build.2.descriptor p = .ok output →
        (∀ target ∈ g.build.2.targetsOf p, later.Open (queueOf target)) →
        let c := b.contexts p.node
        let deliveries : List Delivery :=
          (g.build.2.targetsOf p).map fun target => ⟨.port output.key, queueOf target, m⟩
        c.deliveries (.onPort output.key m) = deliveries ∧
        (∃ s : Sending, s.Going deliveries ∧ s.Spread later ∧ (∀ d ∈ s.outbox.head?, s.store.Blocks d.queue) ∧
          c.send output.key m later = (if s.outbox.isEmpty then .done (.ok ()) else .wait, s.store)) ∧
        ∀ moves : List Sending.Move, (∀ move ∈ moves, move.Spares (deliveries.map Delivery.queue)) →
          let s := Sending.run { outbox := deliveries, store := later } moves
          s.Going deliveries ∧ ∀ d rest, s.outbox = d :: rest →
            (s.store.Blocks d.queue ∧ s.step .attempt = s) ∨
            ∃ t, s.store.Received d.queue d.message t ∧
              s.step .attempt = { s with outbox := rest, store := t, handed := s.handed ++ [d] }) := by
  intro wired
  have hlinked := hg.build.wellLinked
  have hdiffer : g.build.2.KeysDiffer := by
    rw [hg.consistent.build_eq hbuild]
    exact hkeys.built plan
  obtain ⟨_, hwiring, -⟩ := hlinked.wiring
  rcases Device.run_wire_links hstore g.build.2 with ⟨e, store, -, hno⟩ | ⟨store, hrun, hlarge⟩ |
      ⟨w, b, hw, hinlets, hcontexts, hrun⟩
  · exact absurd hwiring (hno _)
  · exact ⟨fun _ => ⟨store, hrun⟩, fun hinlets => absurd hinlets hlarge⟩
  · refine ⟨fun hlarge => absurd hinlets hlarge, fun _ => ?_⟩
    have hrealised : g.build.2.Realised w.store w.queueOf b.contexts := hcontexts ▸ hlinked.realised hdiffer hw _ _
    refine ⟨b, w.store, w.queueOf, hrun, hrealised, fun p output m later houtput hopen => ?_⟩
    intro c deliveries
    have hdeliveries : c.deliveries (.onPort output.key m) = deliveries := by
      simp only [Context.deliveries, Emission.onPort, Context.destinations, c, hrealised.consumers houtput,
        List.map_map]
      rfl
    have hqueues : deliveries.map Delivery.queue = (g.build.2.targetsOf p).map w.queueOf := by
      simp only [deliveries, List.map_map]
      rfl
    have hstart : Sending.Going deliveries { outbox := deliveries, store := later } := by
      refine .start fun d hd => ?_
      obtain ⟨target, htarget, rfl⟩ := List.mem_map.mp hd
      exact hopen target htarget
    have hnothing : Sending.Spread later { outbox := deliveries, store := later } :=
      ⟨fun _ hd => (nomatch hd), fun _ _ => rfl⟩
    refine ⟨hdeliveries, ?_, fun moves hmoves => ?_⟩
    · rw [Context.send, hdeliveries]
      exact hstart.deliverAll (hqueues ▸ hrealised.once p) hnothing
    · have hgoing := hstart.run hmoves
      exact ⟨hgoing, fun d rest hnext => hgoing.attempt hnext⟩

/-- One output feeds two inputs, of which the first is fed by another output as well and drops its oldest message
when it is full. -/
theorem wiring_realises_links_shared_input :
    let g := ({} : Graph).after [
      .operation (.addPlugin "a" { typeName := "Tap", ports := [
        { name := "x", direction := .output, types := [.any] }] }),
      .operation (.addPlugin "b" { typeName := "Tap", ports := [
        { name := "x", direction := .output, types := [.any] },
        { name := "p", direction := .input, types := [.any], queueSize := 3 }] }),
      .operation (.addPlugin "c" { typeName := "Sink", ports := [
        { name := "q", direction := .input, types := [.any], queueSize := 1, blocking := false, fanIn := true }] }),
      .operation (.link ⟨0, 0⟩ ⟨2, 0⟩), .operation (.link ⟨0, 0⟩ ⟨1, 1⟩), .operation (.link ⟨1, 0⟩ ⟨2, 0⟩)]
    let d := Device.ofSettings {}
    let wired := Edit.run d (Device.wire g.build.2 { contexts := d.bareContext g.build.2 } g.build.2.links)
    let m : Message := ⟨10, 0, .buffer []⟩
    let deliveries : List Delivery := [⟨.port "x", 0, m⟩, ⟨.port "x", 1, m⟩]
    g.build.1.toBool = true ∧ g.KeysDiffer ∧ g.build.2.InletsFit ∧ ∃ b store queueOf, wired = (.ok b, { d with store }) ∧
      g.build.2.Realised store queueOf b.contexts ∧ (b.contexts ⟨0⟩).deliveries (.onPort "x" m) = deliveries ∧
      ((b.contexts ⟨0⟩).send "x" m store).2.queues.map Queue.buffer = [[m], [m]] ∧
      ∃ s : Sending, s.Going deliveries ∧ s.Spread store ∧ ((b.contexts ⟨0⟩).send "x" m store).2 = s.store := by
  intro g d wired m deliveries
  have hg : g.Arises := Arises.empty.after (by simp [Occurrence.isCall])
  have hbuilds : g.build.1.toBool = true := by decide +kernel
  have hkeys : g.KeysDiffer := by decide +kernel
  have hinlets : g.build.2.InletsFit := inletsFit_of_ports (by decide +kernel)
  have hresult : wired.1.toOption.map (fun b => ((b.contexts ⟨0⟩).consumers "x",
      ((b.contexts ⟨0⟩).send "x" m wired.2.store).2.queues.map Queue.buffer)) = some ([0, 1], [[m], [m]]) := by
    decide +kernel
  obtain ⟨plan, hbuild⟩ : ∃ plan, g.build.1 = .ok plan := by
    cases h : g.build.1 with
    | error e => rw [h] at hbuilds; cases hbuilds
    | ok plan => exact ⟨plan, rfl⟩
  obtain ⟨b, store, queueOf, hwired, hrealised, hsend⟩ := (wiring_realises_links hg hbuild hkeys d rfl).2 hinlets
  rw [show wired = _ from hwired] at hresult
  obtain ⟨hconsumers, hbuffers⟩ := Prod.mk.inj (Option.some.inj hresult)
  have hport : (g.build.2.descriptor ⟨0, 0⟩).toOption =
      some { name := "x", direction := .output, types := [.any] } := by decide +kernel
  obtain ⟨output, houtput⟩ : ∃ output, g.build.2.descriptor ⟨0, 0⟩ = .ok output := by
    cases h : g.build.2.descriptor ⟨0, 0⟩ with
    | error e => rw [h] at hport; cases hport
    | ok output => exact ⟨output, rfl⟩
  have hkey : output.key = "x" := by
    rw [houtput] at hport
    obtain rfl := Option.some.inj hport
    rfl
  have hopen : ∀ target ∈ g.build.2.targetsOf ⟨0, 0⟩, store.Open (queueOf target) := by
    intro target htarget
    obtain ⟨owner, input, -, -, hqueue⟩ := hrealised.queue (isFed_of_mem_targetsOf htarget)
    exact ⟨_, hqueue, rfl⟩
  have hdeliveries : (b.contexts ⟨0⟩).deliveries (.onPort "x" m) = deliveries := by
    simp only [Context.deliveries, Emission.onPort, Context.destinations, hconsumers]
    rfl
  obtain ⟨hall, ⟨s, hgoing, hspread, -, hsent⟩, -⟩ := hsend ⟨0, 0⟩ output m store houtput hopen
  rw [← hall, hkey, show (b.contexts (PortId.node ⟨0, 0⟩)) = b.contexts ⟨0⟩ from rfl, hdeliveries] at hgoing
  rw [hkey] at hsent
  exact ⟨hbuilds, hkeys, hinlets, b, store, queueOf, hwired, hrealised, hdeliveries, hbuffers, s, hgoing, hspread,
    congrArg Prod.snd hsent⟩

/-- A linked input asks for a queue of more messages than can be addressed. The graph builds, and the device panics at its
only link. -/
theorem wiring_overtaxed :
    let g := ({} : Graph).after [
      .operation (.createNamed "in" (.xlinkIn { stream := "a" })),
      .operation (.createNamed "out" (.xlinkOut { stream := "b" })), .operation (.link ⟨0, 0⟩ ⟨1, 0⟩),
      .operation (.setInputQueue ⟨1, 0⟩ (Queue.maxCapacity + 1) true)]
    let d := Device.ofSettings {}
    g.Arises ∧ g.build.1.toBool = true ∧ g.KeysDiffer ∧ d.store = {} ∧
      ¬∃ b next, Edit.run d (Device.wire g.build.2 { contexts := d.bareContext g.build.2 } g.build.2.links) =
        (.ok b, next) := by
  intro g d
  have hpanics : (Edit.run d (Device.wire g.build.2 { contexts := d.bareContext g.build.2 } g.build.2.links)).1.map
      (fun _ => ()) = .error (.panicked .capacityOverflow) := by decide +kernel
  refine ⟨Arises.empty.after (by simp [Occurrence.isCall]), by decide +kernel, by decide +kernel, rfl, ?_⟩
  rintro ⟨b, next, hrun⟩
  rw [hrun] at hpanics
  cases hpanics

end Graph

end FrameGraph
