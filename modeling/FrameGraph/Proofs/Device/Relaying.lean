import FrameGraph.Proofs.Device.Routes
import FrameGraph.Proofs.Process.Roles

/-!
# From a node to the host

A bridge takes the messages out of the queue of a link and puts them into the queue of a stream, where the host takes them
out. At any moment some are in the one queue, one is in the hands of the bridge, and some are in the other queue.

* `Device.Relay`: a bridge to the host without a limit that one output feeds, and nothing else.
* `Device.Relay.passes`: what the bridge has got it has put, but for the message in its hands.
* `Device.Relay.carries`: what has been sent at the output is with the host, or it is on its way.
* `Device.relay_fifo`: from bridge to bridge, and from a producer to a bridge.
-/

namespace FrameGraph
set_option autoImplicit false

namespace Device
variable {s : Settings} {g : Graph} {w : Wiring} {d : Device} {u : NodeId} {output : String} {moves : List Move}

/-- What the node of a thread is about to deliver. -/
def held (d : Device) (index : Nat) : List Message :=
  (d.phaseAt index).outbox.map Delivery.message

/-- A node that answers a message with one at most, and sends it to one queue, has one in its hands at most. -/
theorem held_single {body : Body} {inv : Process → List Act → Prop} {c : Context} {index : Nat}
    (hkeeps : Process.Keeps body c (fun _ => True) inv) (hpaced : body.Paced)
    (ht : d.threads[index]? = some ⟨c, .entering body⟩) {place : Place} {queue : QueueId}
    (hplaces : ∀ p acts, inv p acts → ∀ e ∈ acts.flatMap Act.sent, e.place = place)
    (hself : c.destinations place = [queue])
    (hanswer : ∀ p acts, inv p acts →
      (∀ now place m, (p.work.receive now place m).1.length ≤ 1) ∧ ∀ now, p.work.tick? now = none) :
    ((d.course moves).held index).length ≤ 1 := by
  have hsingle := hkeeps.single (fun p acts hinv e he => by rw [hplaces p acts hinv e he, hself]; exact Nat.le_refl 1)
    (fun p acts hinv => (hanswer p acts hinv).1) fun p acts hinv => (hanswer p acts hinv).2
  obtain ⟨p, ⟨-, hone⟩, -, houtbox⟩ := hsingle.run hpaced ht fun before _ => trivial
  rw [held, List.length_map, houtbox]
  exact hone

/-- A bridge to the host without a limit, on a thread of its own. One output of a node feeds it, and nothing else does. -/
structure Relay (g : Graph) (w : Wiring) (d : Device) (u : NodeId) (output : String) where
  index : Nat
  context : Context
  config : XLinkOutConfig
  link : Link
  /-- The queue of its stream. -/
  sink : QueueId
  thread : d.threads[index]? = some ⟨context, .entering (.xlinkOut config)⟩
  unlimited : config.leastGap = .ok none
  sole : g.SoleLink u output context.node "in" link
  served : d.outputQueue? config.stream = some sink

namespace Relay

/-- The queue of its link. -/
def source (r : Relay g w d u output) : QueueId :=
  w.queueOf r.link.target

/-- The queues on both sides are steady. The host only takes messages out of the one of the stream, and leaves the other
alone. -/
structure Undisturbed (r : Relay g w d u output) (moves : List Move) : Prop where
  source : d.Steady moves r.source
  sink : d.Steady moves r.sink
  sourceUnsent : Unsent r.source moves
  sourceUnread : Unread r.source moves
  sinkUnsent : Unsent r.sink moves

variable (r : Relay g w d u output)

theorem leads (hg : g.Assembled) (hwiring : g.build.2.wiring = .ok w) (hstart : (ofSettings s).start g = (.ok (), d)) :
    w.Leads u output r.context.node "in" r.source := by
  obtain ⟨plan, other, next, launch, hplan, -⟩ := started hstart
  have hsole := r.sole.built plan
  rw [← hg.arises.consistent.build_eq hplan] at hsole
  exact hsole.leads hg.build.arises.wellLinked hwiring

variable {r} (hd : Crewed w d) (hleads : w.Leads u output r.context.node "in" r.source)
include hd

theorem host : r.context.host = some r.sink := by
  obtain ⟨queue, hqueue, hserved⟩ := hd.serves _ (List.mem_of_getElem? r.thread) _ _ rfl rfl
  have hsame := hd.outputQueue?_eq hserved
  rw [r.served] at hsame
  exact hqueue.trans hsame.symm

theorem destinations : r.context.destinations .host = [r.sink] ∧
    ∀ place, r.sink ∈ r.context.destinations place → place = .host := by
  refine ⟨by rw [Context.destinations, host hd]; rfl, fun place hmem => ?_⟩
  cases place with
  | host => rfl
  | port key =>
    have hin := List.mem_of_getElem? r.thread
    have hlt := hd.bounded _ hin key r.sink (.inr (Context.mem_outputs_of_consumers hmem))
    exact absurd hlt (Nat.not_lt.mpr (hd.behind _ hin _ (host hd)))

/-- Two outputs that lead to one stream are one. -/
theorem output_eq {other : String} {r' : Relay g w d u other} (hsink : r.sink = r'.sink) : output = other := by
  have hhost : r.context.host = some r.sink := host hd
  have hhost' : r'.context.host = some r'.sink := host hd
  rw [← hsink] at hhost'
  have hindex := hd.index_eq_of_host r.thread r'.thread hhost hhost'
  have hthread := r'.thread
  rw [hindex, r.thread] at hthread
  obtain ⟨hcontext, -⟩ := Thread.mk.inj (Option.some.inj hthread)
  have hlink : r'.link = r.link := r.sole.into r'.link r'.sole.mem (hcontext ▸ r'.sole.target.1) r'.sole.target.2
  have hkey := r'.sole.source.2
  rw [hlink, r.sole.source.2] at hkey
  exact Option.some.inj hkey

include hleads

theorem input : r.context.input? "in" = some r.source := by
  obtain ⟨name, pollInterval, hinputs, -⟩ := hd.context _ (List.mem_of_getElem? r.thread)
  have hfound := hleads.found name pollInterval
  rw [Context.input?] at hfound ⊢
  rw [← hfound]
  exact congrArg (fun inputs => Option.map Prod.snd (List.find? _ inputs)) hinputs

theorem apart : r.source < r.sink :=
  Nat.lt_of_lt_of_le hleads.lt (hd.behind _ (List.mem_of_getElem? r.thread) _ (host hd))

/-! ## The queues -/

theorem source_conserved {index : Nat} {t : Thread} (ht : d.threads[index]? = some t) (hnode : t.node = u)
    (hkept : r.Undisturbed moves) :
    d.got (.thread r.index) r.source moves ++ (d.course moves).buffered r.source =
      d.put (.thread index) r.source moves := by
  have hconserved := hkept.source.conserved (hd.new _ (Nat.lt_of_lt_of_le hleads.lt hd.size))
  rw [put_of_thread hkept.sourceUnsent fun before other => hd.putter_of_link hleads ht hnode,
    got_of_thread hkept.sourceUnread fun before other => hd.getter_of_link hleads r.thread rfl] at hconserved
  exact hconserved

/-- The bridge does not look into the queue of its stream. -/
theorem takes_sink (before : List Move) (other : Nat) : (d.course before).takes r.sink (.thread other) = [] := by
  by_cases htakes : (d.course before).takes r.sink (.thread other) = []
  · exact htakes
  · -- Only the bridge could, but its node looks into the queue of the link and nowhere else.
    obtain rfl := hd.getter_of_host r.thread (host hd) htakes
    obtain ⟨c, body, hother, place, repeatedly, hlook⟩ := hd.fresh.sources htakes
    obtain ⟨rfl, hphase⟩ := Thread.mk.inj (Option.some.inj (r.thread.symm.trans hother))
    obtain rfl := Phase.entering.inj hphase
    rw [Process.agenda_xlinkOut r.unlimited (host hd) (input hd hleads), List.mem_singleton] at hlook
    obtain ⟨-, hsame, -⟩ := Poll.look.inj hlook
    exact absurd hsame (Nat.ne_of_gt (apart hd hleads))

theorem sink_conserved (hkept : r.Undisturbed moves) :
    d.got .host r.sink moves ++ (d.course moves).buffered r.sink = d.put (.thread r.index) r.sink moves := by
  obtain ⟨queue, hqueue, hserved⟩ := hd.serves _ (List.mem_of_getElem? r.thread) _ _ rfl rfl
  obtain rfl : queue = r.sink := Option.some.inj (hqueue.symm.trans (host hd))
  have hconserved := hkept.sink.conserved (hd.new _ (hd.below _ hserved))
  rw [put_of_thread hkept.sinkUnsent fun before other => hd.putter_of_host r.thread (host hd),
    got_of_host (takes_sink hd hleads)] at hconserved
  exact hconserved

/-! ## The bridge -/

/-- What the bridge has got it has put, in this order, but for what it has in its hands. -/
theorem passes (hkept : r.Undisturbed moves) :
    d.put (.thread r.index) r.sink moves ++ (d.course moves).held r.index = d.got (.thread r.index) r.source moves := by
  obtain ⟨hself, honly⟩ := destinations (r := r) hd
  have hkeeps := Process.keeps_xlinkOut r.unlimited (host hd) (input hd hleads)
  obtain ⟨p, hinv, hregular, hbooks⟩ := hkeeps.run_delivering ⟨none, r.unlimited⟩ (fun place => place = .host)
    (fun _ _ hinv => hinv.places) r.thread fun place hplace queue hqueue => by
      rw [hplace, hself, List.mem_singleton] at hqueue
      exact hqueue ▸ hkept.sink
  generalize hacts : d.acts r.index moves = acts at hinv hregular hbooks
  have hlooked := hregular.looked (Process.agenda_xlinkOut r.unlimited (host hd) (input hd hleads))
  have hsent : acts.flatMap Act.sent = (acts.flatMap Act.intake).map fun i => .toHost i.message := by
    rw [hinv.2, List.map_eq_flatMap]
    exact List.flatMap_congr fun i hi => by rw [(hlooked i hi).1]
  have hqueues : ∀ e ∈ ((d.course moves).phaseAt r.index).outbox, e.queue = r.sink := fun e he =>
    Process.queue_of_deliveries hself hinv.places e (hbooks ▸ List.mem_append_right _ he)
  calc d.put (.thread r.index) r.sink moves ++ (d.course moves).held r.index
      = messagesInto r.sink (acts.flatMap Act.put ++ ((d.course moves).phaseAt r.index).outbox) := by
        rw [put_thread, hacts, messagesInto_append, messagesInto_of_forall hqueues, held]
    _ = messagesAt .host (acts.flatMap Act.sent) := by
        rw [hbooks, Process.messagesInto_deliveries hself honly]
    _ = (acts.flatMap Act.intake).map Intake.message := by
        rw [hsent, messagesAt, List.filter_eq_self.mpr, List.map_map]
        · rfl
        · intro e he
          obtain ⟨i, -, rfl⟩ := List.mem_map.mp he
          rfl
    _ = d.got (.thread r.index) r.source moves := by
        rw [got_thread, hacts, messagesFrom_of_forall fun i hi => (hlooked i hi).2]

theorem single : ((d.course moves).held r.index).length ≤ 1 :=
  held_single (Process.keeps_xlinkOut r.unlimited (host hd) (input hd hleads)) ⟨none, r.unlimited⟩ r.thread
    (fun _ _ hinv => hinv.places) (destinations hd).1 fun _ _ hinv => hinv.answer

/-! ## The node before it -/

theorem feeds {c : Context} {phase : Phase} (hin : ⟨c, phase⟩ ∈ d.threads) (hnode : c.node = u) :
    c.destinations (.port output) = [r.source] ∧
      ∀ place, r.source ∈ c.destinations place → place = .port output := by
  subst hnode
  obtain ⟨name, pollInterval, -, houtputs⟩ := hd.context _ hin
  refine ⟨?_, fun place hmem => ?_⟩
  · have hconsumers := hleads.consumers name pollInterval
    rw [Context.destinations, ← hconsumers, Context.consumers, Context.consumers]
    exact congrArg (fun outputs => List.map Prod.snd (List.filter _ outputs)) houtputs
  · cases place with
    | host =>
      have hbehind := hd.behind _ hin r.source (by simpa [Context.destinations] using hmem)
      exact absurd hleads.lt (Nat.not_lt.mpr hbehind)
    | port key =>
      have hentry : (key, r.source) ∈ (w.context c.node name pollInterval).outputs :=
        houtputs ▸ Context.mem_outputs_of_consumers hmem
      rw [(hleads.writer hentry).2]

/-- What another node has sent at the output is with the host, or it is on its way: in the queue of the stream, in the hands
of the bridge, in the queue of the link, or in the hands of the node. -/
theorem carries {body : Body} {inv : Process → List Act → Prop} {c : Context} {index : Nat}
    (hkeeps : Process.Keeps body c (fun _ => True) inv) (hpaced : body.Paced) (places : Place → Prop)
    (hplaces : ∀ p acts, inv p acts → ∀ e ∈ acts.flatMap Act.sent, places e.place)
    (ht : d.threads[index]? = some ⟨c, .entering body⟩) (hnode : c.node = u) (hkept : r.Undisturbed moves)
    (hopen : ∀ place, places place → ∀ queue ∈ c.destinations place, d.Steady moves queue) :
    ∃ p, inv p (d.acts index moves) ∧ p.Regular body c (d.acts index moves) ∧
      (d.acts index moves).flatMap Act.put ++ ((d.course moves).phaseAt index).outbox =
        ((d.acts index moves).flatMap Act.sent).flatMap c.deliveries ∧
      d.got .host r.sink moves ++ (d.course moves).buffered r.sink ++ (d.course moves).held r.index ++
        (d.course moves).buffered r.source ++ messagesInto r.source ((d.course moves).phaseAt index).outbox =
        messagesAt (.port output) ((d.acts index moves).flatMap Act.sent) := by
  obtain ⟨p, hinv, hregular, hbooks⟩ := hkeeps.run_delivering hpaced places hplaces ht hopen
  refine ⟨p, hinv, hregular, hbooks, ?_⟩
  obtain ⟨hself, honly⟩ := feeds hd hleads (List.mem_of_getElem? ht) hnode
  -- From the host back to the node, each part is what the one before it has been given.
  rw [sink_conserved hd hleads hkept, passes hd hleads hkept, source_conserved hd hleads ht hnode hkept, put_thread,
    ← messagesInto_append, hbooks, Process.messagesInto_deliveries hself honly]

end Relay

/-! ## From bridge to bridge -/

theorem puts_eq_nil {index : Nat} {id : QueueId} {before : List Move} (hnone : d.put (.thread index) id moves = [])
    (hpre : before ++ [.thread index] <+: moves) : (d.course before).puts id (.thread index) = [] := by
  obtain ⟨later, rfl⟩ := hpre
  rw [put, along_append, along_concat, List.append_eq_nil_iff, List.append_eq_nil_iff] at hnone
  simpa [Move.party] using hnone.1.2

theorem stream_conserved (hd : Crewed w d) {index : Nat} {t : Thread} (ht : d.threads[index]? = some t) {queue : QueueId}
    (hhost : t.context.host = some queue) (hlt : queue < d.store.size) (hsteady : d.Steady moves queue)
    (hunread : Unread queue moves) (hnone : d.put (.thread index) queue moves = []) :
    d.got (.thread index) queue moves ++ (d.course moves).buffered queue = d.put .host queue moves := by
  have hconserved := hsteady.conserved (hd.new _ hlt)
  have hthreads (before : List Move) (other : Nat) (hpre : before ++ [.thread other] <+: moves) :
      (d.course before).puts queue (.thread other) = [] := by
    by_cases hputs : (d.course before).puts queue (.thread other) = []
    · exact hputs
    · obtain rfl := hd.putter_of_host ht hhost hputs
      exact puts_eq_nil hnone hpre
  rw [put_of_host hthreads, got_of_thread hunread fun before other => hd.getter_of_host ht hhost] at hconserved
  exact hconserved

/-- What the host has put into the queue of a stream towards a bridge, and has not been too long, is with the host, or it is
on its way. -/
theorem Relay.carries_stream {c : Context} {r : Relay g w d c.node "out"} (hd : Crewed w d)
    (hleads : w.Leads c.node "out" r.context.node "in" r.source) (hkept : r.Undisturbed moves) {index : Nat}
    {config : XLinkInConfig} {source : QueueId} (ht : d.threads[index]? = some ⟨c, .entering (.xlinkIn config)⟩)
    (hqueue : d.inputQueue? config.stream = some source) (hsteady : d.Steady moves source) (hunread : Unread source moves) :
    let e := d.course moves
    let accepted (m : Message) : Bool := config.letsThrough m.payload.dataLength
    d.got .host r.sink moves ++ e.buffered r.sink ++ e.held r.index ++ e.buffered r.source ++
        (e.held index ++ e.buffered source).filter accepted = (d.put .host source moves).filter accepted ∧
      (e.held index).length ≤ 1 := by
  intro e accepted
  obtain ⟨queue, hhost, hserved⟩ := hd.serves _ (List.mem_of_getElem? ht) _ _ rfl rfl
  obtain rfl : queue = source := Option.some.inj ((hd.inputQueue?_eq hserved).symm.trans hqueue)
  have hbehind := hd.behind _ (List.mem_of_getElem? ht) _ hhost
  obtain ⟨hself, -⟩ := Relay.feeds hd hleads (List.mem_of_getElem? ht) rfl
  have hkeeps := Process.keeps_xlinkIn config hhost
  obtain ⟨p, hinv, hregular, hbooks, hcarried⟩ := Relay.carries hd hleads hkeeps trivial (fun place => place = .port "out")
    (fun _ _ hinv => hinv.places) ht rfl hkept fun place hplace other hother => by
      rw [hplace, hself, List.mem_singleton] at hother
      exact hother ▸ hkept.source
  have hlooked := hregular.looked (Process.agenda_xlinkIn config hhost)
  have hqueues := hbooks ▸ Process.queue_of_deliveries hself hinv.places
  have hheld : messagesInto r.source (e.phaseAt index).outbox = e.held index :=
    messagesInto_of_forall fun x hx => hqueues x (List.mem_append_right _ hx)
  -- The node puts nothing into the queue that it reads.
  have hnone : d.put (.thread index) queue moves = [] := by
    rw [put_thread]
    refine messagesInto_eq_nil fun x hx hsame => ?_
    have hsource := hqueues x (List.mem_append_left _ hx)
    exact absurd hleads.lt (Nat.not_lt.mpr (hsource ▸ hsame ▸ hbehind))
  have hlt : queue < d.store.size := hd.below _ hserved
  have htaken : ((d.acts index moves).flatMap Act.intake).map Intake.message = d.got (.thread index) queue moves := by
    rw [got_thread, messagesFrom_of_forall fun i hi => (hlooked i hi).2]
  rw [hheld, hinv.messagesAt fun i hi => (hlooked i hi).1, htaken] at hcarried
  -- What it has in its hands it has let through.
  have haccepted : (e.held index).filter accepted = e.held index := by
    refine List.filter_eq_self.mpr fun m hm => ?_
    have hmem := hcarried ▸ List.mem_append_right _ hm
    exact (List.mem_filter.mp hmem).2
  refine ⟨?_, held_single hkeeps trivial ht (fun _ _ hinv => hinv.places) hself fun _ _ hinv => hinv.answer⟩
  calc d.got .host r.sink moves ++ e.buffered r.sink ++ e.held r.index ++ e.buffered r.source ++
        (e.held index ++ e.buffered queue).filter accepted
      = (d.got .host r.sink moves ++ e.buffered r.sink ++ e.held r.index ++ e.buffered r.source ++ e.held index) ++
          (e.buffered queue).filter accepted := by
        rw [List.filter_append, haccepted, ← List.append_assoc]
    _ = (d.got (.thread index) queue moves ++ e.buffered queue).filter accepted := by
        rw [hcarried, List.filter_append]
    _ = (d.put .host queue moves).filter accepted := by
        rw [stream_conserved hd ht hhost hlt hsteady hunread hnone]

/-- What comes out of a producer comes to the host in the order of its numbers, from zero on and without a gap. -/
theorem Relay.carries_numbers {c : Context} {r : Relay g w d c.node "out"} (hd : Crewed w d)
    (hleads : w.Leads c.node "out" r.context.node "in" r.source) (hkept : r.Undisturbed moves) {index : Nat}
    {config : ProducerConfig} {n : Nat} (ht : d.threads[index]? = some ⟨c, .entering (.producer config)⟩)
    (hcount : config.count = some n) : (d.got .host r.sink moves).map Message.sequence <+: List.range n := by
  obtain ⟨hself, -⟩ := Relay.feeds hd hleads (List.mem_of_getElem? ht) rfl
  have hplaces (p : Process) (acts : List Act) (hinv : ∃ production, Process.Numbered config p acts production) :
      ∀ e ∈ acts.flatMap Act.sent, e.place = .port "out" := by
    obtain ⟨production, hinv⟩ := hinv
    intro e he
    have hmem : (e.place, e.message.sequence) ∈ (List.range production.sequence).map fun k => (.port "out", k) :=
      hinv.sent ▸ List.mem_map_of_mem he
    obtain ⟨k, -, hk⟩ := List.mem_map.mp hmem
    exact (Prod.mk.inj hk).1.symm
  obtain ⟨p, ⟨production, hinv⟩, -, -, hcarried⟩ := Relay.carries hd hleads (Process.keeps_producer config)
    trivial (fun place => place = .port "out") hplaces ht rfl hkept fun place hplace other hother => by
      rw [hplace, hself, List.mem_singleton] at hother
      exact hother ▸ hkept.source
  have hnumbers : (messagesAt (.port "out") ((d.acts index moves).flatMap Act.sent)).map Message.sequence =
      List.range production.sequence := by
    have hall := hplaces p _ ⟨production, hinv⟩
    have hsent := congrArg (List.map Prod.snd) hinv.sent
    rw [messagesAt, List.filter_eq_self.mpr fun e he => decide_eq_true (hall e he)]
    simpa [Function.comp_def] using hsent
  have hpre : d.got .host r.sink moves <+: messagesAt (.port "out") ((d.acts index moves).flatMap Act.sent) := by
    rw [← hcarried]
    simp only [List.append_assoc]
    exact List.prefix_append _ _
  calc (d.got .host r.sink moves).map Message.sequence
      <+: List.range production.sequence := hnumbers ▸ hpre.map Message.sequence
    _ <+: List.range n := by
      rw [← Nat.min_eq_left (hinv.count n hcount).1, ← List.take_range]
      exact List.take_prefix _ _

/-- From a bridge to a bridge: at any moment what the host has put in, but for what is too long, is with the host, in the
queue of the one stream, in the hands of the one bridge, in the queue of the link, in the hands of the other bridge, and in
the queue of the other stream, in this order. From a producer to a bridge: the host has got the first numbers. -/
theorem relay_fifo (hg : g.Assembled) (hwiring : g.build.2.wiring = .ok w) (hstart : (ofSettings s).start g = (.ok (), d))
    {index : Nat} {c : Context} {body : Body} (ht : d.threads[index]? = some ⟨c, .entering body⟩)
    (r : Relay g w d c.node "out") (moves : List Move) (hkept : r.Undisturbed moves) :
    (∀ config source, body = .xlinkIn config → d.inputQueue? config.stream = some source → d.Steady moves source →
      Unread source moves →
      let e := d.course moves
      let accepted (m : Message) : Bool := decide ¬(config.maxDataSize ≠ 0 ∧ config.maxDataSize < m.payload.dataLength)
      d.got .host r.sink moves ++ e.buffered r.sink ++ e.held r.index ++ e.buffered r.source ++
          (e.held index ++ e.buffered source).filter accepted = (d.put .host source moves).filter accepted ∧
        (e.held r.index).length ≤ 1 ∧ (e.held index).length ≤ 1) ∧
    (∀ config n, body = .producer config → config.count = some n →
      (d.got .host r.sink moves).map Message.sequence <+: List.range n) := by
  have hd := crewed_of_started hg hwiring hstart
  have hleads := r.leads hg hwiring hstart
  refine ⟨?_, ?_⟩
  · rintro config source rfl hqueue hsteady hunread e accepted
    have haccepted : accepted = fun m => config.letsThrough m.payload.dataLength := by
      funext m
      rw [Bool.eq_iff_iff, decide_eq_true_iff, XLinkInConfig.letsThrough, Bool.or_eq_true, beq_iff_eq, decide_eq_true_iff]
      omega
    obtain ⟨hcarried, hone⟩ := Relay.carries_stream hd hleads hkept ht hqueue hsteady hunread
    rw [haccepted]
    exact ⟨hcarried, Relay.single hd hleads, hone⟩
  · rintro config n rfl hcount
    exact Relay.carries_numbers hd hleads hkept ht hcount

/-- Messages on their way, of which the second and the seventh are too long, and a producer beside them. -/
theorem relay_fifo_underway :
    let g : Graph := ({} : Graph).after [
      .operation (.createNamed "in" (.xlinkIn { stream := "a", maxDataSize := 2 })),
      .operation (.createNamed "out" (.xlinkOut { stream := "b" })), .operation (.link ⟨0, 0⟩ ⟨1, 0⟩),
      .operation (.createNamed "count" (.producer { count := some 2, interval := 1 })),
      .operation (.createNamed "numbers" (.xlinkOut { stream := "c" })), .operation (.link ⟨2, 0⟩ ⟨3, 0⟩)]
    let d := ((ofSettings { queues := { blocking := true } }).start g).2
    let send (number length : Nat) : Move := .call 2 (.send ⟨10, number, .buffer (List.replicate length 0)⟩)
    let moves : List Move := [send 1 1, send 2 3, send 3 2, send 4 1, send 5 2, send 6 0, send 7 3, send 8 1] ++
      List.replicate 18 (Move.thread 0) ++ List.replicate 8 (Move.thread 2) ++ [Move.call 3 .get, Move.thread 2,
        Move.thread 2, Move.thread 1, Move.thread 1, Move.elapse 3] ++ List.replicate 6 (Move.thread 1) ++
      List.replicate 5 (Move.thread 3) ++ [Move.call 4 .get]
    let e := d.course moves
    let numbers := List.map Message.sequence
    numbers (d.got .host 3 moves) = [1] ∧ numbers (e.buffered 3) = [3] ∧ numbers (e.held 2) = [4] ∧
      numbers (e.buffered 0) = [5] ∧ numbers (e.held 0) = [6] ∧ numbers (e.buffered 2) = [7, 8] ∧
      d.got .host 3 moves ++ e.buffered 3 ++ e.held 2 ++ e.buffered 0 ++
          (e.held 0 ++ e.buffered 2).filter (fun m => decide ¬(2 ≠ 0 ∧ 2 < m.payload.dataLength)) =
        (d.put .host 2 moves).filter (fun m => decide ¬(2 ≠ 0 ∧ 2 < m.payload.dataLength)) ∧
      (d.got .host 4 moves).length = 1 ∧ numbers (d.got .host 4 moves) <+: List.range 2 := by
  intro g d send moves e numbers
  have hg : g.Assembled := ⟨_, by simp [Occurrence.isCall], rfl⟩
  have hok : ((ofSettings { queues := { blocking := true } }).start g).1 = .ok () := by decide +kernel
  have hstart : (ofSettings { queues := { blocking := true } }).start g = (.ok (), d) := by rw [← hok]
  obtain ⟨plan, w, next, launch, -, hwiring, -⟩ := started hstart
  let posts : List (Context × NodeConfig) := [
    ({ node := ⟨0⟩, name := "in", pollInterval := 5000000, outputs := [("out", 0)], host := some 2 },
      .xlinkIn { stream := "a", maxDataSize := 2 }),
    ({ node := ⟨2⟩, name := "count", pollInterval := 5000000, outputs := [("out", 1)] },
      .producer { count := some 2, interval := 1 }),
    ({ node := ⟨1⟩, name := "out", pollInterval := 5000000, inputs := [("in", 0)], host := some 3 },
      .xlinkOut { stream := "b" }),
    ({ node := ⟨3⟩, name := "numbers", pollInterval := 5000000, inputs := [("in", 1)], host := some 4 },
      .xlinkOut { stream := "c" })]
  have hposts : d.threads.map Thread.post? = posts.map some := by decide +kernel
  have hinput : d.inputQueue? "a" = some 2 := by decide +kernel
  have hserved : d.outputQueue? "b" = some 3 ∧ d.outputQueue? "c" = some 4 := by decide +kernel
  have hsole : g.SoleLink ⟨0⟩ "out" ⟨1⟩ "in" ⟨⟨0⟩, ⟨0, 0⟩, ⟨1, 0⟩⟩ ∧ g.SoleLink ⟨2⟩ "out" ⟨3⟩ "in" ⟨⟨1⟩, ⟨2, 0⟩, ⟨3, 0⟩⟩ := by
    decide +kernel
  have hfixed : throughout (fixed (List.range 5) 8) d moves = true := by decide +kernel
  have hsent : ∀ id < 5, id ≠ 2 → Unsent id moves := by decide +kernel
  have hread : ∀ id < 3, Unread id moves := by decide +kernel
  have hplaces : numbers (d.got .host 3 moves) = [1] ∧ numbers (e.buffered 3) = [3] ∧ numbers (e.held 2) = [4] ∧
      numbers (e.buffered 0) = [5] ∧ numbers (e.held 0) = [6] ∧ numbers (e.buffered 2) = [7, 8] ∧
      (d.got .host 4 moves).length = 1 := by decide +kernel
  -- From here on it is enough to know that much of the course.
  clear_value moves d g
  have hsteady (id : QueueId) (hid : id < 5) : d.Steady moves id := .of_fixed hfixed (List.mem_range.mpr hid)
  let bridge : Relay g w d ⟨0⟩ "out" := ⟨2, _, _, _, 3, thread_of_posts hposts 2 _ rfl, rfl, hsole.1, hserved.1⟩
  let counter : Relay g w d ⟨2⟩ "out" := ⟨3, _, _, _, 4, thread_of_posts hposts 3 _ rfl, rfl, hsole.2, hserved.2⟩
  have hd := crewed_of_started hg hwiring hstart
  have hbridge : bridge.source = 0 := (Option.some.inj (Relay.input hd (bridge.leads hg hwiring hstart))).symm
  have hcounter : counter.source = 1 := (Option.some.inj (Relay.input hd (counter.leads hg hwiring hstart))).symm
  have hkept : bridge.Undisturbed moves := by
    refine ⟨?_, hsteady 3 (by decide), ?_, ?_, hsent 3 (by decide) (by decide)⟩ <;> rw [hbridge]
    exacts [hsteady 0 (by decide), hsent 0 (by decide) (by decide), hread 0 (by decide)]
  have hkept' : counter.Undisturbed moves := by
    refine ⟨?_, hsteady 4 (by decide), ?_, ?_, hsent 4 (by decide) (by decide)⟩ <;> rw [hcounter]
    exacts [hsteady 1 (by decide), hsent 1 (by decide) (by decide), hread 1 (by decide)]
  obtain ⟨hstreams, -⟩ := relay_fifo hg hwiring hstart (thread_of_posts hposts 0 _ rfl) bridge moves hkept
  obtain ⟨hcarried, -⟩ := hstreams _ 2 rfl hinput (hsteady 2 (by decide)) (hread 2 (by decide))
  obtain ⟨-, hnumbers⟩ := relay_fifo hg hwiring hstart (thread_of_posts hposts 1 _ rfl) counter moves hkept'
  rw [hbridge] at hcarried
  obtain ⟨hgot, hout, hbridged, hlink, hentered, hin, hlength⟩ := hplaces
  exact ⟨hgot, hout, hbridged, hlink, hentered, hin, hcarried, hlength, hnumbers _ 2 rfl rfl⟩

end Device

end FrameGraph
