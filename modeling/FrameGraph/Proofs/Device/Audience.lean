import FrameGraph.Proofs.Device.Opening
import FrameGraph.Proofs.Device.Relaying
import FrameGraph.Proofs.HostStreams.Sets
import Mathlib.Logic.Function.Iterate

/-!
# Sets on their way to the host

A synchronizing node sends every set to the streams of the host one message at a time, each over a bridge of its own. The
host puts the sets together again, by nothing but the order in which the messages of each stream arrive.

* `Audience`: a host that reads streams of a device in sets, while anything else happens to the device.
* `Audience.read`: one message more for the set. `Audience.step_reach`, `Audience.step_getSet` and
  `Audience.step_getSetTimeout` say that calls are made up of these.
* `Audience.Books`: what the host has got out of a stream is in the sets, or it is parked.
* `Device.Relay.delivers`: the k-th message of a stream is that of the k-th set.
* `Device.sets_arrive_aligned`: the k-th set of the host is the k-th set of the node.
-/

namespace FrameGraph
set_option autoImplicit false

/-! ## Calls on one queue of a device -/

theorem QueueStore.snd_modify {α β γ : Type} (s : QueueStore α) (id : QueueId) (absent : β) (absent' : γ)
    {f : Queue α → β × Queue α} {f' : Queue α → γ × Queue α} (h : ∀ q, (f q).2 = (f' q).2) :
    (s.modify id absent f).2 = (s.modify id absent' f').2 := by
  unfold modify
  split
  · rfl
  · simp only [h]

namespace Device

theorem call_snd {β : Type} (d : Device) (queue : QueueId) (call : Call Message) (absent : β)
    (f : Queue Message → β × Queue Message) (h : ∀ q : Queue Message, (q.perform call).2 = (f q).2) :
    (d.call queue call).2 = { d with store := (d.store.modify queue absent f).2 } :=
  congrArg (fun store => { d with store }) (d.store.snd_modify queue .waits absent h)

theorem call_get (d : Device) (queue : QueueId) :
    (d.call queue .get).2 = { d with store := (d.store.take queue).2 } :=
  d.call_snd queue .get Attempt.wait Queue.take fun q => by
    rcases h : q.take with ⟨_ | _, next⟩ <;> simp [Queue.perform, h]

theorem takes_get (d : Device) (queue id : QueueId) : d.takes id (.call queue .get) =
    if queue = id then match (d.store.take queue).1 with
      | .done (.ok m) => [m]
      | _ => [] else [] := by
  rw [takes]
  split
  · rw [Device.call, QueueStore.take]
    cases hq : d.store.get? queue with
    | none => simp [QueueStore.modify_of_absent hq, Reply.given]
    | some q =>
      rw [QueueStore.modify_of_get? hq, QueueStore.modify_of_get? hq]
      rcases h : q.take with ⟨⟨_ | _⟩ | _, next⟩ <;> simp [Queue.perform, h, Reply.given]
  · rfl

end Device

/-! ## Opening -/

/-- What the host calls to open streams, queue by queue. -/
def HostStreams.openings (slots : List Slot) (size : Nat) (blocking : Bool) : List Move :=
  slots.flatMap fun slot => [.call slot.queue (.resize size), .call slot.queue (.setBlocking blocking)]

theorem Device.openQueue_spec {d : Device} {served : String → Option QueueId} {name : String} {size : Nat}
    {blocking : Bool} {queue : QueueId} {store : QueueStore Message}
    (h : openQueue served name size blocking d.store = (.ok queue, store)) : served name = some queue ∧
      { d with store } = d.course [.call queue (.resize size), .call queue (.setBlocking blocking)] := by
  rw [openQueue] at h
  cases hserved : served name with
  | none =>
    rw [hserved] at h
    cases h
  | some other =>
    rw [hserved] at h
    rcases hresize : d.store.resize other size with ⟨_ | _, next⟩
    · simp [hresize] at h
    · simp only [hresize, Prod.mk.injEq, Except.ok.injEq] at h
      obtain ⟨rfl, rfl⟩ := h
      refine ⟨rfl, ?_⟩
      have hfirst : (d.call other (.resize size)).2 = { d with store := (d.store.resize other size).2 } :=
        d.call_snd other (.resize size) (Except.ok ()) (fun q => q.resize size) fun q => rfl
      have hsecond (e : Device) : (e.call other (.setBlocking blocking)).2 =
          { e with store := e.store.setBlocking other blocking } :=
        e.call_snd other (.setBlocking blocking) () (fun q => ((), q.setBlocking blocking)) fun q => rfl
      simp only [course, List.foldl_cons, List.foldl_nil, move, hfirst, hsecond, hresize]

theorem Device.openSlots_spec {d : Device} {served : String → Option QueueId} {names : List String} {size : Nat}
    {blocking : Bool} {slots : List Slot} {store : QueueStore Message}
    (h : HostStreams.openSlots served size blocking names d.store = (.ok slots, store)) :
    slots.map Slot.name = names ∧ (∀ slot ∈ slots, served slot.name = some slot.queue ∧ slot.parked = none) ∧
      { d with store } = d.course (HostStreams.openings slots size blocking) := by
  induction names generalizing d slots store with
  | nil =>
    cases h
    exact ⟨rfl, fun _ hslot => (nomatch hslot), rfl⟩
  | cons name rest ih =>
    obtain ⟨queue, next, others, hqueue, hrest, rfl⟩ := HostStreams.openSlots_cons_ok h
    obtain ⟨hserved, hfirst⟩ := openQueue_spec hqueue
    obtain ⟨hnames, hslots, hcourse⟩ := @ih { d with store := next } others store hrest
    refine ⟨by rw [List.map_cons, hnames], List.forall_mem_cons.mpr ⟨⟨hserved, rfl⟩, hslots⟩, ?_⟩
    rw [HostStreams.openings, List.flatMap_cons, course_append, ← hfirst]
    exact hcourse

/-! ## A host that reads -/

namespace HostStreams

/-- The set that a step of a call for a set completes. -/
def Progress.set? : Progress → Option StreamSet
  | complete set => some set
  | took .. | failed _ | waits => none

/-- The set that a call for a set comes back with. -/
def answer? : Attempt StreamSet → Option StreamSet
  | .done (.ok set) => some set
  | .done (.error _) | .wait => none

/-- What `fill` calls: it asks for a message for every slot that has none, up to the first one that gets none. -/
def calls : List Slot → QueueStore Message → List Move
  | [], _ => []
  | slot :: rest, store =>
    if slot.parked.isSome then calls rest store
    else .call slot.queue .get :: match store.take slot.queue with
      | (.done (.ok _), store) => calls rest store
      | _ => []

end HostStreams

/-- A host that reads streams of a device in sets. -/
structure Audience where
  device : Device
  /-- All that has happened to the device since it was started. -/
  moves : List Move
  streams : HostStreams
  /-- The sets that the host has got, in this order. -/
  sets : List StreamSet := []

inductive Audience.Move where
  /-- Something happens to the device besides. -/
  | device (m : FrameGraph.Move)
  /-- The call for a set comes so many streams far, where others are to go on before it does, or where it has to wait. -/
  | reach (count : Nat)
  /-- The call for a set comes to its end, unless it has to wait. -/
  | getSet
  /-- The same, where its deadline passes if it has to wait. -/
  | getSetTimeout

/-- The host opens streams together, after some moves. -/
def Device.audience (d : Device) (before : List Move) (names : List String) (size : Nat) (blocking : Bool) :
    Except RuntimeError Audience :=
  match (d.course before).openStreams names size blocking with
  | (.error e, _) => .error e
  | (.ok streams, device) =>
    .ok { device, moves := before ++ HostStreams.openings streams.slots size blocking, streams }

namespace Audience

def Move.device? : Move → Option FrameGraph.Move
  | device m => some m
  | reach _ | getSet | getSetTimeout => none

/-- The host has made some calls on the queues, and has got a set from them, or none. -/
def hear (a : Audience) (calls : List FrameGraph.Move) (set : Option StreamSet) (streams : HostStreams)
    (store : QueueStore Message) : Audience where
  device := { a.device with store }
  moves := a.moves ++ calls
  streams
  sets := a.sets ++ set.toList

/-- Between any two streams that a call for a set comes to, other things may happen. -/
def step (a : Audience) : Move → Audience
  | .device m => { a with device := a.device.move m, moves := a.moves ++ [m] }
  | .reach count =>
    let (front, behind) := a.streams.slots.splitAt count
    let (_, filled, store) := HostStreams.fill front a.device.store
    a.hear (HostStreams.calls front a.device.store) none ⟨filled ++ behind⟩ store
  | .getSet =>
    let (outcome, streams, store) := a.streams.getSet a.device.store
    a.hear (HostStreams.calls a.streams.slots a.device.store) (HostStreams.answer? outcome) streams store
  | .getSetTimeout =>
    let (result, streams, store) := a.streams.getSetTimeout a.device.store
    a.hear (HostStreams.calls a.streams.slots a.device.store) result.toOption.join streams store

def run (a : Audience) (later : List Move) : Audience :=
  later.foldl step a

end Audience

theorem Device.audience_spec {d : Device} {before : List Move} {names : List String} {size : Nat} {blocking : Bool}
    {a : Audience} (h : d.audience before names size blocking = .ok a) :
    a.device = d.course a.moves ∧ a.moves = before ++ HostStreams.openings a.streams.slots size blocking ∧ a.sets = [] ∧
      a.streams.names = names ∧
      ∀ slot ∈ a.streams.slots, d.outputQueue? slot.name = some slot.queue ∧ slot.parked = none := by
  rw [audience, openStreams, HostStreams.openAll] at h
  rcases hslots : HostStreams.openSlots (d.course before).outputQueue? size blocking names (d.course before).store with
    ⟨_ | slots, store⟩
  · simp [hslots, Except.map] at h
  · simp only [hslots, Except.map, Except.ok.injEq] at h
    subst h
    obtain ⟨hnames, hall, hcourse⟩ := openSlots_spec hslots
    refine ⟨by rw [hcourse, course_append], rfl, rfl, hnames, fun slot hslot => ?_⟩
    have hserved := hall slot hslot
    rwa [outputQueue?, served_course, ← outputQueue?] at hserved

namespace Audience

/-! ## One message after the other -/

def request? (a : Audience) : Option FrameGraph.Move :=
  (a.streams.slots.find? fun slot => slot.parked.isNone).map fun slot => .call slot.queue .get

/-- A call for a set goes on, or a new one begins. -/
def read (a : Audience) : Audience :=
  let (progress, streams, store) := a.streams.advance a.device.store
  a.hear a.request?.toList progress.set? streams store

theorem request?_of_filled {a : Audience} (hfilled : ∀ slot ∈ a.streams.slots, slot.parked.isSome) :
    a.request? = none := by
  rw [request?, List.find?_eq_none.mpr, Option.map_none]
  exact fun slot hslot => by simpa [Option.isSome_iff_ne_none] using hfilled slot hslot

theorem request?_of_lacking {a : Audience} {filled rest : List Slot} {slot : Slot}
    (hslots : a.streams.slots = filled ++ slot :: rest) (hfilled : ∀ earlier ∈ filled, earlier.parked.isSome)
    (hlacks : slot.parked = none) : a.request? = some (.call slot.queue .get) := by
  rw [request?, hslots, List.find?_append, List.find?_eq_none.mpr, Option.none_or, List.find?_cons_of_pos]
  · rfl
  · rw [hlacks]
    rfl
  · exact fun slot hslot => by simpa [Option.isSome_iff_ne_none] using hfilled slot hslot

/-- By induction on the slots that the call has still to go through, behind those that have their messages. -/
theorem reads_of_fill (front : List Slot) {filled behind : List Slot} (hfilled : ∀ slot ∈ filled, slot.parked.isSome)
    {a : Audience} (hstreams : a.streams = ⟨filled ++ (front ++ behind)⟩) :
    ∃ n, a.hear (HostStreams.calls front a.device.store) none
      ⟨filled ++ ((HostStreams.fill front a.device.store).2.1 ++ behind)⟩ (HostStreams.fill front a.device.store).2.2 =
        read^[n] a := by
  induction front generalizing filled a with
  | nil =>
    rw [List.nil_append] at hstreams
    exact ⟨0, by simp [hear, HostStreams.calls, HostStreams.fill, ← hstreams]⟩
  | cons slot rest ih =>
    by_cases hparked : slot.parked.isSome
    · obtain ⟨n, hn⟩ := @ih (filled ++ [slot]) (by simpa [or_imp, forall_and] using ⟨hfilled, hparked⟩) a
        (hstreams.trans (by simp))
      refine ⟨n, hn ▸ ?_⟩
      simp [HostStreams.calls, HostStreams.fill, hparked]
    · have hlacks : slot.parked = none := by simpa using hparked
      rw [List.cons_append] at hstreams
      have hslots : a.streams.slots = filled ++ slot :: (rest ++ behind) := congrArg HostStreams.slots hstreams
      have hread := HostStreams.advance_of_lacking hslots hfilled hlacks a.device.store
      have hasked := request?_of_lacking hslots hfilled hlacks
      rcases htake : a.device.store.take slot.queue with ⟨⟨e | m⟩ | _, store⟩ <;> simp only [htake] at hread
      · refine ⟨1, ?_⟩
        simp [read, hread, hasked, HostStreams.calls, HostStreams.fill, hlacks, htake, ← hstreams,
          HostStreams.Progress.set?]
      · -- The slot has its message now, and the call goes on behind it.
        have hafter : a.read.streams = ⟨filled ++ [{ slot with parked := some m }] ++ (rest ++ behind)⟩ := by
          simp [read, hread, hear]
        obtain ⟨n, hn⟩ := @ih (filled ++ [{ slot with parked := some m }])
          (by simpa [or_imp, forall_and] using hfilled) a.read hafter
        refine ⟨n + 1, (Function.iterate_succ_apply read n a).symm ▸ hn ▸ ?_⟩
        simp [read, hread, hasked, hear, HostStreams.calls, HostStreams.fill, hlacks, htake, HostStreams.Progress.set?]
      · refine ⟨1, ?_⟩
        simp [read, hread, hasked, HostStreams.calls, HostStreams.fill, hlacks, htake, ← hstreams,
          HostStreams.Progress.set?]

/-- As far as a call comes, it takes one message after the other. -/
theorem step_reach (a : Audience) (count : Nat) : ∃ n, a.step (.reach count) = read^[n] a := by
  have hstreams : a.streams = ⟨[] ++ (a.streams.slots.take count ++ a.streams.slots.drop count)⟩ := by
    rw [List.take_append_drop, List.nil_append]
  obtain ⟨n, hn⟩ := reads_of_fill (a.streams.slots.take count) (List.forall_mem_nil _) hstreams
  exact ⟨n, hn ▸ by simp [step, List.splitAt_eq]⟩

/-- A call that does not have to wait ends when it has come through all streams. -/
theorem step_getSet (a : Audience) : ∃ n, a.step .getSet = read^[n] a := by
  have hstreams : a.streams = ⟨[] ++ (a.streams.slots ++ [])⟩ := by rw [List.append_nil, List.nil_append]
  obtain ⟨n, hn⟩ := reads_of_fill a.streams.slots (List.forall_mem_nil _) hstreams
  have hall := @HostStreams.filled_of_fill a.streams.slots a.device.store
  rcases hfill : HostStreams.fill a.streams.slots a.device.store with ⟨⟨e | _⟩ | _, slots, store⟩ <;>
    simp only [hfill, List.append_nil, List.nil_append] at hn hall
  · exact ⟨n, hn ▸ by simp [step, HostStreams.getSet, hfill, HostStreams.answer?]⟩
  · -- All slots have their messages, so one reading more takes none and gives the set.
    have hfilled : ∀ slot ∈ (read^[n] a).streams.slots, slot.parked.isSome := hn ▸ hall trivial
    refine ⟨n + 1, ?_⟩
    rw [Function.iterate_succ_apply', read, HostStreams.advance_of_filled hfilled, request?_of_filled hfilled, ← hn]
    simp [step, HostStreams.getSet, hfill, HostStreams.answer?, hear, HostStreams.Progress.set?]
  · exact ⟨n, hn ▸ by simp [step, HostStreams.getSet, hfill, HostStreams.answer?]⟩

theorem step_getSetTimeout (a : Audience) : a.step .getSetTimeout = a.step .getSet := by
  simp only [step, HostStreams.getSetTimeout]
  rcases a.streams.getSet a.device.store with ⟨⟨e | set⟩ | _, streams, store⟩ <;> rfl

/-- Whatever the host does, it reads. -/
theorem reads_of_step (a : Audience) {m : Move} (hm : m.device? = none) : ∃ n, a.step m = read^[n] a := by
  cases m with
  | device => cases hm
  | reach count => exact a.step_reach count
  | getSet => exact a.step_getSet
  | getSetTimeout =>
    rw [step_getSetTimeout]
    exact a.step_getSet

/-! ## Books -/

/-- What is written down of an audience of streams that were `h` at the start. What every slot has taken out of its queue is
what the host has got there. -/
structure Books (d : Device) (h : HostStreams) (a : Audience) (r : Reading) : Prop where
  device : a.device = d.course a.moves
  streams : r.streams = a.streams
  answers : r.answers = a.sets
  balanced : r.Balanced h
  even : r.Even
  dequeued : ∀ (i : Nat) (slot : Slot), h.slots[i]? = some slot → r.dequeued i = d.got .host slot.queue a.moves

variable {d : Device} {h : HostStreams} {a : Audience} {r : Reading}

theorem Books.slot {i : Nat} {slot : Slot} (hb : Books d h a r) (hslot : a.streams.slots[i]? = some slot) :
    ∃ first, h.slots[i]? = some first ∧ first.queue = slot.queue ∧ first.name = slot.name := by
  have hsame := congrArg (fun slots => slots[i]?) (hb.streams ▸ hb.balanced.slots)
  simp only [HostStreams.unpark, List.getElem?_map, hslot, Option.map_some] at hsame
  obtain ⟨first, hfirst, hfields⟩ := Option.map_eq_some_iff.mp hsame.symm
  obtain ⟨hname, hqueue, -⟩ := Slot.mk.inj hfields
  exact ⟨first, hfirst, hqueue, hname⟩

theorem Books.device_move (hb : Books d h a r) {m : FrameGraph.Move}
    (hother : ∀ slot ∈ h.slots, ∀ call, m = .call slot.queue call → call.receives = false) :
    Books d h (a.step (.device m)) r where
  device := by rw [step, hb.device, Device.course_concat]
  streams := hb.streams
  answers := hb.answers
  balanced := hb.balanced
  even := hb.even
  dequeued i slot hslot := by
    rw [step, Device.got_concat, ← hb.dequeued i slot hslot]
    split
    · rename_i hparty
      rw [Device.takes_of_not_receives _ hparty (hother slot (List.mem_of_getElem? hslot)), List.append_nil]
    · rw [List.append_nil]

theorem Books.place (hb : Books d h a r) (hdistinct : (h.slots.map Slot.queue).Nodup) {i j : Nat} {slot first : Slot}
    (hslot : a.streams.slots[j]? = some slot) (hfirst : h.slots[i]? = some first) : slot.queue = first.queue ↔ i = j := by
  obtain ⟨own, hown, hqueue, -⟩ := hb.slot hslot
  have hlt : i < (h.slots.map Slot.queue).length := by simpa using (List.getElem?_eq_some_iff.mp hfirst).1
  rw [← List.getElem?_inj hlt hdistinct, List.getElem?_map, List.getElem?_map, hfirst, hown, ← hqueue]
  simp [eq_comm]

theorem Books.got_read (hb : Books d h a r) (hdistinct : (h.slots.map Slot.queue).Nodup) {i j : Nat} {slot first : Slot}
    (hslot : a.streams.slots[j]? = some slot) (hfirst : h.slots[i]? = some first) :
    d.got .host first.queue (a.moves ++ [.call slot.queue .get]) = r.dequeued i ++
      if i = j then match (a.device.store.take slot.queue).1 with
        | .done (.ok m) => [m]
        | _ => [] else [] := by
  have hparty : (FrameGraph.Move.call slot.queue .get).party = .host := rfl
  rw [Device.got_concat, if_pos hparty, ← hb.dequeued i first hfirst, ← hb.device, Device.takes_get]
  simp only [hb.place hdistinct hslot hfirst]

theorem device_read (hdevice : a.device = d.course a.moves) : a.read.device = d.course a.read.moves := by
  change { a.device with store := (a.streams.advance a.device.store).2.2 } = d.course (a.moves ++ a.request?.toList)
  rcases a.streams.advance_cases a.device.store with ⟨hfilled, hstep⟩ | ⟨filled, slot, rest, hslots, hfilled, hlacks, hstep⟩
  · rw [hstep, request?_of_filled hfilled, Option.toList_none, List.append_nil]
    exact hdevice
  · rw [request?_of_lacking hslots hfilled hlacks, Option.toList_some, Device.course_concat, ← hdevice, Device.move,
      Device.call_get, hstep]
    rcases a.device.store.take slot.queue with ⟨⟨e | m⟩ | _, store⟩ <;> rfl

theorem Books.read (hb : Books d h a r) (hdistinct : (h.slots.map Slot.queue).Nodup) :
    ∃ next, Books d h a.read next := by
  -- The reading goes on from the queues as they are now, whatever has happened to them meanwhile.
  let s : Reading := { r with store := a.device.store }
  have hs : s.Balanced h := ⟨hb.balanced.slots, hb.balanced.parked, hb.balanced.answered⟩
  have heven : s.Even := hb.even
  have hreading : s.streams.advance s.store = a.streams.advance a.device.store := by rw [← hb.streams]
  refine ⟨s.step .advance, device_read hb.device, ?_, ?_, hs.advance, heven.step (by decide), fun i first hfirst => ?_⟩
  · simp only [Audience.read, hear, Reading.step, hreading]
    rcases a.streams.advance a.device.store with ⟨_ | _ | _ | _, _, _⟩ <;> rfl
  · simp only [Audience.read, hear, Reading.step, hreading]
    rcases a.streams.advance a.device.store with ⟨_ | _ | _ | _, _, _⟩ <;>
      simp [HostStreams.Progress.set?, s, hb.answers]
  · change _ = d.got .host first.queue (a.moves ++ a.request?.toList)
    simp only [Reading.step, hreading]
    rcases a.streams.advance_cases a.device.store with ⟨hfilled, hstep⟩ | ⟨filled, slot, rest, hslots, hfilled, hlacks, hstep⟩
    · rw [hstep, request?_of_filled hfilled, Option.toList_none, List.append_nil]
      exact hb.dequeued i first hfirst
    · have hslot : a.streams.slots[filled.length]? = some slot := by simp [hslots]
      rw [hstep, request?_of_lacking hslots hfilled hlacks, Option.toList_some, hb.got_read hdistinct hslot hfirst]
      rcases a.device.store.take slot.queue with ⟨⟨e | m⟩ | _, store⟩ <;> by_cases hi : i = filled.length <;> simp [s, hi]

theorem Books.reads (hb : Books d h a r) (hdistinct : (h.slots.map Slot.queue).Nodup) (n : Nat) :
    ∃ next, Books d h (Audience.read^[n] a) next := by
  induction n with
  | zero => exact ⟨r, hb⟩
  | succ n ih =>
    obtain ⟨next, hnext⟩ := ih
    rw [Function.iterate_succ_apply']
    exact hnext.read hdistinct

/-- Whatever happens to the device besides, as long as nobody else takes anything out of the queues of the streams. -/
theorem Books.run (hb : Books d h a r) (hdistinct : (h.slots.map Slot.queue).Nodup) {later : List Move}
    (hother : ∀ slot ∈ h.slots, Unread slot.queue (later.filterMap Move.device?)) :
    ∃ last, Books d h (a.run later) last := by
  induction later generalizing a r with
  | nil => exact ⟨r, hb⟩
  | cons m rest ih =>
    have hrest (slot : Slot) (hslot : slot ∈ h.slots) : Unread slot.queue (rest.filterMap Move.device?) :=
      fun call hcall => by
        obtain ⟨n, hn, hmove⟩ := List.mem_filterMap.mp hcall
        exact hother slot hslot call (List.mem_filterMap.mpr ⟨n, List.mem_cons_of_mem _ hn, hmove⟩)
    have hstep : ∃ next, Books d h (a.step m) next := by
      cases hm : m.device? with
      | none =>
        obtain ⟨n, hreads⟩ := a.reads_of_step hm
        exact hreads ▸ hb.reads hdistinct n
      | some move =>
        cases m with
        | device => exact ⟨r, hb.device_move fun slot hslot call hcall => hother slot hslot call
            (List.mem_filterMap.mpr ⟨_, List.mem_cons_self, congrArg some hcall⟩)⟩
        | _ => cases hm
    obtain ⟨next, hnext⟩ := hstep
    exact ih hnext hrest

theorem books_of_opening {before : List FrameGraph.Move} {names : List String} {size : Nat} {blocking : Bool}
    (hopen : d.audience before names size blocking = .ok a) (hread : ∀ slot ∈ a.streams.slots, Unread slot.queue before) :
    Books d a.streams a (.start a.streams a.device.store) := by
  obtain ⟨hdevice, hmoves, hsets, -, hslots⟩ := Device.audience_spec hopen
  refine ⟨hdevice, rfl, hsets.symm, .start _ _, by simp [Reading.Even, Reading.start], fun i slot hslot => ?_⟩
  have hin := List.mem_of_getElem? hslot
  have hopening : Unread slot.queue a.moves := by
    intro call hcall
    rw [hmoves] at hcall
    rcases List.mem_append.mp hcall with hcall | hcall
    · exact hread slot hin call hcall
    · obtain ⟨other, -, hcall⟩ := List.mem_flatMap.mp hcall
      simp only [List.mem_cons, FrameGraph.Move.call.injEq, List.not_mem_nil, or_false] at hcall
      rcases hcall with ⟨-, rfl⟩ | ⟨-, rfl⟩ <;> rfl
  rw [Device.got_of_unread hopening]
  simp [Reading.start, HostStreams.parkedAt, hslot, (hslots slot hin).2]

end Audience

/-! ## Sets on their way -/

namespace Device
variable {s : Settings} {g : Graph} {w : Wiring} {d : Device} {moves : List Move}

/-- The k-th message that the host gets from a stream is that of the k-th set, if all outputs of the node are relayed. -/
theorem Relay.delivers (hg : g.Assembled) (hwiring : g.build.2.wiring = .ok w)
    (hstart : (ofSettings s).start g = (.ok (), d)) {index : Nat} {c : Context} {config : StreamSyncConfig}
    (ht : d.threads[index]? = some ⟨c, .entering (.streamSync config)⟩) {first : Synchronizer Message}
    (hfirst : first = .make (StreamSync.streamsOf (c.inputs.map Prod.fst)) config.sync)
    (hrelays : ∀ y ∈ first.names, ∃ r : Relay g w d c.node (StreamSync.outputKey y), r.Undisturbed moves) {x : String}
    (hx : x ∈ first.names) {r : Relay g w d c.node (StreamSync.outputKey x)} (hkept : r.Undisturbed moves) {k : Nat}
    {m : Message} (hm : (d.got .host r.sink moves)[k]? = some m) :
    ∃ set, (StreamSync.matched first ((d.acts index moves).flatMap Act.intake))[k]? = some set ∧ (x, m) ∈ set.entries := by
  have hd := crewed_of_started hg hwiring hstart
  have hplaces (p : Process) (acts : List Act) (hsends : Process.SendsSets first p acts) :
      ∀ e ∈ acts.flatMap Act.sent, ∃ y ∈ first.names, e.place = .port (StreamSync.outputKey y) := by
    intro e he
    rw [hsends.2] at he
    obtain ⟨set, hset, he⟩ := List.mem_flatMap.mp he
    obtain ⟨entry, hentry, rfl⟩ := List.mem_map.mp he
    exact ⟨entry.1, StreamSync.names_of_matched hset ▸ List.mem_map_of_mem hentry, rfl⟩
  have hopen (place : Place) (hplace : ∃ y ∈ first.names, place = .port (StreamSync.outputKey y)) :
      ∀ queue ∈ c.destinations place, d.Steady moves queue := by
    obtain ⟨y, hy, rfl⟩ := hplace
    obtain ⟨other, hother⟩ := hrelays y hy
    obtain ⟨hself, -⟩ := Relay.feeds hd (other.leads hg hwiring hstart) (List.mem_of_getElem? ht) rfl
    intro queue hqueue
    rw [hself, List.mem_singleton] at hqueue
    exact hqueue ▸ hother.source
  have hkeeps := hfirst ▸ Process.keeps_streamSync (c := c) config
  obtain ⟨p, hsends, -, -, hcarried⟩ :=
    Relay.carries hd (r.leads hg hwiring hstart) hkeeps trivial _ hplaces ht rfl hkept hopen
  generalize hsets : StreamSync.matched first ((d.acts index moves).flatMap Act.intake) = sets
  have hpre : d.got .host r.sink moves <+:
      sets.flatMap fun set => messagesAt (.port (StreamSync.outputKey x)) (StreamSync.emissions set) := by
    rw [← messagesAt_flatMap, ← hsets, ← hsends.2, ← hcarried]
    simp only [List.append_assoc]
    exact List.prefix_append _ _
  have hone : ∀ set ∈ sets, ∃ m, (x, m) ∈ set.entries ∧
      messagesAt (.port (StreamSync.outputKey x)) (StreamSync.emissions set) = [m] := by
    intro set hset
    have hnames := StreamSync.names_of_matched (hsets ▸ hset)
    refine StreamSync.one_emission ?_ (hnames ▸ hx)
    rw [hnames, hfirst, Synchronizer.names_make]
    exact nodup_eraseDups _
  obtain ⟨later, hlater⟩ := hpre
  have hk := Reading.getElem?_flatMap_of_single (fun set hset => (hone set hset).imp fun _ => And.right) k
  rw [← hlater, List.getElem?_append_left (List.getElem?_eq_some_iff.mp hm).1, hm] at hk
  obtain ⟨set, hset, hhead⟩ := Option.bind_eq_some_iff.mp hk.symm
  obtain ⟨n, hn, hmessages⟩ := hone set (List.mem_of_getElem? hset)
  rw [hmessages] at hhead
  obtain rfl : n = m := Option.some.inj hhead
  exact ⟨set, hset, hn⟩

theorem audience_slot {before : List Move} {order : List String} {name : String → String} {size : Nat} {blocking : Bool}
    {a : Audience} (hopen : d.audience before (order.map name) size blocking = .ok a) {i : Nat} {slot : Slot}
    (hi : a.streams.slots[i]? = some slot) : ∃ x, order[i]? = some x ∧ d.outputQueue? (name x) = some slot.queue := by
  obtain ⟨-, -, -, hnames, hslots⟩ := audience_spec hopen
  have hname := congrArg (fun names => names[i]?) hnames
  simp only [HostStreams.names, List.getElem?_map, hi, Option.map_some] at hname
  obtain ⟨x, hx, hsame⟩ := Option.map_eq_some_iff.mp hname.symm
  exact ⟨x, hx, hsame ▸ (hslots slot (List.mem_of_getElem? hi)).1⟩

theorem Relay.sink_of_served {u : NodeId} {key name : String} (r : Relay g w d u key) (hstream : r.config.stream = name)
    {queue : QueueId} (hserved : d.outputQueue? name = some queue) : r.sink = queue :=
  Option.some.inj ((hstream ▸ r.served).symm.trans hserved)

theorem Relay.nodup_queues (hd : Crewed w d) {before : List Move} {order : List String} {name : String → String}
    {size : Nat} {blocking : Bool} {a : Audience} (hopen : d.audience before (order.map name) size blocking = .ok a)
    (hnodup : order.Nodup) {u : NodeId}
    (hrelays : ∀ x ∈ order, ∃ r : Relay g w d u (StreamSync.outputKey x), r.config.stream = name x) :
    (a.streams.slots.map Slot.queue).Nodup := by
  refine List.nodup_iff_getElem?_ne_getElem?.mpr fun i j hlt hj hsame => ?_
  rw [List.length_map] at hj
  have hi := List.getElem?_eq_getElem (Nat.lt_trans hlt hj)
  have hj := List.getElem?_eq_getElem hj
  obtain ⟨x, hx, hserved⟩ := audience_slot hopen hi
  obtain ⟨y, hy, hserved'⟩ := audience_slot hopen hj
  obtain ⟨r, hstream⟩ := hrelays x (List.mem_of_getElem? hx)
  obtain ⟨r', hstream'⟩ := hrelays y (List.mem_of_getElem? hy)
  rw [List.getElem?_map, List.getElem?_map, hi, hj, Option.map_some, Option.map_some,
    ← r.sink_of_served hstream hserved, ← r'.sink_of_served hstream' hserved'] at hsame
  obtain rfl := StreamSync.outputKey_inj (Relay.output_eq hd (Option.some.inj hsame))
  exact List.nodup_iff_getElem?_ne_getElem?.mp hnodup i j hlt (List.getElem?_eq_some_iff.mp hy).1 (hx.trans hy.symm)

theorem perm_of_places {name : String → String} {order : List String} {entries sent : List (String × Message)}
    (horder : order.Nodup) (hnames : entries.map Prod.fst = order.map name) (hsent : (sent.map Prod.fst).Perm order)
    (hplaces : ∀ (i : Nat) x m, order[i]? = some x → entries[i]? = some (name x, m) → (x, m) ∈ sent) :
    entries.Perm (sent.map fun e => (name e.1, e.2)) := by
  have hlength : order.length = entries.length := by simpa using (congrArg List.length hnames).symm
  have hfst : (order.zip (entries.map Prod.snd)).map Prod.fst = order := List.map_fst_zip (by simp [hlength])
  have hentries : (order.zip (entries.map Prod.snd)).map (fun e => (name e.1, e.2)) = entries := by
    calc (order.zip (entries.map Prod.snd)).map (fun e => (name e.1, e.2))
        = (order.map name).zip (entries.map Prod.snd) := List.zip_map_left.symm
      _ = (entries.map Prod.fst).zip (entries.map Prod.snd) := by rw [hnames]
      _ = entries := (List.zip_of_prod rfl rfl).symm
  have hsub : order.zip (entries.map Prod.snd) ⊆ sent := by
    intro e he
    obtain ⟨i, hi⟩ := List.mem_iff_getElem?.mp he
    obtain ⟨hx, hm⟩ := List.getElem?_zip_eq_some.mp hi
    refine hplaces i e.1 e.2 hx ?_
    rw [← hentries, List.getElem?_map, hi]
    rfl
  have hnodup : (order.zip (entries.map Prod.snd)).Nodup := List.Nodup.of_map Prod.fst (hfst.symm ▸ horder)
  have hperm : (order.zip (entries.map Prod.snd)).Perm sent := by
    refine (List.subperm_of_subset hnodup hsub).perm_of_length_le ?_
    have hcount : sent.length = order.length := by simpa using hsent.length_eq
    simp [hcount, hlength]
  have hmapped := hperm.map fun e => (name e.1, e.2)
  rwa [hentries] at hmapped

/-- The node sends the streams of its inputs on to the host, and the host opens them together. Every queue after the node
blocks from the start, does not shrink and is not closed, and only the calls for sets take messages out of those of the
streams. Then whatever arrives at the node, and whatever happens between the steps of all of them, the k-th set that the host
gets has exactly the messages of the k-th set of the synchronizer. Without a stream all sets of the host are empty. -/
theorem sets_arrive_aligned (hg : g.Assembled) (hwiring : g.build.2.wiring = .ok w)
    (hstart : (ofSettings s).start g = (.ok (), d)) {index : Nat} {c : Context} {config : StreamSyncConfig}
    (ht : d.threads[index]? = some ⟨c, .entering (.streamSync config)⟩) {order : List String} (name : String → String)
    (horder : order.Perm (StreamSync.streamsOf (c.inputs.map Prod.fst)).eraseDups)
    {before : List Move} {size : Nat} {blocking : Bool} {a : Audience}
    (hopen : d.audience before (order.map name) size blocking = .ok a) (later : List Audience.Move)
    (hrelays : ∀ x ∈ order, ∃ r : Relay g w d c.node (StreamSync.outputKey x), r.config.stream = name x ∧
      r.Undisturbed (a.run later).moves ∧ Unread r.sink before ∧ Unread r.sink (later.filterMap Audience.Move.device?)) :
    let first : Synchronizer Message := .make (StreamSync.streamsOf (c.inputs.map Prod.fst)) config.sync
    let emitted := StreamSync.matched first ((d.acts index (a.run later).moves).flatMap Act.intake)
    (a.run later).device = d.course (a.run later).moves ∧
    ∀ (k : Nat) (set : StreamSet), (a.run later).sets[k]? = some set →
      set.entries.map Prod.fst = order.map name ∧
      (order ≠ [] → ∃ sent, emitted[k]? = some sent ∧ set.entries.Perm (sent.entries.map fun e => (name e.1, e.2))) := by
  intro first emitted
  have hd := crewed_of_started hg hwiring hstart
  obtain ⟨-, -, -, hnames, -⟩ := audience_spec hopen
  have hfirst : first.names.Perm order := by rw [Synchronizer.names_make]; exact horder.symm
  have hnodup : order.Nodup := horder.nodup_iff.mpr (nodup_eraseDups _)
  have hrelayed (y : String) (hy : y ∈ first.names) :
      ∃ r : Relay g w d c.node (StreamSync.outputKey y), r.Undisturbed (a.run later).moves :=
    (hrelays y (hfirst.mem_iff.mp hy)).imp fun _ h => h.2.1
  have hdistinct : (a.streams.slots.map Slot.queue).Nodup :=
    Relay.nodup_queues hd hopen hnodup fun x hx => (hrelays x hx).imp fun _ h => h.1
  have hread (slot : Slot) (hin : slot ∈ a.streams.slots) :
      Unread slot.queue before ∧ Unread slot.queue (later.filterMap Audience.Move.device?) := by
    obtain ⟨i, hi⟩ := List.mem_iff_getElem?.mp hin
    obtain ⟨x, hx, hserved⟩ := audience_slot hopen hi
    obtain ⟨r, hstream, -, hbefore, hlater⟩ := hrelays x (List.mem_of_getElem? hx)
    rw [← r.sink_of_served hstream hserved]
    exact ⟨hbefore, hlater⟩
  obtain ⟨last, hlast⟩ := (Audience.books_of_opening hopen fun slot hin => (hread slot hin).1).run hdistinct
    fun slot hin => (hread slot hin).2
  refine ⟨hlast.device, fun k set hset => ?_⟩
  have hanswer : last.answers[k]? = some set := hlast.answers ▸ hset
  have hentries : set.entries.map Prod.fst = order.map name :=
    (hlast.balanced.names_of_answer hlast.even (List.mem_of_getElem? hanswer)).trans hnames
  have hlength : order.length = last.streams.slots.length := by
    have hopened := congrArg List.length hnames
    have hsame := congrArg List.length hlast.balanced.slots
    simp only [HostStreams.names, HostStreams.unpark, List.length_map] at hopened hsame
    rw [hsame, hopened]
  have hplace {i : Nat} {x : String} {m : Message} (hx : order[i]? = some x) (hm : set.entries[i]? = some (name x, m)) :
      ∃ sent, emitted[k]? = some sent ∧ (x, m) ∈ sent.entries := by
    have hlt := Nat.lt_of_lt_of_eq (List.getElem?_eq_some_iff.mp hx).1 hlength
    obtain ⟨slot, hi⟩ : ∃ slot, last.streams.slots[i]? = some slot := ⟨_, List.getElem?_eq_getElem hlt⟩
    obtain ⟨own, hown, hdequeued⟩ := hlast.balanced.aligned hlast.even hanswer hi
    obtain rfl : own = m := (Prod.mk.inj (Option.some.inj (hown.symm.trans hm))).2
    obtain ⟨opened, hopened, -⟩ := hlast.slot (hlast.streams ▸ hi)
    obtain ⟨y, hy, hserved⟩ := audience_slot hopen hopened
    obtain rfl : x = y := Option.some.inj (hx.symm.trans hy)
    obtain ⟨r, hstream, hkept, -⟩ := hrelays x (List.mem_of_getElem? hx)
    rw [hlast.dequeued i opened hopened, ← r.sink_of_served hstream hserved] at hdequeued
    have hin : x ∈ first.names := hfirst.mem_iff.mpr (List.mem_of_getElem? hx)
    exact Relay.delivers hg hwiring hstart ht rfl hrelayed hin hkept hdequeued
  refine ⟨hentries, fun hsome => ?_⟩
  -- Any one of the streams tells which set it is.
  have hx := List.getElem?_eq_getElem (List.length_pos_of_ne_nil hsome)
  have hlabel := congrArg (fun labels => labels[0]?) hentries
  simp only [List.getElem?_map, hx, Option.map_some] at hlabel
  obtain ⟨⟨label, m⟩, hm, rfl⟩ := Option.map_eq_some_iff.mp hlabel
  obtain ⟨sent, hsent, -⟩ := hplace hx hm
  refine ⟨sent, hsent, perm_of_places hnodup hentries ?_ fun i y n hy hn => ?_⟩
  · rw [StreamSync.names_of_matched (List.mem_of_getElem? hsent)]
    exact hfirst
  · obtain ⟨other, hother, hin⟩ := hplace hy hn
    rw [Option.some.inj (hsent.symm.trans hother)]
    exact hin

/-- Two streams, of which the second one has a message too many, and the first one arrives long before it. -/
theorem sets_arrive_aligned_stalled :
    let g : Graph := ({} : Graph).after [
      .operation (.createNamed "a" (.xlinkIn { stream := "a" })), .operation (.createNamed "b" (.xlinkIn { stream := "b" })),
      .operation (.createNamed "sync" (.streamSync { streams := ["l", "r"], sync := { tolerance := 5 } })),
      .operation (.createNamed "left" (.xlinkOut { stream := "left" })),
      .operation (.createNamed "right" (.xlinkOut { stream := "right" })),
      .operation (.link ⟨0, 0⟩ ⟨2, 0⟩), .operation (.link ⟨1, 0⟩ ⟨2, 1⟩), .operation (.link ⟨2, 2⟩ ⟨3, 0⟩),
      .operation (.link ⟨2, 3⟩ ⟨4, 0⟩)]
    let d := ((ofSettings { queues := { blocking := true } }).start g).2
    let c : Context := {
      node := ⟨2⟩, name := "sync", pollInterval := 5000000
      inputs := [("inputs.l_in", 0), ("inputs.r_in", 1)]
      outputs := [("outputs.l_out", 2), ("outputs.r_out", 3)] }
    let first : Synchronizer Message := .make (StreamSync.streamsOf (c.inputs.map Prod.fst)) { tolerance := 5 }
    let send (queue timestamp : Nat) : Audience.Move := .device (.call queue (.send ⟨timestamp, 0, .buffer []⟩))
    let steps (index count : Nat) := List.replicate count (Audience.Move.device (.thread index))
    let later := [send 4 10, send 4 100, send 5 12, send 5 50, send 5 101] ++ steps 0 8 ++ steps 1 11 ++ [.getSet] ++
      steps 2 14 ++ steps 3 9 ++ [.getSetTimeout] ++ steps 4 5 ++ [.reach 1, .getSet, .reach 2] ++ steps 4 5 ++ [.getSetTimeout]
    let name (x : String) := if x = "l" then "left" else "right"
    ∃ a, d.audience [.thread 2, .thread 2] ["right", "left"] 8 true = .ok a ∧
      (a.run later).sets.map (fun set => set.entries.map fun e => (e.1, e.2.timestamp)) =
        [[("right", 12), ("left", 10)], [("right", 101), ("left", 100)]] ∧
      ∃ set sent, (a.run later).sets[1]? = some set ∧
        (StreamSync.matched first ((d.acts 2 (a.run later).moves).flatMap Act.intake))[1]? = some sent ∧
        set.entries.Perm (sent.entries.map fun e => (name e.1, e.2)) := by
  intro g d c first send steps later name
  have hg : g.Assembled := ⟨_, by simp [Occurrence.isCall], rfl⟩
  have hok : ((ofSettings { queues := { blocking := true } }).start g).1 = .ok () := by decide +kernel
  have hstart : (ofSettings { queues := { blocking := true } }).start g = (.ok (), d) := by rw [← hok]
  obtain ⟨plan, w, next, launch, -, hwiring, -⟩ := started hstart
  let config : StreamSyncConfig := { streams := ["l", "r"], sync := { tolerance := 5 } }
  let posts : List (Context × NodeConfig) := [
    ({ node := ⟨0⟩, name := "a", pollInterval := 5000000, outputs := [("out", 0)], host := some 4 },
      .xlinkIn { stream := "a" }),
    ({ node := ⟨1⟩, name := "b", pollInterval := 5000000, outputs := [("out", 1)], host := some 5 },
      .xlinkIn { stream := "b" }),
    (c, .streamSync config),
    ({ node := ⟨3⟩, name := "left", pollInterval := 5000000, inputs := [("in", 2)], host := some 6 },
      .xlinkOut { stream := "left" }),
    ({ node := ⟨4⟩, name := "right", pollInterval := 5000000, inputs := [("in", 3)], host := some 7 },
      .xlinkOut { stream := "right" })]
  have hposts : d.threads.map Thread.post? = posts.map some := by decide +kernel
  have hsync : d.threads[2]? = some ⟨c, .entering (.streamSync config)⟩ := thread_of_posts hposts 2 _ rfl
  have hsorted : StreamSync.streamsOf (c.inputs.map Prod.fst) = ["l", "r"] := by
    have hnames : (c.inputs.map Prod.fst).filterMap StreamSync.streamOfKey? = ["l", "r"] := by decide +kernel
    rw [StreamSync.streamsOf, hnames]
    exact List.mergeSort_of_pairwise (by decide +kernel)
  -- Sorting does not compute, so the node is put to work with its streams in order.
  let p : Process := {
    context := c, work := .streamSync { streams := [⟨"l", []⟩, ⟨"r", []⟩], config := { tolerance := 5 } }
    agenda := [.look (.port "inputs.l_in") 0 false, .look (.port "inputs.r_in") 1 false] }
  have hwork : Process.start (.streamSync config) c d.now = .ok p := by
    simp only [Process.start, Body.begin, Agenda.streamSync, hsorted]
    rfl
  let e : Device := { (d.advanceState ⟨2⟩ .running).publish (.started ⟨2⟩ "sync") with
    threads := d.threads.set 2 ⟨c, .working p⟩ }
  have hbegin : d.course [.thread 2, .thread 2] = e := by
    rw [course_begin hsync, hwork]
    rfl
  let slots : List Slot := [⟨"right", 7, none⟩, ⟨"left", 6, none⟩]
  let a : Audience := { device := (e.openStreams ["right", "left"] 8 true).2, streams := ⟨slots⟩
                        moves := [.thread 2, .thread 2] ++ HostStreams.openings slots 8 true }
  have hopen : d.audience [.thread 2, .thread 2] ["right", "left"] 8 true = .ok a := by
    have hopened : (e.openStreams ["right", "left"] 8 true).1 = .ok ⟨slots⟩ := by decide +kernel
    have hpair : e.openStreams ["right", "left"] 8 true = (.ok ⟨slots⟩, (e.openStreams ["right", "left"] 8 true).2) := by
      rw [← hopened]
    rw [audience, hbegin, hpair]
  have hserved : d.outputQueue? "left" = some 6 ∧ d.outputQueue? "right" = some 7 := by decide +kernel
  have hsole : g.SoleLink ⟨2⟩ (StreamSync.outputKey "l") ⟨3⟩ "in" ⟨⟨2⟩, ⟨2, 2⟩, ⟨3, 0⟩⟩ ∧
      g.SoleLink ⟨2⟩ (StreamSync.outputKey "r") ⟨4⟩ "in" ⟨⟨3⟩, ⟨2, 3⟩, ⟨4, 0⟩⟩ := by decide +kernel
  have hsets : (a.run later).sets.map (fun set => set.entries.map fun e => (e.1, e.2.timestamp)) =
      [[("right", 12), ("left", 10)], [("right", 101), ("left", 100)]] := by decide +kernel
  have hmoves : (a.run later).moves = [.thread 2, .thread 2] ++ (a.run later).moves.drop 2 := by decide +kernel
  have hsent : ∀ id ∈ [2, 3, 6, 7], Unsent id (a.run later).moves := by decide +kernel
  have hunread : ∀ id ∈ [2, 3], Unread id (a.run later).moves := by decide +kernel
  have hothers : ∀ id ∈ [6, 7], Unread id [.thread 2, .thread 2] ∧ Unread id (later.filterMap Audience.Move.device?) := by
    decide +kernel
  have hfront : throughout (fixed [2, 3, 6, 7] 8) d [.thread 2, .thread 2] = true := by decide +kernel
  have hrest : throughout (fixed [2, 3, 6, 7] 8) e ((a.run later).moves.drop 2) = true := by decide +kernel
  have hfixed : throughout (fixed [2, 3, 6, 7] 8) d (a.run later).moves = true := by
    rw [hmoves, throughout_append, hbegin, hfront, hrest]
    rfl
  have hsteady (id : QueueId) (hid : id ∈ [2, 3, 6, 7]) : d.Steady (a.run later).moves id := .of_fixed hfixed hid
  have hnames : ["r", "l"].map name = ["right", "left"] := by decide +kernel
  -- From here on it is enough to know that much of the course.
  clear_value a e later d g
  have hd := crewed_of_started hg hwiring hstart
  let left : Relay g w d c.node (StreamSync.outputKey "l") :=
    ⟨3, _, _, _, 6, thread_of_posts hposts 3 _ rfl, rfl, hsole.1, hserved.1⟩
  let right : Relay g w d c.node (StreamSync.outputKey "r") :=
    ⟨4, _, _, _, 7, thread_of_posts hposts 4 _ rfl, rfl, hsole.2, hserved.2⟩
  have hleft : left.source = 2 := (Option.some.inj (Relay.input hd (left.leads hg hwiring hstart))).symm
  have hright : right.source = 3 := (Option.some.inj (Relay.input hd (right.leads hg hwiring hstart))).symm
  have hkept : left.Undisturbed (a.run later).moves := by
    refine ⟨?_, hsteady 6 (by decide), ?_, ?_, hsent 6 (by decide)⟩ <;> rw [hleft]
    exacts [hsteady 2 (by decide), hsent 2 (by decide), hunread 2 (by decide)]
  have hkept' : right.Undisturbed (a.run later).moves := by
    refine ⟨?_, hsteady 7 (by decide), ?_, ?_, hsent 7 (by decide)⟩ <;> rw [hright]
    exacts [hsteady 3 (by decide), hsent 3 (by decide), hunread 3 (by decide)]
  have hrelays : ∀ x ∈ ["r", "l"], ∃ r : Relay g w d c.node (StreamSync.outputKey x), r.config.stream = name x ∧
      r.Undisturbed (a.run later).moves ∧ Unread r.sink [.thread 2, .thread 2] ∧
      Unread r.sink (later.filterMap Audience.Move.device?) :=
    List.forall_mem_cons.mpr ⟨⟨right, rfl, hkept', hothers 7 (by decide)⟩,
      List.forall_mem_singleton.mpr ⟨left, rfl, hkept, hothers 6 (by decide)⟩⟩
  have horder : ["r", "l"].Perm (StreamSync.streamsOf (c.inputs.map Prod.fst)).eraseDups := by
    rw [hsorted]
    decide
  obtain ⟨-, haligned⟩ :=
    sets_arrive_aligned hg hwiring hstart hsync name horder (hnames ▸ hopen) later hrelays
  have hlength : (a.run later).sets.length = 2 := by simpa using congrArg List.length hsets
  obtain ⟨set, hset⟩ : ∃ set, (a.run later).sets[1]? = some set :=
    ⟨_, List.getElem?_eq_getElem (Nat.lt_of_lt_of_eq Nat.one_lt_two hlength.symm)⟩
  obtain ⟨sent, hmatched, hperm⟩ := (haligned 1 set hset).2 (List.cons_ne_nil _ _)
  exact ⟨a, hopen, hsets, set, sent, hset, hmatched, hperm⟩

end Device

end FrameGraph
