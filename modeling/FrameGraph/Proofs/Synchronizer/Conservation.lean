import FrameGraph.Proofs.Synchronizer.Push
import Mathlib.Algebra.BigOperators.Group.Finset.Basic
import Mathlib.Algebra.BigOperators.Group.List.Lemmas
import Mathlib.Algebra.GroupWithZero.Nat

/-!
# Where items go

An item that a stream has taken in leaves its buffer in one of three ways: it is emitted in a set, it is
discarded as stale, or it is dropped because the buffer is full. A ledger kept beside the synchronizer
writes down what was taken in and what has left.

* `Accounts`: the buffers, the answers and the counts agree with the ledger.
* `Accounts.receive`, `Accounts.emit`: the two halves of a push keep this.
* `Accounts.history`: so does every sequence of requests.
* `Synchronizer.sent_sublist`: what is emitted of a stream came in there, in this order.
-/

namespace FrameGraph
set_option autoImplicit false
variable {α : Type}

/-! ## The ledger -/

inductive Fate where
  | emitted
  | stale
  | dropped
deriving DecidableEq

structure Departure (α : Type) where
  stream : String
  item : α
  fate : Fate

inductive Synchronizer.Request (α : Type) where
  | push (stream : String) (item : α)
  | reset

/-- What has happened since the last reset. -/
structure Ledger (α : Type) where
  accepted : List (String × α) := []
  departures : List (Departure α) := []
  sets : List (SyncedSet α) := []

namespace Ledger

/-- What has left the buffer of one stream, in the order in which it left. -/
def departed (l : Ledger α) (stream : String) : List (Departure α) :=
  l.departures.filter fun d => d.stream == stream

def emitted (l : Ledger α) (stream : String) : List α :=
  ((l.departed stream).filter fun d => d.fate = .emitted).map Departure.item

end Ledger

/-- What a buffer loses when it takes in an item. -/
def Stream.lost (bound : Nat) (item : α) (s : Stream α) : List α :=
  if bound < (s.entries ++ [item]).length then (s.entries ++ [item]).take 1 else []

def Cut.departures (c : Cut α) : List (Departure α) :=
  c.stale.map (fun x => ⟨c.stream, x, .stale⟩) ++ [⟨c.stream, c.item, .emitted⟩]

namespace Synchronizer

def overflow (s : Synchronizer α) (stream : String) (item : α) : List (Departure α) :=
  match s.streams.find? fun b => b.name == stream with
  | none => []
  | some b => (b.lost s.config.maxBacklog item).map fun x => ⟨stream, x, .dropped⟩

variable [Timestamped α]

/-- What leaves the buffers when an item is pushed. -/
def departures (s : Synchronizer α) (stream : String) (item : α) : List (Departure α) :=
  s.overflow stream item ++
    match splitAll (s.near (Timestamped.timestamp item)) (s.receive stream item).streams with
    | none => []
    | some cuts => cuts.flatMap Cut.departures

def serve (s : Synchronizer α) : Request α → Synchronizer α
  | .push stream item => (s.push stream item).2
  | .reset => s.reset

end Synchronizer

/-- The entry for a request to a synchronizer. What an untracked stream is sent is not taken in. -/
def Ledger.record [Timestamped α] (l : Ledger α) (s : Synchronizer α) : Synchronizer.Request α → Ledger α
  | .reset => {}
  | .push stream item => match (s.push stream item).1 with
    | .untracked _ => l
    | answer =>
      { accepted := l.accepted ++ [(stream, item)]
        departures := l.departures ++ s.departures stream item
        sets := l.sets ++ answer.set?.toList }

/-- A new synchronizer after some requests, with its ledger. -/
def Synchronizer.history [Timestamped α] (names : List String) (config : SyncConfig)
    (requests : List (Synchronizer.Request α)) : Synchronizer α × Ledger α :=
  requests.foldl (fun (s, l) r => (s.serve r, l.record s r)) (Synchronizer.make names config, {})

/-! ## Departures of one stream -/

theorem Stream.lost_append_receive (bound : Nat) (item : α) (s : Stream α) :
    s.lost bound item ++ (s.receive bound item).entries = s.entries ++ [item] := by
  have hjoin : (s.entries ++ [item]).take 1 ++ (s.entries ++ [item]).tail = s.entries ++ [item] := by
    rw [← List.drop_one, List.take_append_drop]
  by_cases h : bound < (s.entries ++ [item]).length
  · simp only [lost, receive, if_pos h, hjoin]
  · simp only [lost, receive, if_neg h, List.nil_append]

theorem Stream.length_lost (bound : Nat) (item : α) (s : Stream α) :
    (s.lost bound item).length = if s.overflows bound then 1 else 0 := by
  simp only [lost, overflows, List.length_append, List.length_singleton, decide_eq_true_eq]
  split <;> simp

@[simp] theorem Stream.name_receive (bound : Nat) (item : α) (s : Stream α) :
    (s.receive bound item).name = s.name := rfl

@[simp] theorem Cut.name_remaining (c : Cut α) : c.remaining.name = c.stream := rfl

theorem Cut.map_item_departures (c : Cut α) :
    c.departures.map Departure.item = c.stale ++ [c.item] := by
  simp [departures, Function.comp_def]

theorem Cut.filter_emitted_departures (c : Cut α) :
    c.departures.filter (fun d => d.fate = .emitted) = [⟨c.stream, c.item, .emitted⟩] := by
  simp [departures, List.filter_map, Function.comp_def]

theorem Cut.count_departures (cuts : List (Cut α)) :
    (cuts.flatMap Cut.departures).countP (fun d => d.fate = .stale) = (cuts.flatMap Cut.stale).length ∧
      (cuts.flatMap Cut.departures).countP (fun d => d.fate = .dropped) = 0 := by
  induction cuts with
  | nil => exact ⟨rfl, rfl⟩
  | cons c rest ih =>
    simp only [List.flatMap_cons, List.countP_append, List.length_append, ih]
    simp [departures, Function.comp_def]

theorem Cut.stream_of_mem {c : Cut α} {d : Departure α} (h : d ∈ c.departures) : d.stream = c.stream := by
  simp only [departures, List.mem_append, List.mem_map, List.mem_singleton] at h
  rcases h with ⟨x, _, rfl⟩ | rfl <;> rfl

/-- Of all cuts only its own one takes anything from a stream. -/
theorem Cut.filter_stream_departures {cuts : List (Cut α)} (hnodup : (cuts.map Cut.stream).Nodup) {c : Cut α}
    (hc : c ∈ cuts) :
    (cuts.flatMap Cut.departures).filter (fun d => d.stream == c.stream) = c.departures := by
  induction cuts with
  | nil => cases hc
  | cons first rest ih =>
    rw [List.map_cons, List.nodup_cons] at hnodup
    rw [List.flatMap_cons, List.filter_append]
    rcases List.mem_cons.mp hc with rfl | hc
    · have hown : c.departures.filter (fun d => d.stream == c.stream) = c.departures := by
        rw [List.filter_eq_self]
        intro d hd
        simp [Cut.stream_of_mem hd]
      have hothers : (rest.flatMap Cut.departures).filter (fun d => d.stream == c.stream) = [] := by
        rw [List.filter_eq_nil_iff]
        intro d hd hsame
        obtain ⟨other, hother, hd⟩ := List.mem_flatMap.mp hd
        rw [Cut.stream_of_mem hd, beq_iff_eq] at hsame
        exact hnodup.1 (hsame ▸ List.mem_map_of_mem hother)
      rw [hown, hothers, List.append_nil]
    · have hfirst : first.departures.filter (fun d => d.stream == c.stream) = [] := by
        rw [List.filter_eq_nil_iff]
        intro d hd hsame
        rw [Cut.stream_of_mem hd, beq_iff_eq] at hsame
        exact hnodup.1 (hsame ▸ List.mem_map_of_mem hc)
      rw [hfirst, List.nil_append, ih hnodup.2 hc]

theorem SyncedSet.get?_of_mem {cuts : List (Cut α)} (hnodup : (cuts.map Cut.stream).Nodup) {c : Cut α}
    (hc : c ∈ cuts) : (⟨cuts.map Cut.entry⟩ : SyncedSet α).get? c.stream = some c.item := by
  have hsome : ((cuts.find? fun other => other.stream == c.stream)).isSome :=
    List.find?_isSome.mpr ⟨c, hc, beq_self_eq_true _⟩
  obtain ⟨other, hother⟩ := Option.isSome_iff_exists.mp hsome
  obtain rfl : other = c := List.inj_on_of_nodup_map hnodup (List.mem_of_find?_eq_some hother) hc
    (by simpa using List.find?_some hother)
  simp [SyncedSet.get?, Function.comp_def, Cut.entry, hother]

/-! ## The invariant -/

/-- The synchronizer and its ledger tell the same. -/
structure Accounts (s : Synchronizer α) (l : Ledger α) : Prop where
  nodup : s.names.Nodup
  buffers : ∀ b ∈ s.streams,
    arrivals b.name l.accepted = (l.departed b.name).map Departure.item ++ b.entries
  emitted : ∀ b ∈ s.streams,
    (l.emitted b.name).map some = l.sets.map fun set => set.get? b.name
  sets : ∀ set ∈ l.sets, set.entries.map Prod.fst = s.names
  accepted_tracked : ∀ p ∈ l.accepted, p.1 ∈ s.names
  departed_tracked : ∀ d ∈ l.departures, d.stream ∈ s.names
  stats : s.stats =
    { received := l.accepted.length
      emittedSets := l.sets.length
      discardedStale := l.departures.countP fun d => d.fate = .stale
      overflowDrops := l.departures.countP fun d => d.fate = .dropped }

theorem Accounts.make (names : List String) (config : SyncConfig) :
    Accounts (Synchronizer.make names config : Synchronizer α) {} := by
  refine ⟨?_, ?_, ?_, by simp, by simp, by simp, rfl⟩
  · rw [Synchronizer.names_make]
    exact nodup_eraseDups names
  · intro b hb
    obtain ⟨n, -, rfl⟩ := List.mem_map.mp hb
    rfl
  · intro b hb
    rfl

theorem Accounts.reset {s : Synchronizer α} {l : Ledger α} (h : Accounts s l) : Accounts s.reset {} := by
  refine ⟨by simpa using h.nodup, ?_, ?_, by simp, by simp, by simp, rfl⟩
  · intro b hb
    obtain ⟨n, -, rfl⟩ := List.mem_map.mp hb
    rfl
  · intro b hb
    rfl

theorem Accounts.eq_of_name {s : Synchronizer α} {l : Ledger α} (h : Accounts s l) {a b : Stream α}
    (ha : a ∈ s.streams) (hb : b ∈ s.streams) (hname : a.name = b.name) : a = b :=
  List.inj_on_of_nodup_map h.nodup ha hb hname

theorem Accounts.overflow_eq {s : Synchronizer α} {l : Ledger α} (h : Accounts s l) {b : Stream α}
    (hb : b ∈ s.streams) (item : α) :
    s.overflow b.name item =
      (b.lost s.config.maxBacklog item).map fun x => ⟨b.name, x, .dropped⟩ := by
  obtain ⟨found, hfound, hname, hfind⟩ := Synchronizer.find?_of_mem_names (List.mem_map_of_mem hb)
  obtain rfl := h.eq_of_name hfound hb hname
  rw [Synchronizer.overflow, hfind]

theorem Synchronizer.any_overflows {s : Synchronizer α} (hnodup : s.names.Nodup) {b : Stream α} (hb : b ∈ s.streams)
    (bound : Nat) : (s.streams.any fun c => c.name == b.name && c.overflows bound) = b.overflows bound := by
  rw [Bool.eq_iff_iff, List.any_eq_true]
  constructor
  · rintro ⟨c, hc, hover⟩
    rw [Bool.and_eq_true, beq_iff_eq] at hover
    rw [← List.inj_on_of_nodup_map hnodup hc hb hover.1]
    exact hover.2
  · intro hover
    exact ⟨b, hb, by simp [hover]⟩

theorem Accounts.overflow_count {s : Synchronizer α} {l : Ledger α} (h : Accounts s l) {b : Stream α}
    (hb : b ∈ s.streams) (item : α) :
    (s.overflow b.name item).countP (fun d => d.fate = .dropped) =
      if s.streams.any fun c => c.name == b.name && c.overflows s.config.maxBacklog then 1 else 0 := by
  rw [s.any_overflows h.nodup hb, h.overflow_eq hb, List.countP_map, ← b.length_lost s.config.maxBacklog item]
  simp [Function.comp_def]

/-- Taking in an item: what overflows is dropped from the front. -/
theorem Accounts.receive {s : Synchronizer α} {l : Ledger α} (h : Accounts s l) {stream : String}
    (hstream : stream ∈ s.names) (item : α) :
    Accounts (s.receive stream item)
      { l with
        accepted := l.accepted ++ [(stream, item)]
        departures := l.departures ++ s.overflow stream item } := by
  obtain ⟨own, hown, rfl⟩ := List.mem_map.mp hstream
  have hoverflow := h.overflow_eq hown item
  refine ⟨by simpa using h.nodup, ?_, ?_, by simpa using h.sets, ?_, ?_, ?_⟩
  · intro b' hb'
    obtain ⟨b, hb, rfl⟩ := List.mem_map.mp hb'
    have hold := h.buffers b hb
    by_cases hname : b.name = own.name
    · obtain rfl := h.eq_of_name hb hown hname
      have hsplit := b.lost_append_receive s.config.maxBacklog item
      rw [if_pos rfl, Stream.name_receive, arrivals_concat, if_pos rfl, hold]
      simp [Ledger.departed, hoverflow, Function.comp_def, List.filter_map, hsplit]
    · rw [if_neg hname, arrivals_concat, if_neg (Ne.symm hname), hold]
      simp [Ledger.departed, hoverflow, Ne.symm hname]
  · intro b' hb'
    obtain ⟨b, hb, rfl⟩ := List.mem_map.mp hb'
    have hold := h.emitted b hb
    by_cases hname : b.name = own.name
    all_goals
      simpa [hname, Ledger.emitted, Ledger.departed, hoverflow, List.filter_map, Function.comp_def] using hold
  · intro p hp
    rw [Synchronizer.names_receive]
    rcases List.mem_append.mp hp with hp | hp
    · exact h.accepted_tracked p hp
    · rw [List.mem_singleton.mp hp]
      exact hstream
  · intro d hd
    rw [Synchronizer.names_receive]
    rcases List.mem_append.mp hd with hd | hd
    · exact h.departed_tracked d hd
    · rw [hoverflow] at hd
      obtain ⟨x, -, rfl⟩ := List.mem_map.mp hd
      exact hstream
  · have hstale : (s.overflow own.name item).countP (fun d => d.fate = .stale) = 0 := by
      simp [hoverflow]
    simp only [Synchronizer.receive, h.stats, List.countP_append, hstale, h.overflow_count hown item,
      List.length_append, List.length_singleton, Nat.add_zero]

/-- Emitting a set: each stream loses the item of the set and what stands before it. -/
theorem Accounts.emit {s : Synchronizer α} {l : Ledger α} (h : Accounts s l) {near : α → Bool}
    {cuts : List (Cut α)} (hcuts : splitAll near s.streams = some cuts) :
    Accounts (s.emit cuts)
      { l with
        departures := l.departures ++ cuts.flatMap Cut.departures
        sets := l.sets ++ [⟨cuts.map Cut.entry⟩] } := by
  have hstreams := map_stream_of_splitAll hcuts
  have hnames := Synchronizer.names_emit hcuts
  have hnodup : (cuts.map Cut.stream).Nodup := by
    rw [hstreams]
    exact h.nodup
  refine ⟨by rw [hnames]; exact h.nodup, ?_, ?_, ?_, ?_, ?_, ?_⟩
  · intro b' hb'
    obtain ⟨c, hc, rfl⟩ := List.mem_map.mp hb'
    obtain ⟨b, hb, hsplit⟩ := exists_of_mem_cuts hcuts hc
    obtain ⟨hname, hentries, -, -⟩ := Stream.split_eq_some_iff.mp hsplit
    have hold := h.buffers b hb
    rw [← hname, hentries] at hold
    rw [Cut.name_remaining, hold, Ledger.departed, Ledger.departed, List.filter_append,
      Cut.filter_stream_departures hnodup hc, List.map_append, Cut.map_item_departures]
    simp [Cut.remaining]
  · intro b' hb'
    obtain ⟨c, hc, rfl⟩ := List.mem_map.mp hb'
    obtain ⟨b, hb, hsplit⟩ := exists_of_mem_cuts hcuts hc
    have hold := h.emitted b hb
    rw [← (Stream.split_eq_some_iff.mp hsplit).1] at hold
    have hget := SyncedSet.get?_of_mem hnodup hc
    rw [Cut.name_remaining, Ledger.emitted, Ledger.departed, List.filter_append,
      Cut.filter_stream_departures hnodup hc, List.filter_append, Cut.filter_emitted_departures]
    simpa [Ledger.emitted, Ledger.departed, hget] using hold
  · intro set hset
    rw [hnames]
    rcases List.mem_append.mp hset with hset | hset
    · exact h.sets set hset
    · rw [List.mem_singleton.mp hset, List.map_map, Synchronizer.names, ← hstreams]
      rfl
  · rw [hnames]
    exact h.accepted_tracked
  · intro d hd
    rw [hnames]
    rcases List.mem_append.mp hd with hd | hd
    · exact h.departed_tracked d hd
    · obtain ⟨c, hc, hd⟩ := List.mem_flatMap.mp hd
      rw [Cut.stream_of_mem hd, Synchronizer.names, ← hstreams]
      exact List.mem_map_of_mem hc
  · simp only [Synchronizer.emit, h.stats, List.countP_append, Cut.count_departures,
      List.length_append, List.length_singleton, Nat.add_zero]

/-! ## Totals -/

theorem sum_length_filter {β : Type} (key : β → String) {names : List String} (hnodup : names.Nodup)
    {xs : List β} (h : ∀ x ∈ xs, key x ∈ names) :
    (names.map fun n => (xs.filter fun x => key x == n).length).sum = xs.length := by
  have hcount : ∀ n, (xs.filter fun x => key x == n).length = (↑(xs.map key) : Multiset String).count n := by
    intro n
    rw [Multiset.coe_count, List.count, List.countP_map, List.countP_eq_length_filter]
    rfl
  simp only [hcount]
  rw [← List.sum_toFinset _ hnodup, Multiset.sum_count_eq_card, Multiset.coe_card, List.length_map]
  intro n hn
  obtain ⟨x, hx, rfl⟩ := List.mem_map.mp (Multiset.mem_coe.mp hn)
  exact List.mem_toFinset.mpr (h x hx)

theorem Departure.length_eq_sum_fates (ds : List (Departure α)) :
    ds.length = ds.countP (fun d => d.fate = .emitted) + ds.countP (fun d => d.fate = .stale) +
      ds.countP (fun d => d.fate = .dropped) := by
  induction ds with
  | nil => rfl
  | cons d rest ih =>
    obtain ⟨stream, item, fate⟩ := d
    rw [List.length_cons, List.countP_cons, List.countP_cons, List.countP_cons, ih]
    cases fate <;> simp <;> omega

theorem Accounts.accepted_length {s : Synchronizer α} {l : Ledger α} (h : Accounts s l) :
    l.accepted.length = l.departures.length + (s.streams.map fun b => b.entries.length).sum := by
  rw [← sum_length_filter Prod.fst h.nodup h.accepted_tracked,
    ← sum_length_filter Departure.stream h.nodup h.departed_tracked, Synchronizer.names, List.map_map,
    List.map_map, ← List.sum_map_add]
  congr 1
  apply List.map_congr_left
  intro b hb
  have hb := congrArg List.length (h.buffers b hb)
  simpa [arrivals, Ledger.departed] using hb

theorem Accounts.emitted_count {s : Synchronizer α} {l : Ledger α} (h : Accounts s l) :
    l.departures.countP (fun d => d.fate = .emitted) = l.sets.length * s.streams.length := by
  have htracked : ∀ d ∈ l.departures.filter (fun d => d.fate = .emitted), d.stream ∈ s.names := by
    intro d hd
    exact h.departed_tracked d (List.mem_of_mem_filter hd)
  have heach : ∀ n ∈ s.names, ((l.departures.filter fun d => d.fate = .emitted).filter
      fun d => d.stream == n).length = l.sets.length := by
    intro n hn
    obtain ⟨b, hb, rfl⟩ := List.mem_map.mp hn
    have hlen := congrArg List.length (h.emitted b hb)
    simp only [Ledger.emitted, Ledger.departed, List.length_map] at hlen
    rw [List.filter_comm, hlen]
  rw [List.countP_eq_length_filter, ← sum_length_filter Departure.stream h.nodup htracked,
    List.map_congr_left heach, List.map_const', List.sum_replicate_nat, Nat.mul_comm,
    Synchronizer.names, List.length_map]

theorem Accounts.received_eq {s : Synchronizer α} {l : Ledger α} (h : Accounts s l) :
    s.stats.received = s.stats.emittedSets * s.streams.length + s.stats.discardedStale +
      s.stats.overflowDrops + (s.streams.map fun b => b.entries.length).sum := by
  rw [h.stats, h.accepted_length, Departure.length_eq_sum_fates, h.emitted_count]

section Run
variable [Timestamped α]

theorem Accounts.serve {s : Synchronizer α} {l : Ledger α} (h : Accounts s l) (r : Synchronizer.Request α) :
    Accounts (s.serve r) (l.record s r) := by
  cases r with
  | reset => exact h.reset
  | push stream item =>
    rw [Synchronizer.serve, Ledger.record]
    by_cases hstream : stream ∈ s.names
    · have hreceive := h.receive hstream item
      rcases Synchronizer.push_cases hstream item with ⟨hcuts, hpush⟩ | ⟨cuts, hcuts, hpush⟩
      · simpa [hpush, Arrival.set?, Synchronizer.departures, hcuts] using hreceive
      · simpa [hpush, Arrival.set?, Synchronizer.departures, hcuts] using hreceive.emit hcuts
    · rw [Synchronizer.push_untracked hstream]
      exact h

theorem Accounts.history (names : List String) (config : SyncConfig)
    (requests : List (Synchronizer.Request α)) :
    Accounts (Synchronizer.history names config requests).1
      (Synchronizer.history names config requests).2 := by
  unfold Synchronizer.history
  induction requests using List.reverseRecOn with
  | nil => exact Accounts.make names config
  | append_singleton requests r ih =>
    rw [List.foldl_append]
    exact ih.serve r

theorem Synchronizer.names_history (names : List String) (config : SyncConfig)
    (requests : List (Synchronizer.Request α)) :
    (Synchronizer.history names config requests).1.names = names.eraseDups := by
  unfold Synchronizer.history
  induction requests using List.reverseRecOn with
  | nil => exact Synchronizer.names_make names config
  | append_singleton requests r ih =>
    rw [List.foldl_append, ← ih]
    cases r with
    | push stream item => exact Synchronizer.names_push _ stream item
    | reset => exact Synchronizer.names_reset _

theorem Synchronizer.config_history (names : List String) (config : SyncConfig)
    (requests : List (Synchronizer.Request α)) :
    (Synchronizer.history names config requests).1.config = config := by
  unfold Synchronizer.history
  induction requests using List.reverseRecOn with
  | nil => rfl
  | append_singleton requests r ih =>
    rw [List.foldl_append]
    refine Eq.trans ?_ ih
    cases r with
    | push stream item => exact Synchronizer.config_push _ stream item
    | reset => rfl

/-- Since the last reset, the items that a stream has taken in are those that have left its buffer, each
with one fate, and then those in the buffer. The emitted ones are in the sets, one in each; the counts are
the numbers of items with each fate. What an untracked stream is sent comes back and changes nothing. -/
theorem Synchronizer.every_item_accounted (names : List String) (config : SyncConfig)
    (requests : List (Synchronizer.Request α)) :
    let s := (Synchronizer.history names config requests).1
    let l := (Synchronizer.history names config requests).2
    s.names = names.eraseDups ∧
    (∀ stream, stream ∉ names → ∀ item, s.push stream item = (.untracked item, s)) ∧
    (∀ b ∈ s.streams,
      arrivals b.name l.accepted = (l.departed b.name).map Departure.item ++ b.entries ∧
      b.entries <:+ arrivals b.name l.accepted ∧
      (l.emitted b.name).Sublist (arrivals b.name l.accepted) ∧
      (l.emitted b.name).map some = l.sets.map fun set => set.get? b.name) ∧
    (∀ set ∈ l.sets, set.entries.map Prod.fst = s.names) ∧
    s.stats =
      { received := l.accepted.length
        emittedSets := l.sets.length
        discardedStale := l.departures.countP fun d => d.fate = .stale
        overflowDrops := l.departures.countP fun d => d.fate = .dropped } ∧
    s.stats.received = s.stats.emittedSets * s.streams.length + s.stats.discardedStale +
      s.stats.overflowDrops + (s.streams.map fun b => b.entries.length).sum := by
  intro s l
  have h : Accounts s l := Accounts.history names config requests
  have hnames : s.names = names.eraseDups := Synchronizer.names_history names config requests
  refine ⟨hnames, ?_, ?_, h.sets, h.stats, h.received_eq⟩
  · intro stream hstream item
    refine Synchronizer.push_untracked ?_ item
    rwa [hnames, List.mem_eraseDups]
  · intro b hb
    have hbuffer := h.buffers b hb
    refine ⟨hbuffer, ⟨_, hbuffer.symm⟩, ?_, h.emitted b hb⟩
    rw [hbuffer]
    exact (List.filter_sublist.map _).trans (List.sublist_append_left _ _)

/-- Pushes to streams that are all tracked, as a history. -/
theorem Synchronizer.history_pushes {names : List String} (config : SyncConfig) {pushes : List (String × α)}
    (htracked : ∀ p ∈ pushes, p.1 ∈ names) :
    let start : Synchronizer α := .make names config
    let past := Synchronizer.history names config (pushes.map fun p => .push p.1 p.2)
    past.1 = (start.pushAll pushes).2 ∧ past.2.accepted = pushes ∧
      past.2.sets = (start.pushAll pushes).1.filterMap Arrival.set? := by
  intro start
  induction pushes using List.reverseRecOn with
  | nil => exact ⟨rfl, rfl, rfl⟩
  | append_singleton pushes p ih =>
    obtain ⟨hstate, haccepted, hsets⟩ := ih fun q hq => htracked q (List.mem_append_left _ hq)
    have hp : p.1 ∈ (start.pushAll pushes).2.names := by
      rw [← hstate, Synchronizer.names_history, List.mem_eraseDups]
      exact htracked p (by simp)
    have hlast : Synchronizer.history names config ((pushes ++ [p]).map fun p => .push p.1 p.2) =
        ((start.pushAll pushes).2.serve (.push p.1 p.2),
          Ledger.record (Synchronizer.history names config (pushes.map fun p => .push p.1 p.2)).2
            (start.pushAll pushes).2 (.push p.1 p.2)) := by
      rw [← hstate, Synchronizer.history, List.map_append, List.foldl_append]
      rfl
    rw [Synchronizer.pushAll_concat, hlast]
    rcases Synchronizer.push_cases hp p.2 with ⟨-, hpush⟩ | ⟨cuts, -, hpush⟩ <;>
      simp [Synchronizer.serve, Ledger.record, hpush, haccepted, hsets, Arrival.set?]

/-- What tracked streams have sent in sets came in by the pushes to them, in the same order. -/
theorem Synchronizer.sent_sublist {names : List String} (config : SyncConfig) {pushes : List (String × α)}
    (htracked : ∀ p ∈ pushes, p.1 ∈ names) {stream : String} (hstream : stream ∈ names) :
    ∃ items : List α, items.Sublist (arrivals stream pushes) ∧
      items.map some = (((Synchronizer.make names config).pushAll pushes).1.filterMap Arrival.set?).map
        fun set => set.get? stream := by
  obtain ⟨-, haccepted, hsets⟩ := Synchronizer.history_pushes config htracked
  have h := Accounts.history names config (pushes.map fun p => .push p.1 p.2)
  have hnames := Synchronizer.names_history names config (pushes.map fun p => .push p.1 p.2)
  obtain ⟨b, hb, rfl⟩ : ∃ b ∈ (Synchronizer.history names config (pushes.map fun p => .push p.1 p.2)).1.streams,
      b.name = stream := List.mem_map.mp (show stream ∈ Synchronizer.names _ by rwa [hnames, List.mem_eraseDups])
  refine ⟨_, ?_, (h.emitted b hb).trans (by rw [hsets])⟩
  have hbuffer := h.buffers b hb
  rw [haccepted] at hbuffer
  rw [hbuffer]
  exact (List.filter_sublist.map _).trans (List.sublist_append_left _ _)

end Run

/-- One item is dropped, one is stale, two are emitted and one is left. -/
theorem Synchronizer.every_item_accounted_mixed_run :
    let config : SyncConfig := { tolerance := 8, maxBacklog := 2 }
    let frame : Nat → Message := fun t => ⟨t, 0, .buffer []⟩
    let requests := [.push "disp" (frame 0), .push "disp" (frame 16), .push "disp" (frame 33),
      .push "rgb" (frame 30), .push "depth" (frame 31), .push "disp" (frame 50)]
    let s := (Synchronizer.history ["disp", "rgb"] config requests).1
    let l := (Synchronizer.history ["disp", "rgb"] config requests).2
    "depth" ∉ ["disp", "rgb"] ∧ s.push "depth" (frame 60) = (.untracked (frame 60), s) ∧
      ⟨"disp", [frame 50]⟩ ∈ s.streams ∧
      arrivals "disp" l.accepted = (l.departed "disp").map Departure.item ++ [frame 50] ∧
      l.emitted "disp" = [frame 33] ∧ (l.emitted "disp").map some = l.sets.map (fun set => set.get? "disp") ∧
      s.stats = { received := 5, emittedSets := 1, discardedStale := 1, overflowDrops := 1 } := by
  intro config frame requests s l
  obtain ⟨-, huntracked, hbuffers, -⟩ := Synchronizer.every_item_accounted ["disp", "rgb"] config requests
  have hleft : ⟨"disp", [frame 50]⟩ ∈ s.streams := by decide +kernel
  obtain ⟨hsplit, -, -, hsets⟩ := hbuffers _ hleft
  exact ⟨by decide, huntracked "depth" (by decide) _, hleft, hsplit, by decide +kernel, hsets,
    by decide +kernel⟩

end FrameGraph
