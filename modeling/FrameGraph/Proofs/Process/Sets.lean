import FrameGraph.Proofs.Process.Bursts
import FrameGraph.Proofs.Process.Working
import FrameGraph.Proofs.Synchronizer.Conservation

/-!
# Whole sets

Whatever arrives when, a synchronizing node sends the sets that a synchronizer makes of the messages in the order in which
they are taken. A set goes out as a whole, each of its messages on the output of its stream.

* `StreamSync.mem_streams_iff`: the streams of a node are those with an input that is linked.
* `StreamSync.map_pushes`: every message that is taken is pushed to the stream of its input.
* `Process.sets_leave_whole`: what leaves on each output.
-/

namespace FrameGraph
set_option autoImplicit false

namespace StreamSync
variable {c : Context}

theorem mem_streams_iff {x : String} : x ∈ streams c ↔ (c.input? (inputKey x)).isSome = true := by
  rw [streams, streamsOf, List.mem_mergeSort, List.mem_filterMap, Context.input?, Option.isSome_map, List.find?_isSome]
  simp only [streamOfKey?_eq_some_iff, List.mem_map, exists_exists_and_eq_and, beq_iff_eq]

/-- A node of this kind takes messages from the inputs of its streams only. -/
theorem looked_at_stream {config : StreamSyncConfig} {place : Place} {queue : QueueId} {repeatedly : Bool}
    (h : Poll.look place queue repeatedly ∈ (Body.streamSync config).agenda c) :
    ∃ x ∈ streams c, place = .port (inputKey x) ∧ c.input? (inputKey x) = some queue := by
  obtain ⟨key, hkey, other, hinput, hlook⟩ := Agenda.mem_each.mp (show _ ∈ Agenda.streamSync c from h)
  obtain ⟨x, hx, rfl⟩ := List.mem_map.mp hkey
  cases hlook
  exact ⟨x, hx, rfl, hinput⟩

/-! ## Pushes -/

section
variable {took : List Intake} (hplaces : ∀ i ∈ took, ∃ x ∈ streams c, i.place = .port (inputKey x))
include hplaces

/-- Nothing that is taken is passed over, and each message is pushed to the stream at whose input it was taken. -/
theorem map_pushes : ((pushes took).map fun p => (Place.port (inputKey p.1), p.2)) = took.map fun i => (i.place, i.message) := by
  induction took with
  | nil => rfl
  | cons i rest ih =>
    obtain ⟨x, -, hplace⟩ := hplaces i List.mem_cons_self
    have hrest := ih fun j hj => hplaces j (List.mem_cons_of_mem _ hj)
    simp only [pushes, List.filterMap_cons, hplace, streamOfKey?_eq_some_iff.mpr rfl, Option.map_some, List.map_cons] at hrest ⊢
    rw [hrest]

theorem tracked_of_pushes : ∀ p ∈ pushes took, p.1 ∈ streams c := by
  intro p hp
  obtain ⟨i, hi, hpush⟩ := List.mem_filterMap.mp hp
  obtain ⟨x, hx, hplace⟩ := hplaces i hi
  rw [hplace] at hpush
  simp only [streamOfKey?_eq_some_iff.mpr rfl, Option.map_some, Option.some.injEq] at hpush
  exact hpush ▸ hx

theorem arrivals_pushes (x : String) : arrivals x (pushes took) = takenAt (.port (inputKey x)) took := by
  have hkept := congrArg (fun l => (l.filter fun e => e.1 = Place.port (inputKey x)).map Prod.snd) (map_pushes hplaces)
  simp only [List.filter_map, List.map_map, Function.comp_def] at hkept
  rw [takenAt, ← hkept, arrivals]
  congr 1
  refine List.filter_congr fun p _ => ?_
  rw [Bool.eq_iff_iff, beq_iff_eq, decide_eq_true_iff]
  exact ⟨fun h => by rw [h], fun h => inputKey_inj (Place.port.inj h)⟩

end

/-! ## Sets -/

theorem get?_eq_head? (set : SyncedSet Message) (x : String) :
    set.get? x = (messagesAt (.port (outputKey x)) (emissions set)).head? := by
  rw [messagesAt_emissions, List.head?_map, List.head?_filter, SyncedSet.get?]
  rfl

/-- One message of every set leaves at the output of a stream. -/
theorem messagesAt_sets {sets : List (SyncedSet Message)} {names : List String} (hnodup : names.Nodup)
    (hsets : ∀ set ∈ sets, set.entries.map Prod.fst = names) {x : String} (hx : x ∈ names) :
    (messagesAt (.port (outputKey x)) (sets.flatMap emissions)).map some = sets.map fun set => set.get? x := by
  rw [messagesAt_flatMap, List.map_flatMap, List.map_eq_flatMap]
  refine List.flatMap_congr fun set hset => ?_
  obtain ⟨m, -, hone⟩ := one_emission (hsets set hset ▸ hnodup) (hsets set hset ▸ hx)
  rw [get?_eq_head?, hone]
  rfl

end StreamSync

namespace Process
open StreamSync
variable {config : StreamSyncConfig} {c : Context} {p : Process} {acts : List Act} {s : QueueStore Message}

/-- The messages that a node takes are pushed, in this order, to a synchronizer of the streams whose inputs are linked. The
node sends the sets that this completes: on the output of each of these streams the messages that the sets have for it, one
for each set, which are messages that were taken at the input of the stream. It sends nothing anywhere else, and whenever
nothing is on its way, all of this has been handed over. -/
theorem sets_leave_whole (h : Works (.streamSync config) c p acts s) :
    let took := acts.flatMap Act.intake
    let sent := acts.flatMap Act.sent
    let sets := matched (.make (streams c) config.sync) took
    ((pushes took).map fun e => (Place.port (inputKey e.1), e.2)) = (took.map fun i => (i.place, i.message)) ∧
    (∀ i ∈ took, ∃ x, i.place = .port (inputKey x) ∧ c.input? (inputKey x) = some i.queue) ∧
    (∀ x, (c.input? (inputKey x)).isSome = true →
      (messagesAt (.port (outputKey x)) sent).map some = (sets.map fun set => set.get? x) ∧
      (messagesAt (.port (outputKey x)) sent).Sublist (takenAt (.port (inputKey x)) took)) ∧
    (∀ place, (∀ x, (c.input? (inputKey x)).isSome = true → place ≠ .port (outputKey x)) → messagesAt place sent = []) ∧
    HandsOver c p acts := by
  intro took sent sets
  have hregular := h.regular
  have hlooked (i : Intake) (hi : i ∈ took) :
      ∃ x ∈ streams c, i.place = .port (inputKey x) ∧ c.input? (inputKey x) = some i.queue := by
    obtain ⟨repeatedly, hlook⟩ := hregular.intake i hi
    exact looked_at_stream hlook
  have hplaces (i : Intake) (hi : i ∈ took) : ∃ x ∈ streams c, i.place = .port (inputKey x) := by
    obtain ⟨x, hx, hplace, -⟩ := hlooked i hi
    exact ⟨x, hx, hplace⟩
  obtain ⟨-, hsent⟩ := ((keeps_streamSync config).weaken fun _ _ => trivial).of_works h
  have hsets (set : SyncedSet Message) (hset : set ∈ sets) : set.entries.map Prod.fst = (streams c).eraseDups := by
    rw [names_of_matched hset, Synchronizer.names_make]
  refine ⟨map_pushes hplaces, fun i hi => ?_, fun x hx => ?_, fun place hplace => ?_, h.handsOver fun _ _ hstart => ?_⟩
  · obtain ⟨x, -, hi⟩ := hlooked i hi
    exact ⟨x, hi⟩
  · rw [← mem_streams_iff] at hx
    have hone := messagesAt_sets (nodup_eraseDups _) hsets (List.mem_eraseDups.mpr hx)
    rw [← hsent] at hone
    refine ⟨hone, ?_⟩
    obtain ⟨items, hsub, hitems⟩ := Synchronizer.sent_sublist config.sync (tracked_of_pushes hplaces) hx
    obtain rfl : items = messagesAt (.port (outputKey x)) sent :=
      List.map_injective_iff.mpr (Option.some_injective _) (hitems.trans hone.symm)
    rwa [arrivals_pushes hplaces] at hsub
  · refine messagesAt_eq_nil fun e he hsame => ?_
    rw [show sent = sets.flatMap emissions from hsent] at he
    obtain ⟨set, hset, he⟩ := List.mem_flatMap.mp he
    obtain ⟨entry, hentry, rfl⟩ := List.mem_map.mp he
    refine hplace entry.1 (mem_streams_iff.mp (List.mem_eraseDups.mp ?_)) hsame.symm
    rw [← hsets set hset]
    exact List.mem_map_of_mem hentry
  · cases hstart
    rfl

/-- One stream is a message ahead, which is stale when the others match. -/
theorem sets_leave_whole_past_stale :
    let c : Context := {
      node := ⟨0⟩, name := "sync", pollInterval := 1000000
      inputs := [("inputs.disp_in", 0), ("inputs.rgb_in", 1)], outputs := [("outputs.disp_out", 2), ("outputs.rgb_out", 3)] }
    let config : StreamSyncConfig := { sync := { tolerance := 8 } }
    let frame : Nat → Message := fun t => ⟨t, 0, .buffer []⟩
    ∃ p acts s, Works (.streamSync config) c p acts s ∧ p.outbox = [] ∧
      (acts.flatMap Act.intake).map Intake.message = [frame 0, frame 17, frame 16, frame 34, frame 33] ∧
      (deliveriesAt (.port (outputKey "disp")) (acts.flatMap Act.put)).map Delivery.message = [frame 16, frame 33] ∧
      (deliveriesAt (.port (outputKey "rgb")) (acts.flatMap Act.put)).map Delivery.message = [frame 17, frame 34] := by
  intro c config frame
  let queue (name : String) (buffer : List Message) : Queue Message := { name, capacity := 8, blocking := true, buffer }
  let first : QueueStore Message := { queues := [
    queue "disp_in" [frame 0, frame 16, frame 33], queue "rgb_in" [frame 17, frame 34], queue "disp_out" [],
    queue "rgb_out" []] }
  have hsorted : streams c = ["disp", "rgb"] := by
    have hnames : (c.inputs.map Prod.fst).filterMap streamOfKey? = ["disp", "rgb"] := by decide +kernel
    rw [streams, streamsOf, hnames]
    exact List.mergeSort_of_pairwise (by decide +kernel)
  -- Sorting does not compute, so the node is put to work with its streams in order.
  let solo : Solo := {
    process := {
      context := c
      work := .streamSync { streams := [⟨"disp", []⟩, ⟨"rgb", []⟩], config := { tolerance := 8 } }
      agenda := [.look (.port "inputs.disp_in") 0 false, .look (.port "inputs.rgb_in") 1 false] }
    store := first }
  have hstart : start (.streamSync config) c 0 = .ok solo.process := by
    simp only [start, Body.begin, Agenda.streamSync, hsorted]
    rfl
  have hbegun : Works (.streamSync config) c solo.process [] solo.store :=
    .start 0 hstart (Context.open_of_forall (by decide +kernel))
  have hrun := hbegun.alone 15
  obtain ⟨-, -, hstreams, -, hover⟩ := sets_leave_whole hrun
  rw [hsorted] at hstreams
  have hidle : ((fun solo => (Solo.step solo).2)^[15] solo).process.outbox = [] := by decide +kernel
  have hleft {x : String} (messages : List Message) (hx : x ∈ ["disp", "rgb"])
      (hsets : ((matched (.make ["disp", "rgb"] config.sync) ((solo.acts 15).flatMap Act.intake)).map
        fun set => set.get? x) = messages.map some) :
      deliveriesAt (.port (outputKey x)) ((solo.acts 15).flatMap Act.put) =
        messages.flatMap fun m => c.deliveries ⟨.port (outputKey x), m⟩ := by
    obtain ⟨hall, -⟩ := hstreams x (mem_streams_iff.mp (hsorted ▸ hx))
    have hone := List.map_injective_iff.mpr (Option.some_injective _) (hall.trans hsets)
    rw [← hone]
    exact hover.arrived hidle _
  refine ⟨_, _, _, hrun, hidle, by decide +kernel, ?_, ?_⟩
  · have hdisp := hleft (x := "disp") [frame 16, frame 33] (by decide) (by decide +kernel)
    exact (congrArg (List.map Delivery.message) hdisp).trans (by decide +kernel)
  · have hrgb := hleft (x := "rgb") [frame 17, frame 34] (by decide) (by decide +kernel)
    exact (congrArg (List.map Delivery.message) hrgb).trans (by decide +kernel)

end Process

end FrameGraph
