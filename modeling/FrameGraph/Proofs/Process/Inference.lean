import FrameGraph.Proofs.Process.Kinds
import FrameGraph.Proofs.Process.Working
import Mathlib.Data.List.Basic

/-!
# Results and their inputs

A network answers each message with one result and passes the message itself on, wherever it came in.

* `NeuralNetwork.inputKey`, `NeuralNetwork.outputKey`: an entry of the inputs, and the output for its messages.
* `NeuralNetwork.Fed`: a message has come in where a network looks.
* `NeuralNetwork.messagesAt_passed`: an output for the messages from one place gets all of these and no others.
* `Process.results_paired`: what leaves on each output.
-/

namespace FrameGraph
set_option autoImplicit false

namespace NeuralNetwork

/-! ## Entries -/

def inputKey (entry : String) : String :=
  portKey (some inputGroup) entry

def outputKey (entry : String) : String :=
  portKey (some outputGroup) entry

theorem inputKey_inj {x y : String} (h : inputKey x = inputKey y) : x = y :=
  (String.append_right_inj _).mp h

theorem outputKey_inj {x y : String} (h : outputKey x = outputKey y) : x = y :=
  (String.append_right_inj _).mp h

theorem entryOfKey?_eq_some_iff {key entry : String} : entryOfKey? key = some entry ↔ key = inputKey entry := by
  rw [entryOfKey?]
  constructor
  · intro h
    split at h
    · next hfirst =>
      obtain ⟨rest, hrest⟩ := List.isPrefixOf_iff_prefix.mp hfirst
      rw [← hrest, List.drop_left, Option.some_inj] at h
      rw [← String.toList_inj, ← hrest, ← h]
      simp [inputKey, portKey]
    · cases h
  · rintro rfl
    simp [inputKey, portKey]

theorem inputKey_ne_in (entry : String) : inputKey entry ≠ "in" := by
  intro h
  have hentry := entryOfKey?_eq_some_iff.mpr h.symm
  rw [show entryOfKey? "in" = none from by decide] at hentry
  cases hentry

theorem outputKey_ne_passthrough (entry : String) : outputKey entry ≠ "passthrough" := by
  intro h
  have htext := congrArg String.toList h
  simp [outputKey, portKey, outputGroup] at htext

theorem passthroughOf_inputKey (entry : String) : passthroughOf (inputKey entry) = outputKey entry := by
  rw [passthroughOf, entryOfKey?_eq_some_iff.mpr rfl]
  rfl

theorem passthroughOf_in : passthroughOf "in" = "passthrough" := by
  decide

/-! ## Answers -/

/-- It has come in at `in`, or at an entry of the inputs, from the queue that is linked there. -/
def Fed (c : Context) (i : Intake) : Prop :=
  ∃ key, (key = "in" ∨ ∃ x, key = inputKey x) ∧ i.place = .port key ∧ c.input? key = some i.queue

theorem fed_of_look {config : NeuralNetworkConfig} {c : Context} {i : Intake} {repeatedly : Bool}
    (h : Poll.look i.place i.queue repeatedly ∈ (Body.neuralNetwork config).agenda c) : Fed c i := by
  obtain ⟨key, hkey, queue, hinput, hlook⟩ := Agenda.mem_each.mp (show _ ∈ Agenda.neuralNetwork c from h)
  obtain ⟨hplace, rfl, -⟩ := Poll.look.inj hlook
  refine ⟨key, ?_, hplace, hinput⟩
  rcases List.mem_cons.mp hkey with rfl | hkey
  · exact .inl rfl
  · obtain ⟨x, hx⟩ := Option.isSome_iff_exists.mp (List.mem_filter.mp hkey).2
    exact .inr ⟨x, entryOfKey?_eq_some_iff.mp hx⟩

/-- All that is sent for a message that was taken. -/
def answers (config : NeuralNetworkConfig) (i : Intake) : List Emission :=
  match i.place with
  | .port key => handle config key i.message
  | .host => []

section
variable {config : NeuralNetworkConfig} {c : Context} {took : List Intake}

theorem messagesAt_handle (place : Place) (key : String) (m : Message) : messagesAt place (handle config key m) =
    (if .port "out" = place then [infer config m] else []) ++ if .port (passthroughOf key) = place then [m] else [] := by
  by_cases hout : Place.port "out" = place <;> by_cases hpass : Place.port (passthroughOf key) = place <;>
    simp [messagesAt, handle, Emission.onPort, hout, hpass]

theorem messagesAt_out (hfed : ∀ i ∈ took, Fed c i) :
    messagesAt (.port "out") (took.flatMap (answers config)) = took.map fun i => infer config i.message := by
  rw [messagesAt_flatMap, List.map_eq_flatMap]
  refine List.flatMap_congr fun i hi => ?_
  obtain ⟨key, -, hplace, -⟩ := hfed i hi
  rw [answers, hplace, messagesAt_handle, if_pos rfl, if_neg fun h => passthroughOf_ne_out key (Place.port.inj h),
    List.append_nil]

/-- An output that messages from one place alone go on to gets all of these. -/
theorem messagesAt_passed (hfed : ∀ i ∈ took, Fed c i) {place source : Place} (hout : .port "out" ≠ place)
    (hpass : ∀ key, key = "in" ∨ (∃ x, key = inputKey x) → (.port (passthroughOf key) = place ↔ .port key = source)) :
    messagesAt place (took.flatMap (answers config)) = takenAt source took := by
  induction took with
  | nil => rfl
  | cons i rest ih =>
    obtain ⟨key, hkey, hplace, -⟩ := hfed i List.mem_cons_self
    rw [List.flatMap_cons, messagesAt_append, ih fun j hj => hfed j (List.mem_cons_of_mem _ hj), takenAt_cons, answers, hplace,
      messagesAt_handle, if_neg hout, List.nil_append]
    simp only [hpass key hkey]

theorem messagesAt_passthrough (hfed : ∀ i ∈ took, Fed c i) :
    messagesAt (.port "passthrough") (took.flatMap (answers config)) = takenAt (.port "in") took := by
  refine messagesAt_passed hfed (by decide) fun key hkey => ?_
  rcases hkey with rfl | ⟨x, rfl⟩
  · simp [passthroughOf_in]
  · simp [passthroughOf_inputKey, outputKey_ne_passthrough, inputKey_ne_in]

theorem messagesAt_entry (hfed : ∀ i ∈ took, Fed c i) (x : String) :
    messagesAt (.port (outputKey x)) (took.flatMap (answers config)) = takenAt (.port (inputKey x)) took := by
  refine messagesAt_passed hfed (fun h => entry_ne_out x (Place.port.inj h).symm) fun key hkey => ?_
  rw [Place.port.injEq, Place.port.injEq]
  rcases hkey with rfl | ⟨y, rfl⟩
  · rw [passthroughOf_in]
    exact iff_of_false (outputKey_ne_passthrough x).symm (inputKey_ne_in x).symm
  · rw [passthroughOf_inputKey]
    exact ⟨fun h => congrArg inputKey (outputKey_inj h), fun h => congrArg outputKey (inputKey_inj h)⟩

theorem messagesAt_other (hfed : ∀ i ∈ took, Fed c i) {place : Place} (hout : place ≠ .port "out")
    (hpass : place ≠ .port "passthrough") (hentries : ∀ x, place ≠ .port (outputKey x)) :
    messagesAt place (took.flatMap (answers config)) = [] := by
  rw [messagesAt_flatMap, List.flatMap_eq_nil_iff]
  intro i hi
  obtain ⟨key, hkey, hplace, -⟩ := hfed i hi
  rw [answers, hplace, messagesAt_handle, if_neg hout.symm, List.nil_append]
  rcases hkey with rfl | ⟨x, rfl⟩
  · rw [passthroughOf_in, if_neg hpass.symm]
  · rw [passthroughOf_inputKey, if_neg (hentries x).symm]

end

end NeuralNetwork

/-! ## Runs -/

namespace Process
open NeuralNetwork
variable {config : NeuralNetworkConfig} {c : Context} {good : QueueStore Message → Prop} {p : Process} {acts : List Act}
  {s : QueueStore Message}

theorem keeps_answers : Keeps (.neuralNetwork config) c good fun p acts =>
    p.work = .neuralNetwork config ∧ acts.flatMap Act.sent = (acts.flatMap Act.intake).flatMap (answers config) := by
  refine keeps_of_relation (R := fun w took sent => w = .neuralNetwork config ∧ sent = took.flatMap (answers config))
    (fun hstart => ?_) (fun now i h => ?_) (fun h htick => ?_) (fun now h => ?_)
  · cases hstart
    exact ⟨rfl, rfl⟩
  · obtain ⟨rfl, rfl⟩ := h
    obtain ⟨place, queue, m⟩ := i
    rw [List.flatMap_append, List.flatMap_singleton]
    cases place <;> exact ⟨rfl, rfl⟩
  · obtain ⟨rfl, -⟩ := h
    cases htick
  · obtain ⟨rfl, rfl⟩ := h
    exact ⟨rfl, rfl⟩

/-- Messages come in at `in` and at the entries of the inputs, where these are linked. On `out` a network sends one result
for each of them, which bears its time and its number. The messages from `in` go on to `passthrough`, and those from an entry
to the output of this entry, unchanged. It sends nothing anywhere else, and whenever nothing is on its way, all of this has
been handed over. -/
theorem results_paired (h : Works (.neuralNetwork config) c p acts s) :
    let took := acts.flatMap Act.intake
    let sent := acts.flatMap Act.sent
    (∀ i ∈ took, ∃ key, (key = "in" ∨ ∃ x, key = inputKey x) ∧ i.place = .port key ∧ c.input? key = some i.queue) ∧
    (messagesAt (.port "out") sent = took.map fun i => infer config i.message) ∧
    ((messagesAt (.port "out") sent).map fun m => (m.timestamp, m.sequence, m.kind)) =
      (took.map fun i => (i.message.timestamp, i.message.sequence, Kind.nnData)) ∧
    messagesAt (.port "passthrough") sent = takenAt (.port "in") took ∧
    (∀ x, messagesAt (.port (outputKey x)) sent = takenAt (.port (inputKey x)) took) ∧
    (∀ place, place ≠ .port "out" → place ≠ .port "passthrough" → (∀ x, place ≠ .port (outputKey x)) →
      messagesAt place sent = []) ∧
    HandsOver c p acts := by
  intro took sent
  have hfed (i : Intake) (hi : i ∈ took) : Fed c i := by
    obtain ⟨repeatedly, hlook⟩ := h.regular.intake i hi
    exact fed_of_look hlook
  obtain ⟨-, hsent⟩ := keeps_answers.of_works h
  have hout : messagesAt (.port "out") sent = took.map fun i => infer config i.message := by
    rw [show sent = _ from hsent, messagesAt_out hfed]
  refine ⟨hfed, hout, ?_, ?_, fun x => ?_, fun place hplace hpass hentries => ?_, h.handsOver fun _ _ hstart => ?_⟩
  · rw [hout, List.map_map]
    rfl
  · rw [show sent = _ from hsent, messagesAt_passthrough hfed]
  · rw [show sent = _ from hsent, messagesAt_entry hfed]
  · rw [show sent = _ from hsent, messagesAt_other hfed hplace hpass hentries]
  · cases hstart
    rfl

/-- Two messages come in at an entry and one at `in`. -/
theorem results_paired_two_inputs :
    let c : Context := {
      node := ⟨0⟩, name := "nn", pollInterval := 1000000
      inputs := [("inputs.roi", 0), ("in", 1)], outputs := [("out", 2), ("passthrough", 3), ("passthroughs.roi", 4)] }
    let raw : Nat → Nat → Message := fun t n => ⟨t, n, .buffer []⟩
    ∃ p acts s, Works (.neuralNetwork {}) c p acts s ∧ p.outbox = [] ∧
      (acts.flatMap Act.intake).map Intake.message = [raw 40 4, raw 70 7, raw 80 8] ∧
      ((deliveriesAt (.port "out") (acts.flatMap Act.put)).map fun d => (d.message.timestamp, d.message.sequence)) =
        [(40, 4), (70, 7), (80, 8)] ∧
      (deliveriesAt (.port "passthrough") (acts.flatMap Act.put)).map Delivery.message = [raw 40 4] ∧
      (deliveriesAt (.port (outputKey "roi")) (acts.flatMap Act.put)).map Delivery.message = [raw 70 7, raw 80 8] := by
  intro c raw
  let queue (name : String) (buffer : List Message) : Queue Message := { name, capacity := 8, blocking := true, buffer }
  let first : QueueStore Message := { queues := [
    queue "roi" [raw 70 7, raw 80 8], queue "in" [raw 40 4], queue "out" [], queue "passthrough" [], queue "passthroughs.roi" []] }
  let solo : Solo := { process := .ofBeginning c (.working (.neuralNetwork {}) (Agenda.neuralNetwork c)), store := first }
  have hbegun : Works (.neuralNetwork {}) c solo.process [] solo.store := .start 0 rfl (Context.open_of_forall (by decide +kernel))
  have hrun := hbegun.alone 14
  obtain ⟨-, hresults, -, hpass, hentries, -, hover⟩ := results_paired hrun
  have hidle : ((fun solo => (Solo.step solo).2)^[14] solo).process.outbox = [] := by decide +kernel
  have hleft := hover.arrived hidle
  refine ⟨_, _, _, hrun, hidle, by decide +kernel, ?_, ?_, ?_⟩
  · rw [hleft, hresults]
    decide +kernel
  · rw [hleft, hpass]
    decide +kernel
  · rw [hleft, hentries]
    decide +kernel

end Process

end FrameGraph
