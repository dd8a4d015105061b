import FrameGraph.Proofs.Process.Exposures
import Mathlib.Algebra.BigOperators.Group.List.Basic
import Mathlib.Algebra.GroupWithZero.Nat

/-!
# Stills

A frame goes out as a still if a capture has been asked for since the frame before it. It does not matter how often: captures
that are asked for between two frames come to one still.

* `captures`: how many captures have been asked for by controls.
* `Reel.asked_sum`: each of them is asked for before one frame, or before the next.
* `Process.stills_asked_for`: what leaves as a still, and when there is one for each capture.
* `Process.captures_merged`: two captures that come to one still, whatever the camera does afterwards.
-/

namespace FrameGraph
set_option autoImplicit false

section
variable {α : Type} (f : α → Nat)

theorem length_filter_pos_le_sum (l : List α) : (l.filter fun a => 0 < f a).length ≤ (l.map f).sum := by
  induction l with
  | nil => exact Nat.le_refl 0
  | cons a rest ih =>
    by_cases h : 0 < f a <;> simp [h] <;> omega

theorem length_filter_pos_eq_sum_iff (l : List α) :
    (l.filter fun a => 0 < f a).length = (l.map f).sum ↔ ∀ a ∈ l, f a ≤ 1 := by
  induction l with
  | nil => simp
  | cons a rest ih =>
    have hle := length_filter_pos_le_sum f rest
    rw [List.forall_mem_cons, ← ih]
    by_cases h : 0 < f a <;> simp [h] <;> omega

end

/-! ## Captures -/

/-- How many captures have been asked for by controls. -/
def captures (took : List Intake) : Nat :=
  (takenAt (.port "inputControl") took).countP fun m => m.control?.any CameraControl.captureStill

theorem captures_append (a b : List Intake) : captures (a ++ b) = captures a + captures b := by
  rw [captures, takenAt_append, List.countP_append]
  rfl

theorem captures_concat (took : List Intake) (i : Intake) : captures (took ++ [i]) =
    captures took + if i.place = .port "inputControl" then (i.message.control?.any CameraControl.captureStill).toNat else 0 := by
  rw [captures, takenAt_concat, List.countP_append, ← captures]
  by_cases h : i.place = .port "inputControl" <;> cases hasks : i.message.control?.any CameraControl.captureStill <;>
    simp [h, hasks]

theorem Shooting.messagesAt_shoot_still {s : Shooting} (hnamed : s.camera.Named) (timestamp : Nat) :
    messagesAt (.port "still") (s.shoot timestamp).1 = if s.takesStill then
      [⟨timestamp, s.sequence, s.camera.frame (s.camera.config.stillSize.getD s.camera.config.sensor) .nv12⟩] else [] := by
  rw [messagesAt_shoot_fixed hnamed (by decide), still]
  cases s.takesStill <;> rfl

namespace Reel
variable {c : Camera}

/-- All captures that were asked for count before one frame, or before the one to come. -/
theorem asked_sum (took : List Intake) : ((c.reel took).exposures.map Exposure.asked).sum + (c.reel took).asked =
    captures took + c.config.initialControl.captureStill.toNat := by
  induction took using List.reverseRecOn with
  | nil => rfl
  | append_singleton took i ih =>
    rw [reel_concat, take, captures_concat]
    by_cases hsource : i.place = .port "mockIsp"
    · simp [hsource]
      omega
    · by_cases hcontrol : i.place = .port "inputControl" <;> simp [hsource, hcontrol] <;> omega

/-- Once there is a frame after them, they are not asked for any more. -/
theorem asked_le_captures (before after : List Intake) {i : Intake} (hplace : i.place = .port "mockIsp") :
    (c.reel (before ++ i :: after)).asked ≤ captures after := by
  induction after using List.reverseRecOn with
  | nil =>
    rw [reel_concat, take_source _ hplace]
    exact Nat.zero_le _
  | append_singleton after j ih =>
    rw [← List.cons_append, ← List.append_assoc, reel_concat, take, captures_concat]
    by_cases hsource : j.place = .port "mockIsp" <;> by_cases hcontrol : j.place = .port "inputControl" <;>
      simp [hsource, hcontrol] <;> omega

/-- The frames to come share the captures that are due with those that are still to be asked for. -/
theorem exposures_append (took later : List Intake) : ∃ rest,
    (c.reel (took ++ later)).exposures = (c.reel took).exposures ++ rest ∧
    (rest.map Exposure.asked).sum ≤ (c.reel took).asked + captures later := by
  obtain ⟨rest, hrest⟩ := exposures_prefix (c.reel took) later
  have hall : (c.reel (took ++ later)).exposures = (c.reel took).exposures ++ rest := by
    rw [hrest, Camera.reel, List.foldl_append, ← Camera.reel]
  refine ⟨rest, hall, ?_⟩
  have hbefore := asked_sum (c := c) took
  have hafter := asked_sum (c := c) (took ++ later)
  rw [hall, List.map_append, List.sum_append, captures_append] at hafter
  omega

theorem messagesAt_still (hnamed : c.Named) (took : List Intake) :
    messagesAt (.port "still") ((c.reel took).exposures.flatMap fun e => e.emissions c true) =
      ((c.reel took).exposures.filter fun e => 0 < e.asked).map fun e =>
        ⟨e.timestamp, e.number, c.frame (c.config.stillSize.getD c.config.sensor) .nv12⟩ := by
  rw [messagesAt_flatMap]
  induction (c.reel took).exposures with
  | nil => rfl
  | cons e rest ih =>
    rw [List.flatMap_cons, ih, Exposure.emissions, Shooting.messagesAt_shoot_still hnamed, Shooting.takesStill]
    by_cases h : 0 < e.asked <;> simp [h]

end Reel

/-! ## Cameras at work -/

namespace Process

/-- The surroundings of a camera that is controlled and paced, and at whose stills somebody looks. -/
def studio : Context := {
  node := ⟨0⟩, name := "camera", pollInterval := 1000000
  inputs := [("inputControl", 0), ("mockIsp", 1)], outputs := [("still", 2)] }

def studioStore (controls frames : List Message) : QueueStore Message :=
  let queue (name : String) (buffer : List Message) : Queue Message := { name, capacity := 8, blocking := true, buffer }
  { queues := [queue "inputControl" controls, queue "mockIsp" frames, queue "still" []] }

theorem open_studioStore (controls frames : List Message) : studio.Open (studioStore controls frames) := by
  refine Context.open_of_forall fun q hq => ?_
  simp only [studioStore, List.mem_cons, List.not_mem_nil, or_false] at hq
  obtain rfl | rfl | rfl := hq <;> rfl

/-- A paced camera whose stills are linked sends one with every frame before which a capture has been asked for since the
frame before, by a control or by the first one. All captures count before one frame, or before the next one. So there are no
more stills than captures, and once there is a frame after the last capture, there is one for each capture exactly if none
was asked for while another was due. -/
theorem stills_asked_for {c : Camera} (hnamed : c.Named) {context : Context} {source : QueueId}
    (hpaced : context.input? "mockIsp" = some source) (hlinked : context.isLinked "still" = true) {p : Process}
    {acts : List Act} {s : QueueStore Message} (h : Works (.camera c) context p acts s) :
    let took := acts.flatMap Act.intake
    let exposures := (c.reel took).exposures
    let stills := messagesAt (.port "still") (acts.flatMap Act.sent)
    let asked := captures took + c.config.initialControl.captureStill.toNat
    (exposures.map fun e => (e.timestamp, e.number)) = ((takenAt (.port "mockIsp") took).map Message.timestamp).zipIdx ∧
    (stills = (exposures.filter fun e => 0 < e.asked).map fun e =>
      ⟨e.timestamp, e.number, c.frame (c.config.stillSize.getD c.config.sensor) .nv12⟩) ∧
    (exposures.map Exposure.asked).sum + (c.reel took).asked = asked ∧
    stills.length ≤ asked ∧
    (∀ before i after, took = before ++ i :: after → i.place = .port "mockIsp" → captures after = 0 →
      (stills.length = asked ↔ ∀ e ∈ exposures, e.asked ≤ 1)) ∧
    HandsOver context p acts := by
  intro took exposures stills asked
  obtain ⟨-, -, hsent⟩ := (keeps_reel hpaced).of_works h
  rw [hlinked] at hsent
  have hstills : stills = (exposures.filter fun e => 0 < e.asked).map fun e =>
      ⟨e.timestamp, e.number, c.frame (c.config.stillSize.getD c.config.sensor) .nv12⟩ := by
    rw [← Reel.messagesAt_still hnamed took, ← hsent]
  have hlength : stills.length = (exposures.filter fun e => 0 < e.asked).length := by rw [hstills, List.length_map]
  have hsum : (exposures.map Exposure.asked).sum + (c.reel took).asked = asked := Reel.asked_sum took
  have hle := length_filter_pos_le_sum Exposure.asked exposures
  refine ⟨Reel.numbered took, hstills, hsum, by omega, fun before i after hsplit hplace hnone => ?_,
    h.handsOver fun _ _ => result_of_camera⟩
  have hrest : (c.reel took).asked = 0 := by
    rw [hsplit]
    exact Nat.le_zero.mp (hnone ▸ Reel.asked_le_captures before after hplace)
  rw [hlength, ← hsum, hrest, Nat.add_zero]
  exact length_filter_pos_eq_sum_iff Exposure.asked exposures

/-- One capture is asked for before the first frame, and one after it, with a control that asks for nothing. -/
theorem stills_asked_for_one_by_one :
    let c : Camera := { config := { initialControl := { captureStill := true } } }
    ∃ p acts s, Works (.camera c) studio p acts s ∧ p.outbox = [] ∧ captures (acts.flatMap Act.intake) = 1 ∧
      ((takenAt (.port "mockIsp") (acts.flatMap Act.intake)).map Message.timestamp) = [40, 73, 106] ∧
      (messagesAt (.port "still") (acts.flatMap Act.sent)).length = 2 ∧
      ((deliveriesAt (.port "still") (acts.flatMap Act.put)).map fun d => (d.message.timestamp, d.message.sequence)) =
        [(40, 0), (73, 1)] := by
  intro c
  let raw : Nat → Message := fun t => ⟨t, 9, .buffer []⟩
  let control (captureStill : Bool) : Message := ⟨50, 0, .cameraControl { captureStill }⟩
  let solo : Solo := {
    process := .ofBeginning studio (.working (.camera (.start c true 33333335 0)) (Agenda.camera studio))
    store := studioStore [] [raw 40] }
  let later : Solo := {
    process := ((fun solo => (Solo.step solo).2)^[4] solo).process
    store := studioStore [control true, control false] [raw 73, raw 106] }
  have hfirst : Works (.camera c) studio solo.process [] solo.store :=
    .start 0 (start_camera (by decide +kernel) studio 0) (open_studioStore _ _)
  have hlater : Works (.camera c) studio later.process ([] ++ solo.acts 4) later.store := by
    dsimp only [later]
    exact (hfirst.alone 4).others (open_studioStore _ _)
  have hrun := hlater.alone 14
  have hnamed : c.Named := fun o ho => nomatch ho
  obtain ⟨-, -, -, -, hcount, hover⟩ := stills_asked_for hnamed rfl rfl hrun
  have hidle : ((fun solo => (Solo.step solo).2)^[14] later).process.outbox = [] := by decide +kernel
  -- The second frame is the first after the capture.
  have hframe : ((([] ++ solo.acts 4 ++ later.acts 14).flatMap Act.intake)[3]?.map Intake.place) = some (.port "mockIsp") := by
    decide +kernel
  obtain ⟨i, hi, hplace⟩ := Option.map_eq_some_iff.mp hframe
  obtain ⟨hlength, rfl⟩ := List.getElem?_eq_some_iff.mp hi
  have hall := hcount (List.take 3 _) _ (List.drop 4 _)
    (by rw [← List.drop_eq_getElem_cons hlength, List.take_append_drop]) hplace (by decide +kernel)
  have hstills : (messagesAt (.port "still") (([] ++ solo.acts 4 ++ later.acts 14).flatMap Act.sent)).length = 2 :=
    (hall.mpr (by decide +kernel)).trans (by decide +kernel)
  refine ⟨_, _, _, hrun, hidle, by decide +kernel, by decide +kernel, hstills, ?_⟩
  rw [hover.arrived hidle]
  decide +kernel

/-! ## Captures that are merged -/

/-- The camera between two passes, with some frames made and no still due. -/
def resting (frames : Nat) : Process where
  context := studio
  work := .camera {
    camera := { config := {} }, stillLinked := true, previewSize := ⟨300, 300⟩, stillPending := false
    period := 33333335, sequence := frames, due := 0 }
  agenda := Agenda.camera studio

theorem eq_resting {p : Process} {frames : Nat} (hfields : (p.context, p.work, p.agenda, p.todo, p.outbox) =
    (studio, (resting frames).work, Agenda.camera studio, [], [])) (hlive : p.result.isNone = true) : p = resting frames := by
  obtain ⟨context, work, agenda, todo, outbox, result⟩ := p
  cases hfields
  cases Option.isNone_iff_eq_none.mp hlive
  rfl

/-- It may go on to any number of frames. -/
theorem more_frames {k : Nat} {acts : List Act} {s : QueueStore Message}
    (h : Works (.camera { config := {} }) studio (resting k) acts s) (n : Nat) :
    ∃ later t, Works (.camera { config := {} }) studio (resting (k + n)) (acts ++ later) t ∧
      captures (later.flatMap Act.intake) = 0 ∧ (takenAt (.port "mockIsp") (later.flatMap Act.intake)).length = n := by
  induction n with
  | zero => exact ⟨[], s, by simpa using h, rfl, rfl⟩
  | succ n ih =>
    obtain ⟨later, t, hrun, hcaptures, hframes⟩ := ih
    let frame : Message := ⟨0, 0, .buffer []⟩
    let solo : Solo := { process := resting (k + n), store := studioStore [] [frame] }
    have hfed : Works (.camera { config := {} }) studio solo.process (acts ++ later) solo.store :=
      hrun.others (open_studioStore [] [frame])
    have hmore := hfed.alone 3
    have hacts : solo.acts 3 = [⟨(resting (k + n)).work, 0, .looked⟩, ⟨(resting (k + n)).work, 1000, .looked⟩,
      ⟨(resting (k + n)).work, 2000, .took (.port "mockIsp") 1 frame⟩] := rfl
    have hintake : (later ++ solo.acts 3).flatMap Act.intake = later.flatMap Act.intake ++ [⟨.port "mockIsp", 1, frame⟩] := by
      rw [List.flatMap_append, hacts]
      rfl
    refine ⟨later ++ solo.acts 3, _, by rw [← List.append_assoc]; exact hmore, ?_, ?_⟩
    · rw [hintake, captures_concat, hcaptures]
      rfl
    · rw [hintake, takenAt_concat, List.length_append, hframes]
      rfl

/-- Two captures are asked for before the first frame. Whatever the camera does from then on, as long as no more of them are
asked for, one still is all that leaves, and any number of frames may follow. -/
theorem captures_merged :
    let c : Camera := { config := {} }
    let control : Message := ⟨0, 0, .cameraControl { captureStill := true }⟩
    let solo : Solo := {
      process := .ofBeginning studio (.working (.camera (.start c true 33333335 0)) (Agenda.camera studio))
      store := studioStore [control, control] [⟨0, 0, .buffer []⟩] }
    let acts := solo.acts 6
    studio.isLinked "still" = true ∧ studio.input? "inputControl" = some 0 ∧ studio.input? "mockIsp" = some 1 ∧
      captures (acts.flatMap Act.intake) + c.config.initialControl.captureStill.toNat = 2 ∧
      (∀ later p s, Works (.camera c) studio p (acts ++ later) s → captures (later.flatMap Act.intake) = 0 → p.outbox = [] →
        (deliveriesAt (.port "still") ((acts ++ later).flatMap Act.put)).length = 1) ∧
      ∀ n, ∃ later p s, Works (.camera c) studio p (acts ++ later) s ∧ captures (later.flatMap Act.intake) = 0 ∧ p.outbox = [] ∧
        (takenAt (.port "mockIsp") (later.flatMap Act.intake)).length = n := by
  intro c control solo acts
  have hbegun : Works (.camera c) studio solo.process [] solo.store :=
    .start 0 (start_camera (by decide +kernel) studio 0) (open_studioStore _ _)
  refine ⟨by decide, by decide, by decide, by decide +kernel, fun later p s hrun hnone hidle => ?_, fun n => ?_⟩
  · -- The first frame has used up both captures, so that no other frame has one.
    obtain ⟨rest, hexposures, hleft⟩ := Reel.exposures_append (c := c) (acts.flatMap Act.intake) (later.flatMap Act.intake)
    have hfirst : (c.reel (acts.flatMap Act.intake)).exposures = [⟨0, 0, ⟨300, 300⟩, 2⟩] ∧
        (c.reel (acts.flatMap Act.intake)).asked = 0 := by decide +kernel
    have hothers : (rest.filter fun e => 0 < e.asked) = [] := by
      have hle := length_filter_pos_le_sum Exposure.asked rest
      rw [hfirst.2, hnone] at hleft
      exact List.length_eq_zero_iff.mp (by omega)
    have hnamed : c.Named := fun o ho => nomatch ho
    obtain ⟨-, -, hsent⟩ := (keeps_reel rfl).of_works hrun
    have hstills : messagesAt (.port "still") ((acts ++ later).flatMap Act.sent) = [⟨0, 0, c.frame c.config.sensor .nv12⟩] := by
      rw [hsent, List.flatMap_append, show studio.isLinked "still" = true from by decide,
        Reel.messagesAt_still hnamed, hexposures, hfirst.1, List.filter_append, hothers]
      rfl
    rw [(hrun.handsOver fun _ _ => result_of_camera).arrived hidle, hstills]
    rfl
  · have hresting : ((fun solo => (Solo.step solo).2)^[6] solo).process = resting 1 :=
      eq_resting (by decide +kernel) (by decide +kernel)
    have hrun := hbegun.alone 6
    rw [hresting, List.nil_append] at hrun
    obtain ⟨later, t, hmore, hcaptures, hframes⟩ := more_frames hrun n
    exact ⟨later, _, t, hmore, hcaptures, rfl, hframes⟩

end Process

end FrameGraph
