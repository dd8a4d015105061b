import FrameGraph.Proofs.Process.Acts

/-!
# Frames on negotiated outputs

A camera sends frames on the outputs that it has registered, and on no other port of their map.

* `Camera.share`: what one frame of a camera comes to at a port of the map.
* `Shooting.messagesAt_shoot`: so it does, whatever state the camera is in.
* `Shooting.messagesAt_negotiated`, `Shooting.messagesAt_still_of_ne`: what does not go out at other ports.
* `Process.Did`: a node at work, with all that it has done.
* `Process.Photographed`, `Process.keeps_photographed`: what a camera has sent at such a port, anywhere in a run. The
  frames are counted at the output for raw ones, which leaves none out.
-/

namespace FrameGraph
set_option autoImplicit false

namespace Camera

/-- The key of a port in the map of negotiated outputs. -/
def dynamicKey (key : String) : String :=
  portKey (some dynamicGroup) key

/-- The numbers and the contents of the frames that go out at a port when a camera makes the frame with a number. -/
def share (c : Camera) (key : String) (number : Nat) : List (Nat × Payload) :=
  (c.dynamic.filter fun o => o.key == key && number % o.decimation == 0).map fun o =>
    (number, c.frame o.spec.size .bgr888i)

theorem dynamicKey_ne {name : String} (h : name ∈ outputs) (key : String) : dynamicKey key ≠ name := by
  intro hsame
  have hfirst := congrArg (fun s : String => s.toList.head?) hsame
  simp only [outputs, List.mem_cons, List.not_mem_nil, or_false] at h
  obtain rfl | rfl | rfl | rfl | rfl | rfl := h <;> simp [dynamicKey, portKey, dynamicGroup] at hfirst

theorem share_of_absent {c : Camera} {key : String} (h : key ∉ c.dynamic.map DynamicOutput.key) (number : Nat) :
    c.share key number = [] := by
  rw [share, List.filter_eq_nil_iff.mpr, List.map_nil]
  intro o ho hkey
  simp only [Bool.and_eq_true, beq_iff_eq] at hkey
  exact h (List.mem_map.mpr ⟨o, ho, hkey.1⟩)

/-- Where keys are distinct, a frame goes out once at a registered output, or it is left out. -/
theorem share_of_mem {c : Camera} (hdistinct : (c.dynamic.map DynamicOutput.key).Nodup) {o : DynamicOutput}
    (ho : o ∈ c.dynamic) (number : Nat) :
    c.share o.key number = if number % o.decimation = 0 then [(number, c.frame o.spec.size .bgr888i)] else [] := by
  have hone : c.dynamic.filter (fun other => other.key == o.key) = [o] := by
    obtain ⟨before, after, hsplit⟩ := List.append_of_mem ho
    rw [hsplit, List.map_append, List.map_cons, List.nodup_append, List.nodup_cons] at hdistinct
    obtain ⟨-, ⟨hafter, -⟩, hbefore⟩ := hdistinct
    have hnone {others : List DynamicOutput} (h : ∀ other ∈ others, other.key ≠ o.key) :
        others.filter (fun other => other.key == o.key) = [] :=
      List.filter_eq_nil_iff.mpr fun other hother hkey => h other hother (by simpa using hkey)
    rw [hsplit, List.filter_append, List.filter_cons_of_pos (by simp),
      hnone fun other hother => hbefore _ (List.mem_map_of_mem hother) _ List.mem_cons_self,
      hnone fun other hother hkey => hafter (List.mem_map.mpr ⟨other, hother, hkey⟩), List.nil_append]
  have hsplit : c.dynamic.filter (fun other => other.key == o.key && number % other.decimation == 0) =
      (c.dynamic.filter fun other => other.key == o.key).filter fun other => number % other.decimation == 0 := by
    simp only [List.filter_filter, Bool.and_comm]
  rw [share, hsplit, hone]
  by_cases hdue : number % o.decimation = 0 <;> simp [hdue]

theorem flatMap_share {c : Camera} (hdistinct : (c.dynamic.map DynamicOutput.key).Nodup) {o : DynamicOutput}
    (ho : o ∈ c.dynamic) (numbers : List Nat) :
    numbers.flatMap (c.share o.key) =
      (numbers.filter fun k => k % o.decimation == 0).map fun k => (k, c.frame o.spec.size .bgr888i) := by
  induction numbers with
  | nil => rfl
  | cons k rest ih =>
    rw [List.flatMap_cons, ih, share_of_mem hdistinct ho]
    by_cases hdue : k % o.decimation = 0 <;> simp [hdue]

theorem decimation_pos (fps requested : Number.Single) : 0 < decimation fps requested :=
  Nat.le_max_right _ 1

end Camera

namespace Shooting

/-- Whatever goes out for a frame has its time and its number. -/
theorem emission_of_shoot {s : Shooting} {timestamp : Nat} {e : Emission} (he : e ∈ (s.shoot timestamp).1) :
    ∃ key size type, e = s.emission timestamp key size type := by
  rcases List.mem_append.mp he with he | he
  · rcases List.mem_append.mp he with he | he
    · simp only [steady, List.mem_cons, List.not_mem_nil, or_false] at he
      obtain rfl | rfl | rfl | rfl | rfl := he <;> exact ⟨_, _, _, rfl⟩
    · rw [still] at he
      split at he
      · exact ⟨_, _, _, List.mem_singleton.mp he⟩
      · cases he
  · obtain ⟨o, -, rfl⟩ := List.mem_map.mp he
    exact ⟨_, _, _, rfl⟩

theorem place_of_fixed {s : Shooting} {timestamp : Nat} {e : Emission}
    (he : e ∈ s.steady timestamp ++ s.still timestamp) : ∃ name ∈ Camera.outputs, e.place = .port name := by
  rcases List.mem_append.mp he with he | he
  · simp only [steady, List.mem_cons, List.not_mem_nil, or_false] at he
    obtain rfl | rfl | rfl | rfl | rfl := he <;> exact ⟨_, by decide, rfl⟩
  · rw [still] at he
    split at he
    · rw [List.mem_singleton.mp he]
      exact ⟨"still", by decide, rfl⟩
    · cases he

theorem messagesAt_fixed (s : Shooting) (timestamp : Nat) (key : String) :
    messagesAt (.port (Camera.dynamicKey key)) (s.steady timestamp ++ s.still timestamp) = [] := by
  refine messagesAt_eq_nil fun e he hplace => ?_
  obtain ⟨name, hname, hat⟩ := place_of_fixed he
  exact Camera.dynamicKey_ne hname key (Place.port.inj (hat.symm.trans hplace)).symm

theorem messagesAt_shoot (s : Shooting) (timestamp : Nat) (key : String) :
    (messagesAt (.port (Camera.dynamicKey key)) (s.shoot timestamp).1).map (fun m => (m.sequence, m.payload)) =
      s.camera.share (Camera.dynamicKey key) s.sequence := by
  rw [shoot, messagesAt_append, messagesAt_fixed, List.nil_append, negotiated, messagesAt, Camera.share,
    List.filter_map, List.filter_filter, List.map_map, List.map_map]
  congr 1
  refine List.filter_congr fun o _ => ?_
  simp [emission, Emission.onPort, Bool.beq_eq_decide_eq]

theorem messagesAt_negotiated {s : Shooting} {name : String} (hkeys : ∀ o ∈ s.camera.dynamic, o.key ≠ name)
    (timestamp : Nat) : messagesAt (.port name) (s.negotiated timestamp) = [] := by
  refine messagesAt_eq_nil fun e he hplace => ?_
  obtain ⟨o, ho, rfl⟩ := List.mem_map.mp he
  exact hkeys o (List.mem_filter.mp ho).1 (Place.port.inj hplace)

theorem messagesAt_still_of_ne {name : String} (hname : name ≠ "still") (s : Shooting) (timestamp : Nat) :
    messagesAt (.port name) (s.still timestamp) = [] := by
  refine messagesAt_eq_nil fun e he hplace => ?_
  rw [still] at he
  split at he
  · rw [List.mem_singleton.mp he] at hplace
    exact hname (Place.port.inj hplace).symm
  · cases he

/-- Every frame goes out raw, unless a negotiated output has taken the name. -/
theorem messagesAt_shoot_raw {s : Shooting} (hkeys : ∀ o ∈ s.camera.dynamic, o.key ≠ "raw") (timestamp : Nat) :
    (messagesAt (.port "raw") (s.shoot timestamp).1).map Message.sequence = [s.sequence] := by
  rw [shoot, messagesAt_append, messagesAt_append, messagesAt_negotiated hkeys, messagesAt_still_of_ne (by decide)]
  rfl

end Shooting

namespace Process

/-! ## Runs and what was done -/

/-- A node at work, with what it has done. At each of its steps there may be anything in the queues. -/
inductive Did (body : Body) (c : Context) : Process → List Act → Prop
  | start {p : Process} (now : Nat) (hstart : Process.start body c now = .ok p) : Did body c p []
  | step {p : Process} {acts : List Act} (h : Did body c p acts) (now : Nat) (running : Bool)
    (store : QueueStore Message) :
    Did body c (p.step now running store).2.1 (acts ++ [⟨p.work, now, (p.step now running store).1⟩])

theorem Keeps.of_did {body : Body} {c : Context} {inv : Process → List Act → Prop}
    (hkeeps : Keeps body c (fun _ => True) inv) {p : Process} {acts : List Act} (h : Did body c p acts) : inv p acts := by
  induction h with
  | start now hstart => exact hkeeps.start hstart
  | step _ now running store ih => exact hkeeps.step ih trivial (step_spec _ now running store)

/-! ## Cameras -/

/-- A camera has made some frames, which have gone out raw, and each of them has come to its share at the ports for
negotiated outputs. -/
def Photographed (c : Camera) (w : Work) (sent : List Emission) : Prop :=
  ∃ s : Shooting, w = .camera s ∧ s.camera = c ∧
    (messagesAt (.port "raw") sent).map Message.sequence = List.range s.sequence ∧
    ∀ key, (messagesAt (.port (Camera.dynamicKey key)) sent).map (fun m => (m.sequence, m.payload)) =
      (List.range s.sequence).flatMap (c.share (Camera.dynamicKey key))

theorem Photographed.shoot {c : Camera} (hkeys : ∀ o ∈ c.dynamic, o.key ≠ "raw") {s : Shooting} {sent : List Emission}
    (h : Photographed c (.camera s) sent) (due timestamp : Nat) :
    Photographed c (.camera ({ s with due }.shoot timestamp).2) (sent ++ ({ s with due }.shoot timestamp).1) := by
  obtain ⟨_, hsame, rfl, hraw, hshares⟩ := h
  cases hsame
  have hnext := Shooting.messagesAt_shoot_raw (s := { s with due }) hkeys timestamp
  refine ⟨_, rfl, rfl, ?_, fun key => ?_⟩
  · rw [messagesAt_append, List.map_append, hraw, hnext, Shooting.shoot, List.range_succ]
  · rw [messagesAt_append, List.map_append, hshares key, Shooting.messagesAt_shoot, Shooting.shoot, List.range_succ,
      List.flatMap_append, List.flatMap_singleton]

theorem keeps_photographed {c : Camera} (hkeys : ∀ o ∈ c.dynamic, o.key ≠ "raw") (context : Context) :
    Keeps (.camera c) context (fun _ => True) fun p acts => Photographed c p.work (acts.flatMap Act.sent) := by
  refine keeps_of_relation (R := fun w _ sent => Photographed c w sent)
    (fun hstart => ?_) (fun now i h => ?_) (fun {w next took sent emissions now} h hdue => ?_) (fun now h => ?_)
  · obtain ⟨period, rfl⟩ := begun_of_camera hstart
    exact ⟨_, rfl, rfl, rfl, fun _ => rfl⟩
  · obtain ⟨s, rfl, hcamera, hsent⟩ := id h
    obtain ⟨place, queue, m⟩ := i
    cases place with
    | host => simpa [Work.receive] using h
    | port at_ =>
      simp only [Work.receive, Work.receiveAtCamera]
      split
      · rw [List.append_nil]
        exact ⟨s.control m, rfl, hcamera, hsent⟩
      · rw [List.append_nil]
        exact ⟨s.configure m, rfl, hcamera, hsent⟩
      · exact h.shoot hkeys s.due m.timestamp
  · obtain ⟨s, rfl, -⟩ := id h
    obtain ⟨⟨frames, after⟩, htick, hsame⟩ := Option.map_eq_some_iff.mp hdue
    cases hsame
    rw [Shooting.tick?] at htick
    split at htick
    · cases htick
    · cases htick
      exact h.shoot hkeys _ now
  · obtain ⟨s, rfl, -⟩ := id h
    exact h

end Process

end FrameGraph
