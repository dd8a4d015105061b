import FrameGraph.Proofs.Graph.Typing
import FrameGraph.Proofs.Process.Frames

/-!
# Kinds of the messages that nodes send

* `SendsKinds`: the work of a built-in node sends messages of the kinds that its outputs declare. A bridge from the host
  sends what it has taken from there, and has no say in the kinds.
* `Process.keeps_kinds`: this is true of a node throughout its run.
* `Process.Runs`: a node anywhere in a run, whatever is in the queues.
* `Body.CanSend`, `Body.declares_of_canSend`: the kinds that a node can send at a port.
-/

namespace FrameGraph
set_option autoImplicit false

/-! ## One message, one tick -/

namespace Work

/-- The kind of node that does the work; none does idle work. -/
def kind? : Work → Option NodeKind
  | camera _ => some .camera
  | neuralNetwork _ => some .neuralNetwork
  | streamSync _ => some .streamSync
  | xlinkIn _ => some .xlinkIn
  | xlinkOut _ => some .xlinkOut
  | producer _ => some .producer
  | idle => none

end Work

/-- What a node of a kind has sent at its ports is of the kinds that they declare. -/
def Suits (kind : NodeKind) (emissions : List Emission) : Prop :=
  ∀ e ∈ emissions, ∀ key, e.place = .port key → kind.declares key e.message.kind = true

theorem suits_nil (kind : NodeKind) : Suits kind [] :=
  fun _ he => nomatch he

namespace Shooting

theorem kind_of_shoot {s : Shooting} {timestamp : Nat} {e : Emission} (he : e ∈ (s.shoot timestamp).1) :
    e.message.kind = .imgFrame := by
  obtain ⟨_, _, _, rfl⟩ := emission_of_shoot he
  rfl

theorem suits_shoot (s : Shooting) (timestamp : Nat) : Suits .camera (s.shoot timestamp).1 := by
  intro e he key _
  rw [kind_of_shoot he]
  rfl

end Shooting

namespace NeuralNetwork

theorem passthroughOf_ne_out (key : String) : passthroughOf key ≠ "out" := by
  rw [passthroughOf]
  split
  · exact entry_ne_out _
  · decide

theorem suits_handle (c : NeuralNetworkConfig) (key : String) (m : Message) : Suits .neuralNetwork (handle c key m) := by
  intro e he port hport
  simp only [handle, List.mem_cons, List.not_mem_nil, or_false] at he
  obtain rfl | rfl := he
  · obtain rfl := Place.port.inj hport
    rfl
  · obtain rfl := Place.port.inj hport
    rw [NodeKind.declares, NodeKind.declared_neuralNetwork (passthroughOf_ne_out key)]
    simp [Accepted.accepts_any]

end NeuralNetwork

theorem StreamSync.suits (emissions : List Emission) : Suits .streamSync emissions := fun e _ _ _ => by
  simp [NodeKind.declares, NodeKind.declared, Accepted.accepts_any]

theorem XLinkInConfig.suits (emissions : List Emission) : Suits .xlinkIn emissions := fun e _ _ _ => by
  simp [NodeKind.declares, NodeKind.declared, Accepted.accepts_exactly, Kind.mem_all]

theorem XLinkInConfig.message_of_forward {c : XLinkInConfig} {m : Message} {e : Emission} (he : e ∈ c.forward m) :
    e.message = m := by
  rw [forward] at he
  split at he
  · rw [List.mem_singleton.mp he]
    rfl
  · cases he

theorem Forwarding.suits_forward (f : Forwarding) (now : Nat) (m : Message) : Suits .xlinkOut (f.forward now m) := by
  intro e he key hport
  rw [forward] at he
  split at he
  · cases he
  · obtain rfl := List.mem_singleton.mp he
    cases hport

theorem Production.suits_tick {p next : Production} {now : Nat} {emissions : List Emission}
    (h : p.tick? now = some (emissions, next)) : Suits .producer emissions := by
  intro e he key _
  rw [tick?] at h
  split at h
  · cases h
  · obtain ⟨rfl, -⟩ := Prod.mk.inj (Option.some.inj h)
    obtain rfl := List.mem_singleton.mp he
    rfl

namespace Work
variable {w next : Work} {kind : NodeKind}

theorem suits_receiveAtCamera (s : Shooting) (key : String) (m : Message) : Suits .camera (receiveAtCamera s key m).1 := by
  unfold receiveAtCamera
  split
  · exact suits_nil _
  · exact suits_nil _
  · exact s.suits_shoot _

theorem kind?_receive (w : Work) (now : Nat) (place : Place) (m : Message) :
    (w.receive now place m).2.kind? = w.kind? := by
  cases w <;> cases place <;> rfl

theorem kind?_handedOver (w : Work) (now : Nat) : (w.handedOver now).kind? = w.kind? := by
  cases w <;> rfl

/-- What is sent for a message. -/
theorem suits_receive (h : w.kind? = some kind) (now : Nat) (place : Place) (m : Message) :
    Suits kind (w.receive now place m).1 := by
  cases w with
  | idle => cases h
  | camera s =>
    cases h
    cases place with
    | host => exact suits_nil _
    | port key => exact suits_receiveAtCamera s key m
  | neuralNetwork c =>
    cases h
    cases place with
    | host => exact suits_nil _
    | port key => exact NeuralNetwork.suits_handle c key m
  | streamSync s =>
    cases h
    exact StreamSync.suits _
  | xlinkIn c =>
    cases h
    exact XLinkInConfig.suits _
  | xlinkOut f =>
    cases h
    cases place with
    | host => exact suits_nil _
    | port => exact f.suits_forward now m
  | producer p =>
    cases h
    exact suits_nil _

theorem brought_of_receive {now : Nat} {place : Place} {m : Message} (h : w.kind? = some .xlinkIn) {e : Emission}
    (he : e ∈ (w.receive now place m).1) : place = .host ∧ m = e.message := by
  cases w with
  | xlinkIn c =>
    cases place with
    | host => exact ⟨rfl, (XLinkInConfig.message_of_forward he).symm⟩
    | port => cases he
  | _ => cases h

/-- What is sent because a time has come. A bridge does not go by the clock. -/
theorem suits_tick (h : w.kind? = some kind) {now : Nat} {emissions : List Emission}
    (htick : w.tick? now = some (emissions, next)) : next.kind? = some kind ∧ Suits kind emissions ∧ kind ≠ .xlinkIn := by
  cases w with
  | camera s =>
    cases h
    obtain ⟨⟨frames, after⟩, hdue, hsame⟩ := Option.map_eq_some_iff.mp htick
    cases hsame
    rw [Shooting.tick?] at hdue
    split at hdue
    · cases hdue
    · cases hdue
      exact ⟨rfl, Shooting.suits_shoot _ now, by decide⟩
  | producer p =>
    cases h
    obtain ⟨⟨numbers, after⟩, hdue, hsame⟩ := Option.map_eq_some_iff.mp htick
    cases hsame
    exact ⟨rfl, Production.suits_tick hdue, by decide⟩
  | _ => cases htick

end Work

/-! ## Runs -/

/-- What work has come to that began as that of a node of a kind. -/
structure SendsKinds (kind : NodeKind) (w : Work) (took : List Intake) (sent : List Emission) : Prop where
  work : w = .idle ∨ w.kind? = some kind
  suits : Suits kind sent
  /-- A bridge from the host sends messages from there only. -/
  brought : kind = .xlinkIn → ∀ e ∈ sent, ∃ i ∈ took, i.place = .host ∧ i.message = e.message

theorem Suits.append {kind : NodeKind} {before emissions : List Emission} (hbefore : Suits kind before)
    (h : Suits kind emissions) : Suits kind (before ++ emissions) := fun e he =>
  (List.mem_append.mp he).elim (hbefore e) (h e)

namespace SendsKinds
variable {kind : NodeKind} {w next : Work} {took : List Intake} {sent emissions : List Emission}

theorem receive (h : SendsKinds kind w took sent) (now : Nat) (i : Intake) :
    SendsKinds kind (w.receive now i.place i.message).2 (took ++ [i]) (sent ++ (w.receive now i.place i.message).1) := by
  have hearlier (hbridge : kind = .xlinkIn) (e : Emission) (he : e ∈ sent) :
      ∃ j ∈ took ++ [i], j.place = .host ∧ j.message = e.message := by
    obtain ⟨j, hj, hbrought⟩ := h.brought hbridge e he
    exact ⟨j, List.mem_append_left _ hj, hbrought⟩
  rcases h.work with rfl | hkind
  · have hnone : sent ++ (Work.idle.receive now i.place i.message).1 = sent := List.append_nil sent
    exact ⟨.inl rfl, hnone.symm ▸ h.suits, fun hbridge e he => hearlier hbridge e (hnone ▸ he)⟩
  · refine ⟨.inr ((w.kind?_receive now i.place i.message).trans hkind),
      h.suits.append (Work.suits_receive hkind now i.place i.message), fun hbridge e he => ?_⟩
    rcases List.mem_append.mp he with he | he
    · exact hearlier hbridge e he
    · exact ⟨i, by simp, Work.brought_of_receive (hbridge ▸ hkind) he⟩

theorem tick {now : Nat} (h : SendsKinds kind w took sent) (htick : w.tick? now = some (emissions, next)) :
    SendsKinds kind next took (sent ++ emissions) := by
  rcases h.work with rfl | hkind
  · cases htick
  · obtain ⟨hnext, hsuits, hno⟩ := Work.suits_tick hkind htick
    exact ⟨.inr hnext, h.suits.append hsuits, fun hbridge => absurd hbridge hno⟩

theorem handedOver (h : SendsKinds kind w took sent) (now : Nat) : SendsKinds kind (w.handedOver now) took sent where
  work := by
    rcases h.work with rfl | hkind
    · exact .inl rfl
    · exact .inr ((w.kind?_handedOver now).trans hkind)
  suits := h.suits
  brought := h.brought

end SendsKinds

namespace Body
variable {body : Body} {kind : NodeKind}

theorem work_of_start (h : body.kind? = some kind) {c : Context} {now : Nat} {p : Process}
    (hstart : Process.start body c now = .ok p) : p.work = .idle ∨ p.work.kind? = some kind := by
  obtain ⟨beginning, hbegins, rfl⟩ := Process.begins_of_start hstart
  cases hbegins with
  | unfed | inUnserved | outUnserved => exact .inl rfl
  | idles | fails => cases h
  | _ => exact .inr h

end Body

namespace Process
variable {body : Body} {c : Context} {good : QueueStore Message → Prop} {inv : Process → List Act → Prop}

theorem keeps_kinds {kind : NodeKind} (h : body.kind? = some kind) : Keeps body c good fun p acts =>
    SendsKinds kind p.work (acts.flatMap Act.intake) (acts.flatMap Act.sent) :=
  keeps_of_relation (fun hstart => ⟨Body.work_of_start h hstart, suits_nil kind, fun _ _ he => nomatch he⟩)
    (fun now i h => h.receive now i) (fun h htick => h.tick htick) fun now h => h.handedOver now

/-- A node anywhere in a run. At each of its steps there may be anything in the queues. -/
inductive Runs (body : Body) (c : Context) : Process → Prop
  | start {p : Process} (now : Nat) (hstart : Process.start body c now = .ok p) : Runs body c p
  | step {p : Process} (h : Runs body c p) (now : Nat) (running : Bool) (store : QueueStore Message) :
    Runs body c (p.step now running store).2.1

theorem Keeps.of_runs (hkeeps : Keeps body c (fun _ => True) inv) {p : Process} (h : Runs body c p) :
    ∃ acts, inv p acts := by
  induction h with
  | start now hstart => exact ⟨[], hkeeps.start hstart⟩
  | step _ now running store ih =>
    obtain ⟨acts, hinv⟩ := ih
    exact ⟨_, hkeeps.step hinv trivial (Process.step_spec _ now running store)⟩

end Process

namespace Body

/-- In some run, in some surroundings, the node comes to send a message of a kind at the port with a key. -/
def CanSend (body : Body) (key : String) (sent : Kind) : Prop :=
  ∃ c p d, Process.Runs body c p ∧ d ∈ p.outbox ∧ d.place = .port key ∧ d.message.kind = sent

theorem declares_of_canSend {body : Body} {kind : NodeKind} (hkind : body.kind? = some kind) {key : String} {sent : Kind}
    (h : body.CanSend key sent) : kind.declares key sent = true := by
  obtain ⟨c, p, d, hruns, hd, hplace, rfl⟩ := h
  have hkeeps := (Process.keeps_kinds hkind).and (Process.keeps_sourced body c fun _ => True)
  obtain ⟨acts, hkinds, -, hsourced⟩ := hkeeps.of_runs hruns
  obtain ⟨e, he, hd⟩ := hsourced d (List.mem_append_right _ hd)
  obtain ⟨queue, -, rfl⟩ := List.mem_map.mp hd
  exact hkinds.suits e he key hplace

end Body

end FrameGraph
