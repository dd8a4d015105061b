import FrameGraph.Proofs.Device.Moving

/-!
# Courses of a device

* `Device.along`: what is noted down move by move in a course. `Device.along_concat` is one move more.
* `Device.throughout`: whether something is true of the device all along a course.
* `Device.told`: the events that listeners have read or can still read, with `Device.told_concat`.
-/

namespace FrameGraph
set_option autoImplicit false

/-- The event that a thread publishes in a phase. -/
def Phase.news (c : Context) : Phase → List DeviceEvent
  | announcing _ => [.started c.node c.name]
  | failing error => [.failed c.node c.name error]
  | leaving => [.stopped c.node c.name]
  | entering _ | working _ | stopping | gone => []

namespace Device
variable {d next : Device} {moves : List Move} {m : Move}

/-! ## Move by move -/

theorem course_concat (d : Device) (moves : List Move) (m : Move) :
    d.course (moves ++ [m]) = (d.course moves).move m := by
  simp [course]

theorem course_append (d : Device) (before later : List Move) :
    d.course (before ++ later) = (d.course before).course later :=
  List.foldl_append

theorem served_course (d : Device) (moves : List Move) : (d.course moves).served = d.served := by
  induction moves generalizing d with
  | nil => rfl
  | cons m rest ih => exact (ih (d.move m)).trans (d.move_spec m).served

/-- Notes that are taken at every move, of the device before it. -/
def along {α : Type} (note : Device → Move → List α) (d : Device) : List Move → List α
  | [] => []
  | m :: rest => note d m ++ along note (d.move m) rest

theorem along_append {α : Type} (note : Device → Move → List α) (d : Device) (before later : List Move) :
    along note d (before ++ later) = along note d before ++ along note (d.course before) later := by
  induction before generalizing d with
  | nil => rfl
  | cons first rest ih =>
    have hcourse : d.course (first :: rest) = (d.move first).course rest := rfl
    rw [List.cons_append, along, along, ih, hcourse, List.append_assoc]

theorem along_concat {α : Type} (note : Device → Move → List α) (d : Device) (moves : List Move) (m : Move) :
    along note d (moves ++ [m]) = along note d moves ++ note (d.course moves) m := by
  rw [along_append, along, along, List.append_nil]

/-- Whether something is true of the device before every move of a course, and after the last one. -/
def throughout (p : Device → Bool) (d : Device) : List Move → Bool
  | [] => p d
  | m :: rest => p d && throughout p (d.move m) rest

theorem throughout_append (p : Device → Bool) (d : Device) (before later : List Move) :
    throughout p d (before ++ later) = (throughout p d before && throughout p (d.course before) later) := by
  induction before generalizing d with
  | nil => cases later <;> simp [throughout, course]
  | cons m rest ih => rw [List.cons_append, throughout, throughout, ih, Bool.and_assoc]; rfl

theorem of_throughout {p : Device → Bool} (h : throughout p d moves = true) {before : List Move}
    (hpre : before <+: moves) : p (d.course before) = true := by
  obtain ⟨later, rfl⟩ := hpre
  rw [throughout_append, Bool.and_eq_true] at h
  cases later with
  | nil => exact h.2
  | cons m rest => exact (Bool.and_eq_true_iff.mp h.2).1

/-! ## Events -/

def reads (d : Device) : Move → List DeviceEvent
  | .listen => d.events.head?.toList
  | _ => []

/-- The events that have been read, and those that wait to be read. -/
def told (d : Device) (moves : List Move) : List DeviceEvent :=
  along reads d moves ++ (d.course moves).events

/-- The event that a move publishes. -/
def news (d : Device) : Move → List DeviceEvent
  | .thread index => (d.threads[index]?.map fun t => t.phase.news t.context).getD []
  | .teardown _ => if d.closing = .joining ∧ ∀ t ∈ d.threads, t.phase.isGone = true then [.closed] else []
  | _ => []

theorem publish_of_room (hroom : d.events.length < d.eventCapacity) (event : DeviceEvent) :
    (d.publish event).events = d.events ++ [event] := by
  rw [publish, if_pos hroom]

/-- While there is room for an event, what is published is told. -/
theorem Step.told (h : d.Step m next) (hroom : d.events.length < d.eventCapacity) :
    d.reads m ++ next.events = d.events ++ d.news m := by
  cases h with
  | absent index hnone => simp [reads, news, hnone]
  | turn index t phase after ht hturn =>
    have hnews : d.news (.thread index) = t.phase.news t.context := by simp [news, ht]
    rw [hnews]
    generalize d.deed index = deed at hturn
    cases hturn with
    | announces body hphase | panics body hphase =>
      simp [reads, Phase.news, hphase, publish_of_room hroom, Thread.node, Thread.name]
    | fails error hphase => simp [reads, Phase.news, hphase, publish_of_room hroom, Thread.node, Thread.name]
    | leaves hphase => simp [reads, Phase.news, hphase, publish_of_room hroom, Thread.node, Thread.name]
    | enters _ hphase | works _ _ _ _ hphase | finishes _ _ hphase | stops hphase | rests hphase =>
      simp [reads, Phase.news, hphase, advanceState]
  | begins _ hclosing | closes _ _ _ hclosing | joins _ hclosing | isOver _ hclosing => simp [reads, news, hclosing]
  | waits pick t ht hclosing hthere =>
    have hnot : ¬∀ t ∈ d.threads, t.phase.isGone = true := fun hall => by simp [hall t ht] at hthere
    simp [reads, news, hnot]
  | finishes pick hclosing hgone =>
    have hevents : d.finishClosing.events = d.events ++ [.closed] := by
      rw [finishClosing]
      refine publish_of_room ?_ _
      exact hroom
    rw [news, if_pos ⟨hclosing, hgone⟩, hevents]
    rfl
  | call => simp [reads, news, Device.call]
  | listens => cases h : d.events <;> simp [reads, news, listen, h]
  | elapses => simp [reads, news, elapse]

theorem told_concat (d : Device) (moves : List Move) (m : Move)
    (hroom : (d.course moves).events.length < (d.course moves).eventCapacity) :
    d.told (moves ++ [m]) = d.told moves ++ (d.course moves).news m := by
  rw [Device.told, along_concat, course_concat, List.append_assoc, ((d.course moves).move_spec m).told hroom,
    ← List.append_assoc, Device.told]

end Device

end FrameGraph
