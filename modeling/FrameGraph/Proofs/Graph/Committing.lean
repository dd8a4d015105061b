import FrameGraph.Proofs.Graph.Registering
import FrameGraph.Proofs.Negotiation

/-!
# What a camera is committed to

A camera resolves a request by its settings of the moment, and keeps to the answer. Its settings may change after that.

* `Occurrence.SparesSource`: an occurrence leaves the size of the sensor and the rate of a camera alone.
* `Graph.source_after`: so does a course of such occurrences.
* `Graph.commitments_kept`: which source the registered outputs of a camera fit.
-/

namespace FrameGraph
set_option autoImplicit false
open Number

/-! ## Settings that do not change -/

/-- A camera that is changed makes its outputs from the same as before. -/
def Occurrence.SparesSource (id : NodeId) (occurrence : Occurrence) : Prop :=
  ∀ kind change, occurrence.adjustment? = some (id, kind, change) →
    ∀ c next : Camera, change (.camera c) = .camera next → next.source = c.source

theorem Node.Fate.source {occurrence : Occurrence} {id : NodeId} {n next : Node} (h : n.Fate occurrence id next)
    (hsettles : occurrence.Settles) (hspares : occurrence.SparesSource id) {c : Camera}
    (hbody : next.body = some (.camera c)) : ∃ old, n.body = some (.camera old) ∧ c.source = old.source := by
  cases h with
  | same | advanced | entered | requeued => exact ⟨c, hbody, rfl⟩
  | stripped => cases hbody
  | adjusted kind change body habout hheld =>
    have hchange : change body = .camera c := Option.some.inj hbody
    obtain ⟨config, rfl⟩ := hsettles id kind change habout body c hchange
    exact ⟨_, hheld, hspares kind change habout _ c hchange⟩
  | answered request m key spec =>
    obtain ⟨body, hheld, hregister⟩ := Option.map_eq_some_iff.mp hbody
    obtain ⟨old, rfl, rfl⟩ := Body.register_eq_camera hregister
    exact ⟨old, hheld, rfl⟩

namespace Graph

/-- What a camera makes its outputs from stays the same where no occurrence changes it. -/
theorem source_after {g : Graph} {later : List Occurrence} {id : NodeId} {n next : Node} {c last : Camera}
    (hsettles : ∀ occurrence ∈ later, occurrence.Settles) (hspares : ∀ occurrence ∈ later, occurrence.SparesSource id)
    (hn : g.nodes[id.index]? = some n) (hbody : n.body = some (.camera c))
    (hnext : (g.after later).nodes[id.index]? = some next) (hlast : next.body = some (.camera last)) :
    last.source = c.source := by
  induction later using List.reverseRecOn generalizing next last with
  | nil =>
    obtain rfl : n = next := Option.some.inj (hn.symm.trans hnext)
    rw [hbody] at hlast
    cases hlast
    rfl
  | append_singleton later occurrence ih =>
    rw [after_concat] at hnext
    rcases occurrence.fate hnext with ⟨old, hold, hfate⟩ | ⟨hnone, -⟩
    · obtain ⟨held, hheld, hsame⟩ := hfate.source (hsettles _ (by simp)) (hspares _ (by simp)) hlast
      rw [hsame]
      exact ih (fun o ho => hsettles o (List.mem_append_left _ ho)) (fun o ho => hspares o (List.mem_append_left _ ho))
        hold hheld
    · obtain ⟨m, hm, -⟩ := after_onward g later id.index n hn
      rw [hm] at hnone
      cases hnone

/-- Every registered output goes back to a request that the camera resolved, by its settings of then, to an output that
it could deliver: of a size that the scaler makes of that of the sensor, so not above it on either axis, and of a rate
not above its own. As long as the sensor and the rate are not changed after the request, the camera can still deliver
it. -/
theorem commitments_kept (course : List Occurrence) (hsettles : ∀ occurrence ∈ course, occurrence.Settles)
    (id : NodeId) (n : Node) (c : Camera) (hn : (({} : Graph).after course).nodes[id.index]? = some n)
    (hbody : n.body = some (.camera c)) :
    ∀ o ∈ c.dynamic, ∃ e ∈ n.negotiated, ∃ before later m old,
      course = before ++ .operation (.requestOutput id e.request) :: later ∧
      (({} : Graph).after before).nodes[id.index]? = some m ∧ m.body = some (.camera old) ∧
      old.source.resolve e.request = .ok o.spec ∧ old.source.Delivers o.spec ∧
      o.spec.size.width ≤ old.config.sensor.width ∧ o.spec.size.height ≤ old.config.sensor.height ∧
      ((∀ occurrence ∈ later, occurrence.SparesSource id) →
        c.source.Delivers o.spec ∧ o.spec.size.width ≤ c.config.sensor.width ∧
          o.spec.size.height ≤ c.config.sensor.height) := by
  intro o ho
  obtain ⟨e, he, hregisters⟩ := (attended hsettles hn hbody).made_of_registered ho
  obtain ⟨before, later, m, old, rfl, hm, hold, hresolve, -⟩ := hregisters.resolved
  have hdelivers := Source.delivers_of_resolve hresolve
  refine ⟨e, he, before, later, m, old, rfl, hm, hold, hresolve, hdelivers, hdelivers.across.le, hdelivers.down.le,
    fun hspares => ?_⟩
  rw [after_append] at hn
  have hspares : ∀ occurrence ∈ .operation (.requestOutput id e.request) :: later, occurrence.SparesSource id :=
    List.forall_mem_cons.mpr ⟨fun _ _ habout => (nomatch habout), hspares⟩
  have hsource := source_after (fun occurrence hmem => hsettles occurrence (List.mem_append_right _ hmem)) hspares hm hold
    hn hbody
  have hstill : c.source.Delivers o.spec := hsource ▸ hdelivers
  exact ⟨hstill, hstill.across.le, hstill.down.le⟩

/-- A camera gets another sensor and another preview, one before and one after a request. -/
theorem commitments_kept_preview_changed :
    let course : List Occurrence := [.operation (.create (.camera {})),
      .operation (.configure ⟨0⟩ (.camera (.sensorSize ⟨1280, 800⟩))),
      .operation (.requestOutput ⟨0⟩ { kind := .imgFrame, size := some ⟨640, 400⟩, fps := some (.ofNat 15) }),
      .operation (.configure ⟨0⟩ (.camera (.previewSize ⟨64, 64⟩)))]
    ∃ n c o, (({} : Graph).after course).nodes[0]? = some n ∧ n.body = some (.camera c) ∧ c.dynamic = [o] ∧
      c.config.sensor = ⟨1280, 800⟩ ∧ o.spec.size = ⟨640, 400⟩ ∧ c.source.Delivers o.spec := by
  intro course
  obtain ⟨n, c, o, hn, hbody, hdynamic, hsensor, hsize⟩ : ∃ n c o, (({} : Graph).after course).nodes[0]? = some n ∧
      n.body = some (.camera c) ∧ c.dynamic = [o] ∧ c.config.sensor = ⟨1280, 800⟩ ∧ o.spec.size = ⟨640, 400⟩ :=
    ⟨_, _, _, rfl, rfl, rfl, rfl, by decide +kernel⟩
  refine ⟨n, c, o, hn, hbody, hdynamic, hsensor, hsize, ?_⟩
  have hsettles : ∀ occurrence ∈ course, occurrence.Settles := by simp [course, Occurrence.settles_operation]
  obtain ⟨e, -, before, later, m, old, hcourse, -, -, -, -, -, -, hkept⟩ :=
    commitments_kept course hsettles ⟨0⟩ n c hn hbody o (by simp [hdynamic])
  -- The request is the third of four occurrences, so only the last one comes after it.
  have hlater : later = [.operation (.configure ⟨0⟩ (.camera (.previewSize ⟨64, 64⟩)))] := by
    rcases before with _ | ⟨_, _ | ⟨_, _ | ⟨_, _ | ⟨_, before⟩⟩⟩⟩ <;> simp [course] at hcourse
    exact hcourse.2.2.2.symm
  refine (hkept fun occurrence hoccurrence => ?_).1
  rw [hlater, List.mem_singleton] at hoccurrence
  subst hoccurrence
  intro kind change habout c next hchange
  cases habout
  cases hchange
  rfl

/-- The sensor is changed for a smaller one after a request. The output that was registered for it stays as it is, also when
the graph is built, and is larger than the sensor that the camera runs with. -/
theorem commitment_outgrown :
    let g := run {} [.create (.camera {}),
      .requestOutput ⟨0⟩ { kind := .imgFrame, size := some ⟨1280, 720⟩, fps := some (.ofNat 30) },
      .configure ⟨0⟩ (.camera (.sensorSize ⟨640, 400⟩)), .build]
    g.Reachable ∧ g.plan.isSome ∧
      ¬∀ (id : NodeId) (n : Node) (c : Camera), g.nodes[id.index]? = some n → n.body = some (.camera c) →
        ∀ o ∈ c.dynamic, o.spec.size.width ≤ c.config.sensor.width ∧ o.spec.size.height ≤ c.config.sensor.height := by
  intro g
  refine ⟨⟨_, rfl⟩, by decide +kernel, fun hfits => ?_⟩
  obtain ⟨n, c, o, hn, hbody, ho, hlarge⟩ : ∃ n c o, g.nodes[0]? = some n ∧ n.body = some (.camera c) ∧ o ∈ c.dynamic ∧
      ¬o.spec.size.width ≤ c.config.sensor.width := ⟨_, _, _, rfl, rfl, List.mem_cons_self, by decide +kernel⟩
  exact hlarge (hfits ⟨0⟩ n c hn hbody o ho).1

end Graph

end FrameGraph
