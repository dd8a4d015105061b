import FrameGraph.Proofs.Negotiation
import FrameGraph.Proofs.Scaler.Projection

/-!
# Which requests are granted, and with what

A request is granted when nothing speaks against its kind, its size, its place and its rate. What is granted has the
size of a best fit on either axis, hence an honest one.

* `bestFit_honest`: a fit is in lowest terms, its size is that of its ratio, and it is neither empty nor enlarged.
* `Source.granted_size_honest`: so are both axes of an answer to a request with a size.
* `Source.Offers`, `Source.Covers`: what a request has to be to be granted, without and with its rate.
* `Source.granted_iff`: these decide it where the rates are numbers. `Source.granted_nan`: only there.
-/

namespace FrameGraph
set_option autoImplicit false
open Number

/-! ## Sizes -/

theorem bestFit_honest {input requested : UInt32} {fit : Fit} (h : bestFit input requested = some fit) :
    fit.ratio.numerator.toNat.Coprime fit.ratio.denominator.toNat ∧ fit.achieved = fit.ratio.apply input ∧
      1 ≤ fit.achieved ∧ fit.achieved ≤ input := by
  obtain ⟨⟨hpos, hle, -⟩, hbest⟩ := bestFit_eq_some_iff.mp h
  have hachieved := hbest.achieved_pos hpos (Nat.lt_of_lt_of_le hpos hle)
  have hreaches := reaches_of_bestFit h
  exact ⟨hbest.coprime, hreaches.2, UInt32.le_iff_toNat_le.mpr hachieved, hreaches.le⟩

namespace Source

/-- An answer to a request with a size has ratios in lowest terms and the size that they make of the source, which is not
empty on either axis and not larger than the source. -/
theorem granted_size_honest {source : Source} {request : Request} {size : Size} {spec : OutputSpec}
    (hsize : request.size = some size) (h : source.resolve request = .ok spec) :
    spec.horizontal.numerator.toNat.Coprime spec.horizontal.denominator.toNat ∧
    spec.vertical.numerator.toNat.Coprime spec.vertical.denominator.toNat ∧
    spec.size.width = spec.horizontal.apply source.size.width ∧
    spec.size.height = spec.vertical.apply source.size.height ∧
    (1 ≤ spec.size.width ∧ spec.size.width ≤ source.size.width) ∧
    (1 ≤ spec.size.height ∧ spec.size.height ≤ source.size.height) := by
  obtain ⟨-, hfit, -⟩ := resolve_eq_ok_iff.mp h
  rw [hsize] at hfit
  obtain ⟨hacross, hdown⟩ := fit_eq_ok_iff.mp hfit
  obtain ⟨hhorizontal, hwidth, hwide⟩ := bestFit_honest hacross
  obtain ⟨hvertical, hheight, hhigh⟩ := bestFit_honest hdown
  exact ⟨hhorizontal, hvertical, hwidth, hheight, hwide, hhigh⟩

/-- Both axes are shorter than the largest denominator, so the smallest ratio would make nothing of them. -/
theorem granted_size_honest_short :
    let source : Source := ⟨[.imgFrame], .device, ⟨5, 40⟩, .ofNat 30⟩
    let spec : OutputSpec := ⟨.imgFrame, ⟨2, 1⟩, ⟨1, 2⟩, ⟨1, 21⟩, .ofNat 30, .device⟩
    source.resolve { kind := .imgFrame, size := some ⟨2, 1⟩ } = .ok spec ∧
      spec.vertical.numerator.toNat.Coprime spec.vertical.denominator.toNat ∧
      spec.size.height = spec.vertical.apply source.size.height ∧ 1 ≤ spec.size.height := by
  intro source spec
  have hacross : bestFit 5 2 = some ⟨⟨1, 2⟩, 2⟩ := by decide +kernel
  have hdown : bestFit 40 1 = some ⟨⟨1, 21⟩, 1⟩ := by decide +kernel
  have h : source.resolve { kind := .imgFrame, size := some ⟨2, 1⟩ } = .ok spec :=
    resolve_eq_ok_iff.mpr ⟨List.mem_singleton_self _, fit_eq_ok_iff.mpr ⟨hacross, hdown⟩, rfl, rfl, rfl, rfl⟩
  obtain ⟨-, hvertical, -, hheight, -, hhigh⟩ := granted_size_honest rfl h
  exact ⟨h, hvertical, hheight, hhigh.1⟩

/-! ## Grants -/

/-- The source makes the kind where it is asked for, and the scaler reaches both axes of a size. -/
structure Offers (source : Source) (request : Request) : Prop where
  kind : request.kind ∈ source.kinds
  across : ∀ size, request.size = some size → ∃ fit, bestFit source.size.width size.width = some fit
  down : ∀ size, request.size = some size → ∃ fit, bestFit source.size.height size.height = some fit
  residency : request.residency = source.residency

/-- A rate above zero and not above that of the source. -/
def Covers (source : Source) (rate : Single) : Prop :=
  rate.isPositive = true ∧ rate.AtMost source.fps

theorem exists_fit_iff {source : Source} {requested : Option Size} : (∃ reached, source.fit requested = .ok reached) ↔
    ∀ size, requested = some size → (∃ fit, bestFit source.size.width size.width = some fit) ∧
      ∃ fit, bestFit source.size.height size.height = some fit := by
  cases requested with
  | none => exact ⟨fun _ _ hnone => (nomatch hnone), fun _ => ⟨_, rfl⟩⟩
  | some requested =>
    constructor
    · rintro ⟨⟨size, horizontal, vertical⟩, h⟩ _ ⟨⟩
      obtain ⟨hacross, hdown⟩ := fit_eq_ok_iff.mp h
      exact ⟨⟨_, hacross⟩, ⟨_, hdown⟩⟩
    · intro h
      obtain ⟨⟨across, hacross⟩, ⟨down, hdown⟩⟩ := h requested rfl
      exact ⟨(⟨across.achieved, down.achieved⟩, across.ratio, down.ratio), fit_eq_ok_iff.mpr ⟨hacross, hdown⟩⟩

theorem exists_rate_iff {source : Source} {requested : Option Single} : (∃ fps, source.rate requested = .ok fps) ↔
    ∀ rate, requested = some rate →
      rate = .nan ∨ rate.isPositive = true ∧ (source.fps = .nan ∨ rate.AtMost source.fps) := by
  cases requested with
  | none => exact ⟨fun _ _ hnone => (nomatch hnone), fun _ => ⟨_, rfl⟩⟩
  | some requested =>
    constructor
    · rintro ⟨fps, h⟩ _ ⟨⟩
      exact (rate_eq_ok_iff.mp h).2
    · intro h
      exact ⟨requested, rate_eq_ok_iff.mpr ⟨rfl, h requested rfl⟩⟩

theorem exists_resolve_iff {source : Source} {request : Request} : (∃ spec, source.resolve request = .ok spec) ↔
    source.Offers request ∧ ∃ fps, source.rate request.fps = .ok fps := by
  constructor
  · rintro ⟨spec, h⟩
    obtain ⟨hkind, hfit, hresidency, hrate, -⟩ := resolve_eq_ok_iff.mp h
    have hreached := exists_fit_iff.mp ⟨_, hfit⟩
    exact ⟨⟨hkind, fun size hsize => (hreached size hsize).1, fun size hsize => (hreached size hsize).2, hresidency⟩,
      _, hrate⟩
  · rintro ⟨hoffers, fps, hrate⟩
    obtain ⟨⟨size, horizontal, vertical⟩, hfit⟩ :=
      exists_fit_iff.mpr fun size hsize => ⟨hoffers.across size hsize, hoffers.down size hsize⟩
    exact ⟨⟨request.kind, size, horizontal, vertical, fps, source.residency⟩,
      resolve_eq_ok_iff.mpr ⟨hoffers.kind, hfit, hoffers.residency, hrate, rfl, rfl⟩⟩

/-- Where both rates are numbers, the comparisons let nothing else pass. -/
theorem covers_iff {source : Source} {rate : Single} (hrate : rate ≠ .nan) (hsource : source.fps ≠ .nan) :
    rate = .nan ∨ rate.isPositive = true ∧ (source.fps = .nan ∨ rate.AtMost source.fps) ↔ source.Covers rate := by
  simp [Covers, hrate, hsource]

/-- A request is granted exactly when the source offers it and no comparison speaks against its rate. For rates that are
numbers this means that the source covers the rate. What is granted is of the requested kind, place and rate. -/
theorem granted_iff (source : Source) (request : Request) :
    ((∃ spec, source.resolve request = .ok spec) ↔ source.Offers request ∧ ∀ rate, request.fps = some rate →
      rate = .nan ∨ rate.isPositive = true ∧ (source.fps = .nan ∨ rate.AtMost source.fps)) ∧
    (request.fps ≠ some .nan → source.fps ≠ .nan → ((∃ spec, source.resolve request = .ok spec) ↔
      source.Offers request ∧ ∀ rate, request.fps = some rate → source.Covers rate)) ∧
    ∀ spec, source.resolve request = .ok spec → spec.kind = request.kind ∧ spec.residency = request.residency ∧
      ∀ rate, request.fps = some rate → spec.fps = rate := by
  have hgranted : (∃ spec, source.resolve request = .ok spec) ↔ source.Offers request ∧ _ :=
    exists_resolve_iff.trans (and_congr_right fun _ => exists_rate_iff)
  refine ⟨hgranted, fun hrequest hsource => ?_, fun spec h => ?_⟩
  · have hcovers (rate : Single) (hrate : request.fps = some rate) :=
      covers_iff (fun hnan => hrequest (hnan ▸ hrate)) hsource
    exact hgranted.trans (and_congr_right fun _ => forall₂_congr hcovers)
  · obtain ⟨-, -, hresidency, hrate, hkind, hplace⟩ := resolve_eq_ok_iff.mp h
    refine ⟨hkind, hplace.trans hresidency.symm, fun rate hrequested => ?_⟩
    rw [hrequested] at hrate
    exact (rate_eq_ok_iff.mp hrate).1

/-- Half the size at half the rate. -/
theorem granted_iff_half :
    let source : Source := ⟨[.imgFrame], .device, ⟨1280, 800⟩, .ofNat 30⟩
    let request : Request := { kind := .imgFrame, size := some ⟨640, 400⟩, fps := some (.ofNat 15) }
    request.fps ≠ some .nan ∧ source.fps ≠ .nan ∧ source.Offers request ∧ source.Covers (.ofNat 15) ∧
      ∃ spec, source.resolve request = .ok spec ∧ spec.kind = .imgFrame ∧ spec.fps = .ofNat 15 := by
  intro source request
  let spec : OutputSpec := ⟨.imgFrame, ⟨640, 400⟩, ⟨1, 2⟩, ⟨1, 2⟩, .ofNat 15, .device⟩
  have hacross : bestFit 1280 640 = some ⟨⟨1, 2⟩, 640⟩ := by decide +kernel
  have hdown : bestFit 800 400 = some ⟨⟨1, 2⟩, 400⟩ := by decide +kernel
  have h : source.resolve request = .ok spec :=
    resolve_eq_ok_iff.mpr ⟨List.mem_singleton_self _, fit_eq_ok_iff.mpr ⟨hacross, hdown⟩, rfl, by rfl, rfl, rfl⟩
  have hrequest : request.fps ≠ some .nan := nofun
  have hsource : source.fps ≠ .nan := nofun
  obtain ⟨-, hnumbers, hanswer⟩ := granted_iff source request
  obtain ⟨hoffers, hcovers⟩ := (hnumbers hrequest hsource).mp ⟨spec, h⟩
  exact ⟨hrequest, hsource, hoffers, hcovers _ rfl, spec, h, (hanswer spec h).1, (hanswer spec h).2.2 _ rfl⟩

/-- A rate that is not a number is granted, and the output is to run at it. -/
theorem granted_nan :
    let source : Source := ⟨[.imgFrame], .device, ⟨1280, 800⟩, .ofNat 30⟩
    source.resolve { kind := .imgFrame, fps := some .nan } =
      .ok ⟨.imgFrame, ⟨1280, 800⟩, .identity, .identity, .nan, .device⟩ ∧
    ¬∀ (source : Source) (request : Request), (∃ spec, source.resolve request = .ok spec) ↔
      source.Offers request ∧ ∀ rate, request.fps = some rate → source.Covers rate := by
  intro source
  have h : source.resolve { kind := .imgFrame, fps := some .nan } =
      .ok ⟨.imgFrame, ⟨1280, 800⟩, .identity, .identity, .nan, .device⟩ := by rfl
  refine ⟨h, fun hclaim => ?_⟩
  obtain ⟨-, hcovers⟩ := (hclaim source { kind := .imgFrame, fps := some .nan }).mp ⟨_, h⟩
  exact absurd (hcovers .nan rfl).1 (by decide)

end Source

end FrameGraph
