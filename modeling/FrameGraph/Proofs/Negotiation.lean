import FrameGraph.Negotiation
import FrameGraph.Proofs.Graph.Outcomes
import FrameGraph.Proofs.Number.Order
import FrameGraph.Proofs.Scaler

/-!
# What a source agrees to

* `Source.resolve_eq_ok_iff`: all that is said by an answer. `Source.fit_eq_ok_iff`, `Source.rate_eq_ok_iff`: its size and
  its rate.
* `Source.Delivers`: an output is one that a source can make. `Source.delivers_of_resolve`: so is every answer.
* `Request.sameProfile_symm`, `Request.sameProfile_trans`: requests with one profile, which may differ from themselves.
* `Request.plain`: a request with no sign on a rate of zero. Two of one profile differ in their names at most then.
* `Source.isOk_resolve_congr`: a source agrees to both of two requests of one profile, or to neither.
-/

namespace FrameGraph
set_option autoImplicit false
open Number

/-! ## Answers -/

namespace Source

theorem resolve_eq_ok_iff {source : Source} {request : Request} {spec : OutputSpec} :
    source.resolve request = .ok spec ↔ request.kind ∈ source.kinds ∧
      source.fit request.size = .ok (spec.size, spec.horizontal, spec.vertical) ∧
      request.residency = source.residency ∧ source.rate request.fps = .ok spec.fps ∧
      spec.kind = request.kind ∧ spec.residency = source.residency := by
  constructor
  · intro h
    rw [resolve] at h
    split at h
    · rename_i hkind
      obtain ⟨⟨size, horizontal, vertical⟩, hfit, h⟩ := ok_of_bind h
      dsimp only at h
      split at h
      · rename_i hresidency
        obtain ⟨fps, hrate, h⟩ := ok_of_bind h
        cases h
        exact ⟨List.contains_iff_mem.mp hkind, hfit, hresidency, hrate, rfl, rfl⟩
      · cases h
    · cases h
  · rintro ⟨hkind, hfit, hresidency, hrate, hsame, hsame'⟩
    obtain ⟨kind, size, horizontal, vertical, fps, residency⟩ := spec
    dsimp only at hfit hrate hsame hsame'
    subst hsame hsame'
    rw [resolve, if_pos (List.contains_iff_mem.mpr hkind)]
    simp only [hfit, bind, Except.bind, if_pos hresidency, hrate]
    rfl

/-- The source makes the kind of the output, the scaler its size, and the rate is not above that of the source. -/
structure Delivers (source : Source) (spec : OutputSpec) : Prop where
  kind : spec.kind ∈ source.kinds
  across : Fit.Reaches ⟨spec.horizontal, spec.size.width⟩ source.size.width
  down : Fit.Reaches ⟨spec.vertical, spec.size.height⟩ source.size.height
  rate : ∀ own rate, source.fps.place = some own → spec.fps.place = some rate → rate ≤ own

theorem fitAxis_eq_ok_iff {axis : Axis} {input requested : UInt32} {fit : Fit} :
    fitAxis axis input requested = .ok fit ↔ bestFit input requested = some fit := by
  unfold fitAxis
  split
  · rename_i hfit
    rw [hfit, Except.ok.injEq, Option.some.injEq]
  · rename_i hnone
    simp [hnone]

theorem fit_eq_ok_iff {source : Source} {requested size : Size} {horizontal vertical : Ratio} :
    source.fit (some requested) = .ok (size, horizontal, vertical) ↔
      bestFit source.size.width requested.width = some ⟨horizontal, size.width⟩ ∧
      bestFit source.size.height requested.height = some ⟨vertical, size.height⟩ := by
  constructor
  · intro h
    obtain ⟨across, hacross, h⟩ := ok_of_bind h
    obtain ⟨down, hdown, h⟩ := ok_of_bind h
    cases h
    exact ⟨fitAxis_eq_ok_iff.mp hacross, fitAxis_eq_ok_iff.mp hdown⟩
  · rintro ⟨hacross, hdown⟩
    rw [fit, fitAxis_eq_ok_iff.mpr hacross, fitAxis_eq_ok_iff.mpr hdown]
    rfl

/-- A rate passes unless a comparison speaks against it, so what is not a number passes, and by a source whose rate is
not a number all positive rates do. -/
theorem rate_eq_ok_iff {source : Source} {requested fps : Single} : source.rate (some requested) = .ok fps ↔
    fps = requested ∧
      (requested = .nan ∨ requested.isPositive = true ∧ (source.fps = .nan ∨ requested.AtMost source.fps)) := by
  have hpassed : (requested.below (.zero false) || requested.equals (.zero false) || source.fps.below requested) = false ↔
      requested = .nan ∨ requested.isPositive = true ∧ (source.fps = .nan ∨ requested.AtMost source.fps) := by
    rw [Bool.or_eq_false_iff, Floating.not_below_iff, Floating.not_atMost_zero_iff, ← or_and_left]
  rw [rate, ← hpassed]
  split
  · rename_i hrefused
    simp [hrefused]
  · rename_i hgranted
    simp [hgranted, eq_comm]

theorem reaches_of_fit {source : Source} {requested : Option Size} {size : Size} {horizontal vertical : Ratio}
    (h : source.fit requested = .ok (size, horizontal, vertical)) :
    Fit.Reaches ⟨horizontal, size.width⟩ source.size.width ∧ Fit.Reaches ⟨vertical, size.height⟩ source.size.height := by
  have hidentity (input : UInt32) : Fit.Reaches ⟨.identity, input⟩ input :=
    ⟨Ratio.mem_candidates.mpr Ratio.identity_settable, (Ratio.apply_identity input).symm⟩
  cases requested with
  | none =>
    cases h
    exact ⟨hidentity _, hidentity _⟩
  | some requested =>
    obtain ⟨hacross, hdown⟩ := fit_eq_ok_iff.mp h
    exact ⟨reaches_of_bestFit hacross, reaches_of_bestFit hdown⟩

theorem place_le_of_rate {source : Source} {requested : Option Single} {fps : Single}
    (h : source.rate requested = .ok fps) :
    ∀ own rate, source.fps.place = some own → fps.place = some rate → rate ≤ own := by
  intro own rate hown hrate
  cases requested with
  | none =>
    cases h
    exact Int.le_of_eq (Option.some.inj (hrate.symm.trans hown))
  | some requested =>
    obtain ⟨rfl, rfl | ⟨-, hsource | hle⟩⟩ := rate_eq_ok_iff.mp h
    · cases hrate
    · rw [hsource] at hown
      cases hown
    · obtain ⟨p, q, hp, hq, hle⟩ := Floating.atMost_iff.mp hle
      cases hrate.symm.trans hp
      cases hown.symm.trans hq
      exact hle

theorem delivers_of_resolve {source : Source} {request : Request} {spec : OutputSpec}
    (h : source.resolve request = .ok spec) : source.Delivers spec := by
  obtain ⟨hkind, hfit, -, hrate, hsame, -⟩ := resolve_eq_ok_iff.mp h
  obtain ⟨hacross, hdown⟩ := reaches_of_fit hfit
  exact ⟨hsame ▸ hkind, hacross, hdown, place_le_of_rate hrate⟩

end Source

/-! ## The same profile -/

namespace Request

theorem sameRate_iff {a b : Option Single} : sameRate a b = true ↔
    a = none ∧ b = none ∨ ∃ x y p, a = some x ∧ b = some y ∧ x.place = some p ∧ y.place = some p := by
  cases a <;> cases b <;> simp [sameRate, Floating.equals_iff]

theorem sameRate_symm {a b : Option Single} (h : sameRate a b = true) : sameRate b a = true := by
  obtain ⟨rfl, rfl⟩ | ⟨x, y, p, rfl, rfl, hx, hy⟩ := sameRate_iff.mp h
  · rfl
  · exact sameRate_iff.mpr (.inr ⟨y, x, p, rfl, rfl, hy, hx⟩)

theorem sameRate_trans {a b c : Option Single} (h : sameRate a b = true) (h' : sameRate b c = true) :
    sameRate a c = true := by
  obtain ⟨rfl, rfl⟩ | ⟨x, y, p, rfl, rfl, hx, hy⟩ := sameRate_iff.mp h
  · exact h'
  · obtain ⟨hnone, -⟩ | ⟨_, z, q, hsame, rfl, hy', hz⟩ := sameRate_iff.mp h'
    · cases hnone
    · cases hsame
      obtain rfl : p = q := Option.some.inj (hy.symm.trans hy')
      exact sameRate_iff.mpr (.inr ⟨x, z, p, rfl, rfl, hx, hz⟩)

theorem sameProfile_iff {a b : Request} :
    a.sameProfile b = true ↔ a.kind = b.kind ∧ a.size = b.size ∧ sameRate a.fps b.fps = true ∧
      a.residency = b.residency := by
  simp [sameProfile, and_assoc]

theorem sameProfile_symm {a b : Request} (h : a.sameProfile b = true) : b.sameProfile a = true := by
  obtain ⟨hkind, hsize, hrate, hresidency⟩ := sameProfile_iff.mp h
  exact sameProfile_iff.mpr ⟨hkind.symm, hsize.symm, sameRate_symm hrate, hresidency.symm⟩

theorem sameProfile_trans {a b c : Request} (h : a.sameProfile b = true) (h' : b.sameProfile c = true) :
    a.sameProfile c = true := by
  obtain ⟨hkind, hsize, hrate, hresidency⟩ := sameProfile_iff.mp h
  obtain ⟨hkind', hsize', hrate', hresidency'⟩ := sameProfile_iff.mp h'
  exact sameProfile_iff.mpr
    ⟨hkind.trans hkind', hsize.trans hsize', sameRate_trans hrate hrate', hresidency.trans hresidency'⟩

/-- What is like one of two requests with one profile is like the other. -/
theorem sameProfile_congr {a b : Request} (h : a.sameProfile b = true) (c : Request) :
    c.sameProfile a = c.sameProfile b :=
  Bool.eq_iff_iff.mpr ⟨fun hc => sameProfile_trans hc h, fun hc => sameProfile_trans hc (sameProfile_symm h)⟩

/-- A rate of zero has no sign. -/
def plain (r : Request) : Request :=
  { r with fps := r.fps.map Floating.unsigned }

theorem plain_eq_of_sameProfile {a b : Request} (h : a.sameProfile b = true) (hname : a.name = b.name) :
    a.plain = b.plain := by
  obtain ⟨hkind, hsize, hrate, hresidency⟩ := sameProfile_iff.mp h
  have hfps : a.fps.map Floating.unsigned = b.fps.map Floating.unsigned := by
    obtain ⟨ha, hb⟩ | ⟨x, y, p, ha, hb, hx, hy⟩ := sameRate_iff.mp hrate
    · rw [ha, hb]
    · rw [ha, hb, Option.map_some, Option.map_some, Floating.unsigned_eq_of_place hx hy]
  unfold plain
  rw [hkind, hsize, hfps, hresidency, hname]

/-- A request that is not plain is of one profile with the plain one. -/
theorem plain_cases (r : Request) : r.plain = r ∨ r.sameProfile r.plain = true := by
  cases hfps : r.fps with
  | none => exact .inl (by unfold plain; rw [hfps, Option.map_none, ← hfps])
  | some x =>
    rcases x.unsigned_cases with hsame | hequals
    · exact .inl (by unfold plain; rw [hfps, Option.map_some, hsame, ← hfps])
    · have hrate : sameRate r.fps r.plain.fps = true := by
        rw [plain, hfps]
        exact hequals
      exact .inr (sameProfile_iff.mpr ⟨rfl, rfl, hrate, rfl⟩)

theorem sameProfile_of_plain {a b : Request} (h : a.plain = b.plain) (hself : b.sameProfile b = true) :
    a.sameProfile b = true := by
  have hb : b.plain.sameProfile b = true := by
    rcases b.plain_cases with hsame | hlike
    · rwa [hsame]
    · exact sameProfile_symm hlike
  rcases a.plain_cases with hsame | hlike
  · rwa [← hsame, h]
  · exact sameProfile_trans hlike (h ▸ hb)

theorem sameProfile_plain (r : Request) : r.plain.sameProfile r.plain = r.sameProfile r := by
  rcases r.plain_cases with hsame | hlike
  · rw [hsame]
  · rw [sameProfile_trans (sameProfile_symm hlike) hlike, sameProfile_trans hlike (sameProfile_symm hlike)]

end Request

namespace Source

theorem place_pos_of_rate {source : Source} {x fps : Single} (h : source.rate (some x) = .ok fps) {p : Int}
    (hx : x.place = some p) : 0 < p := by
  obtain ⟨-, rfl | ⟨hpositive, -⟩⟩ := rate_eq_ok_iff.mp h
  · cases hx
  · obtain ⟨q, hq, hpos⟩ := Floating.isPositive_iff.mp hpositive
    cases hx.symm.trans hq
    exact hpos

/-- The zeros are one rate, but neither is granted. -/
theorem eq_of_rate {source : Source} {a b : Option Single} {fps : Single} (h : source.rate a = .ok fps)
    (hsame : Request.sameRate a b = true) : a = b := by
  obtain ⟨rfl, rfl⟩ | ⟨x, y, p, rfl, rfl, hx, hy⟩ := Request.sameRate_iff.mp hsame
  · rfl
  · rw [Floating.eq_of_place_pos hx hy (place_pos_of_rate h hx)]

theorem eq_of_resolve {source : Source} {a b : Request} {spec : OutputSpec} (h : source.resolve a = .ok spec)
    (hsame : a.sameProfile b = true) (hname : a.name = b.name) : a = b := by
  obtain ⟨hkind, hsize, hrate, hresidency⟩ := Request.sameProfile_iff.mp hsame
  have hfps := eq_of_rate (resolve_eq_ok_iff.mp h).2.2.2.1 hrate
  cases a
  cases b
  simp_all

theorem isOk_resolve_congr (source : Source) {a b : Request} (hsame : a.sameProfile b = true)
    (hname : a.name = b.name) : (source.resolve a).isOk = (source.resolve b).isOk := by
  cases ha : source.resolve a with
  | ok spec => rw [← eq_of_resolve ha hsame hname, ha]
  | error e => cases hb : source.resolve b with
    | error e => rfl
    | ok spec =>
      rw [eq_of_resolve hb (Request.sameProfile_symm hsame) hname.symm, ha] at hb
      cases hb

end Source

end FrameGraph
