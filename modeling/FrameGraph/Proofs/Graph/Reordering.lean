import FrameGraph.Proofs.Graph.Keys
import FrameGraph.Proofs.Negotiation

/-!
# Requests in any order

A node answers several requests one after the other. What an earlier one has added is an answer to a later one only if
both ask for the same, so the order is of no account but for the keys that are generated.

* `Plugin.Steady`: what a plugin has to be like for that. `Plugin.steady_offering`: those are that answer by the rule for
  sources.
* `Node.verdict`: whether a request is answered, as the node stands.
* `Node.fresh`: the requests that need a port of their own. `Node.fresh_perm`: they are the same in any order.
* `Node.Answering`: a node after some requests. `Node.Answering.request`: and after one more.
* `Graph.requestAll`: the answers to requests in their order.
* `Graph.requests_in_any_order`: the answers in any order.
-/

namespace FrameGraph
set_option autoImplicit false
open Number

/-! ## Nodes that make no difference between earlier and later requests -/

/-- What a plugin is told of does not change its answers, and it agrees to both of two requests that ask for the same, or
to neither. -/
structure Plugin.Steady (p : Plugin) : Prop where
  told : ∀ more, p.capability (p.registered ++ more) = p.capability p.registered
  alike : ∀ a b : Request, a.sameProfile b = true → a.name = b.name →
    (p.capability p.registered a).isOk = (p.capability p.registered b).isOk

theorem Plugin.steady_offering (source : Source) (p : Plugin) : (p.offering source).Steady where
  told _ := rfl
  alike _ _ := source.isOk_resolve_congr

theorem Plugin.Steady.register {p : Plugin} (h : p.Steady) (key : String) (spec : OutputSpec) :
    (p.register key spec).Steady where
  told more := by rw [Plugin.register, List.append_assoc, h.told, h.told]
  alike a b hsame hname := by
    rw [Plugin.register, h.told]
    exact h.alike a b hsame hname

namespace Node

/-- All built-in nodes are. -/
def Steady (n : Node) : Prop :=
  ∀ p, n.body = some (.plugin p) → p.Steady

theorem Steady.isOk_resolve_congr {n : Node} (h : n.Steady) {a b : Request} (hsame : a.sameProfile b = true)
    (hname : a.name = b.name) : (n.resolve a).isOk = (n.resolve b).isOk := by
  unfold resolve
  cases hbody : n.body with
  | none => rfl
  | some body => cases body with
    | camera camera => exact camera.source.isOk_resolve_congr hsame hname
    | plugin p => exact (h p hbody).alike a b hsame hname
    | _ => rfl

theorem Steady.register {n : Node} (h : n.Steady) (key : String) (spec : OutputSpec) :
    Steady { n with body := n.body.map (Body.register key spec) } := by
  intro p hp
  obtain ⟨body, hbody, hregister⟩ := Option.map_eq_some_iff.mp hp
  cases body with
  | plugin p =>
    cases hregister
    exact (h p hbody).register key spec
  | _ => cases hregister

theorem Steady.resolve_register {n : Node} (h : n.Steady) (key : String) (spec : OutputSpec) (request : Request) :
    resolve { n with body := n.body.map (Body.register key spec) } request = n.resolve request := by
  unfold resolve
  cases hbody : n.body with
  | none => rfl
  | some body => cases body with
    | plugin p => exact congrFun ((h p hbody).told _) request
    | _ => rfl

/-! ## Requests that need a port -/

/-- Whether a request without a name is answered, by a port that there is or by one that is made. -/
def verdict (n : Node) (request : Request) : Except NegotiationError Unit :=
  match n.answered? request with
  | some _ => .ok ()
  | none => do
    let _ ← n.requestMap request
    let _ ← n.resolve request
    return ()

/-- It is answered, but no port that there is will do. -/
def needsPort (n : Node) (request : Request) : Bool :=
  (n.answered? request).isNone && (n.verdict request).isOk

/-- The requests that a port has to be made for. The same one needs no second port, unless it differs from itself. -/
def fresh (n : Node) (requests : List Request) : List Request :=
  (requests.map Request.plain).foldl (fun fresh r =>
    if n.needsPort r && !(fresh.contains r && r.sameProfile r) then fresh ++ [r] else fresh) []

theorem fresh_concat (n : Node) (requests : List Request) (r : Request) :
    n.fresh (requests ++ [r]) =
      if n.needsPort r.plain && !((n.fresh requests).contains r.plain && r.plain.sameProfile r.plain) then
        n.fresh requests ++ [r.plain]
      else n.fresh requests := by
  rw [fresh, List.map_append, List.foldl_append]
  rfl

theorem count_fresh (n : Node) (requests : List Request) (r : Request) :
    (n.fresh requests).count r =
      if n.needsPort r then
        if r.sameProfile r then min 1 ((requests.map Request.plain).count r) else (requests.map Request.plain).count r
      else 0 := by
  induction requests using List.reverseRecOn with
  | nil => simp [fresh]
  | append_singleton requests last ih =>
    rw [fresh_concat, List.map_append, List.map_singleton, List.count_append, List.count_singleton]
    by_cases hlast : last.plain = r
    · subst hlast
      cases hneeds : n.needsPort last.plain with
      | false => simpa [hneeds] using ih
      | true =>
        cases hself : last.plain.sameProfile last.plain with
        | false => simpa [hneeds, hself] using ih
        | true =>
          simp only [hneeds, hself, if_true] at ih
          by_cases hmem : last.plain ∈ n.fresh requests
          · have hcount := List.count_pos_iff.mpr hmem
            have hone : (n.fresh requests).count last.plain = 1 := by omega
            simp [hmem, hone]
          · have hcount := List.count_eq_zero.mpr hmem
            simp [hmem, hcount]
    · have hother : (last.plain == r) = false := beq_false_of_ne hlast
      split <;> simp [hother, ih, List.count_append, List.count_singleton]

theorem length_fresh_le (n : Node) (requests : List Request) : (n.fresh requests).length ≤ requests.length := by
  induction requests using List.reverseRecOn with
  | nil => exact Nat.le_refl 0
  | append_singleton requests last ih =>
    rw [fresh_concat]
    split <;> simp only [List.length_append, List.length_singleton] <;> omega

theorem fresh_perm (n : Node) {requests others : List Request} (h : requests.Perm others) :
    (n.fresh requests).Perm (n.fresh others) :=
  List.perm_iff_count.mpr fun r => by rw [count_fresh, count_fresh, (h.map Request.plain).count_eq]

theorem mem_fresh {n : Node} {requests : List Request} {r : Request} (h : r ∈ n.fresh requests) :
    n.needsPort r = true ∧ r ∈ requests.map Request.plain := by
  have hcount := List.count_pos_iff.mpr h
  rw [count_fresh] at hcount
  split at hcount
  · rename_i hneeds
    refine ⟨hneeds, List.count_pos_iff.mp ?_⟩
    split at hcount <;> omega
  · omega

/-! ## One request -/

/-- The node after a request without a name for which a port was made. -/
def granted (n : Node) (id : NodeId) (request : Request) (m : PortMap) (spec : OutputSpec) : Node :=
  { n.withPort (n.outputPort m (n.freshKey m.name) spec) with
    body := n.body.map (Body.register (n.freshKey m.name) spec)
    negotiated := n.negotiated ++ [⟨request, n.freshKey m.name, .ofNode id n.ports.length⟩] }

theorem run_requestOutput_of_new {n : Node} (id : NodeId) {request : Request} (hmutable : n.state.isMutable = true)
    (hunnamed : request.name = none) (hnew : n.answered? request = none) :
    Edit.run n (requestOutput id request) = match n.requestMap request with
      | .error e => (.error e, n)
      | .ok m => match n.resolve request with
        | .error e => (.error e, n)
        | .ok spec =>
          if n.ports.length < maxPortsPerNode then (.ok (.ofNode id n.ports.length), n.granted id request m spec)
          else (.error (.portLimitReached n.name), n) := by
  have hrequestable : n.requestable = .ok () := if_pos hmutable
  have hkey (map : String) : n.keyFor map request = .ok (n.freshKey map) := by rw [keyFor, hunnamed]
  rw [requestOutput, Edit.run_bind, Edit.run_ask, hrequestable]
  simp only [Edit.run_get_bind, hnew]
  rw [Edit.run_bind, Edit.run_ask]
  cases n.requestMap request with
  | error e => rfl
  | ok m =>
    dsimp only
    rw [Edit.run_bind, Edit.run_ask, hkey]
    dsimp only
    rw [Edit.run_bind, Edit.run_ask]
    cases n.resolve request with
    | error e => rfl
    | ok spec =>
      dsimp only
      rw [Edit.run_get_bind, Edit.run_bind, run_addPort]
      by_cases hroom : n.ports.length < maxPortsPerNode
      · simp only [hroom, if_true]
        rfl
      · simp only [hroom, if_false]

theorem verdict_of_new {n : Node} {request : Request} (hnew : n.answered? request = none) :
    n.verdict request = match n.requestMap request with
      | .error e => .error e
      | .ok _ => match n.resolve request with
        | .error e => .error e
        | .ok _ => .ok () := by
  rw [verdict, hnew]
  cases n.requestMap request with
  | error e => rfl
  | ok m => cases n.resolve request <;> rfl

theorem needsPort_iff {n : Node} {request : Request} : n.needsPort request = true ↔
    n.answered? request = none ∧ ∃ m spec, n.requestMap request = .ok m ∧ n.resolve request = .ok spec := by
  rw [needsPort, Bool.and_eq_true, Option.isNone_iff_eq_none]
  refine and_congr_right fun hnew => ?_
  rw [verdict_of_new hnew]
  cases n.requestMap request with
  | error e => simp [Except.isOk, Except.toBool]
  | ok m => cases n.resolve request <;> simp [Except.isOk, Except.toBool]

/-! ## Ports of answers -/

/-- Answers have ports of their own, among those of the node. -/
structure Assigned (n : Node) : Prop where
  distinct : (n.negotiated.map fun e => e.port.position.val).Nodup
  bounded : ∀ e ∈ n.negotiated, e.port.position.val < n.ports.length

theorem Assigned.eq_of_port {n : Node} (h : n.Assigned) {a b : Negotiated} (ha : a ∈ n.negotiated)
    (hb : b ∈ n.negotiated) (hsame : a.port = b.port) : a = b :=
  List.inj_on_of_nodup_map h.distinct ha hb (by rw [hsame])

theorem Assigned.concat {n next : Node} (h : n.Assigned) (hroom : n.ports.length < maxPortsPerNode) {e : Negotiated}
    {id : NodeId} (hnegotiated : next.negotiated = n.negotiated ++ [e]) (hport : e.port = .ofNode id n.ports.length)
    (hlength : next.ports.length = n.ports.length + 1) : next.Assigned := by
  have hposition : e.port.position.val = n.ports.length := by
    rw [hport]
    exact PortId.ofNode_position hroom id
  constructor
  · rw [hnegotiated, List.map_append, List.map_singleton, ← List.concat_eq_append, hposition]
    refine List.Nodup.concat (fun hmem => ?_) h.distinct
    obtain ⟨old, hold, hsame⟩ := List.mem_map.mp hmem
    exact Nat.lt_irrefl _ (hsame ▸ h.bounded old hold)
  · rw [hnegotiated, hlength]
    intro other hother
    rcases List.mem_append.mp hother with hother | hother
    · exact Nat.lt_succ_of_lt (h.bounded other hother)
    · rw [List.mem_singleton.mp hother, hposition]
      exact Nat.lt_succ_self _

theorem assigned_of_make {id : NodeId} {name : String} {body : Body} {n : Node} (h : make id name body = .ok n) :
    n.Assigned := by
  rw [eq_of_make h]
  exact ⟨List.nodup_nil, fun _ he => nomatch he⟩

theorem lasting_assigned : Lasting Assigned where
  revised {n next id} hnext h := by
    cases hnext with
    | body => exact { h with }
    | entry m key =>
      refine ⟨h.distinct, fun e he => ?_⟩
      simpa [withPort] using Nat.lt_succ_of_lt (h.bounded e he)
    | queue => exact ⟨h.distinct, by simpa using h.bounded⟩
    | request request m key spec _ _ _ _ hroom => exact h.concat hroom rfl rfl (by simp [withPort])
  stripped h := { h with }
  advanced _ h := { h with }

/-! ## Several requests -/

theorem answered?_mono {n next : Node} (h : n.negotiated <+: next.negotiated) {request : Request} {e : Negotiated}
    (he : n.answered? request = some e) : next.answered? request = some e := by
  obtain ⟨rest, hrest⟩ := h
  unfold answered? at he ⊢
  rw [← hrest, List.find?_append, he]
  rfl

/-- Requests without a name that ask for the same have the same answer. -/
theorem answered?_congr (n : Node) {a b : Request} (h : a.sameProfile b = true) (ha : a.name = none) (hb : b.name = none) :
    n.answered? a = n.answered? b := by
  unfold answered?
  congr 1
  funext e
  rw [ha, hb, Request.sameProfile_congr h]

theorem sameProfile_of_answered {n : Node} {request : Request} {e : Negotiated} (h : n.answered? request = some e) :
    e ∈ n.negotiated ∧ e.request.sameProfile request = true := by
  have hfound := List.find?_some h
  simp only [Bool.and_eq_true] at hfound
  exact ⟨List.mem_of_find?_eq_some h, hfound.1⟩

theorem needsPort_eq (n : Node) (request : Request) : n.needsPort request =
    ((n.answered? request).isNone && (n.outputMap?.isSome && (n.resolve request).isOk)) := by
  unfold needsPort verdict requestMap
  cases n.answered? request <;> cases n.outputMap? <;> cases n.resolve request <;> rfl

theorem Steady.needsPort_plain {n : Node} (h : n.Steady) {r : Request} (hr : r.name = none) :
    n.needsPort r.plain = n.needsPort r := by
  rcases r.plain_cases with hsame | hlike
  · rw [hsame]
  · rw [needsPort_eq, needsPort_eq, answered?_congr n hlike hr hr, h.isOk_resolve_congr hlike rfl]

/-- A node after some requests. What has been added answers the requests that needed a port, in their order. -/
structure Answering (n : Node) (id : NodeId) (order : List Request) (m : Node) (entries : List Negotiated) : Prop where
  unlike : n.Steady
  steady : m.Steady
  state : m.state = n.state
  maps : m.maps = n.maps
  resolve : ∀ r, m.resolve r = n.resolve r
  negotiated : m.negotiated = n.negotiated ++ entries
  fresh : entries.map (fun e => e.request.plain) = n.fresh order
  grown : n.ports <+: m.ports
  length : m.ports.length = n.ports.length + entries.length
  assigned : m.Assigned
  ports : ∀ e ∈ entries, ∃ map spec, n.outputMap? = some map ∧ n.resolve e.request = .ok spec ∧
    n.ports.length ≤ e.port.position.val ∧ e.port = .ofNode id e.port.position.val ∧
    m.ports[e.port.position.val]? = some (n.outputPort map e.key spec)

section
variable {n m : Node} {id : NodeId} {order : List Request} {entries : List Negotiated} {r : Request}

theorem answering_nil (hsteady : n.Steady) (hassigned : n.Assigned) : n.Answering id [] n [] where
  unlike := hsteady
  steady := hsteady
  state := rfl
  maps := rfl
  resolve _ := rfl
  negotiated := (List.append_nil _).symm
  fresh := rfl
  grown := List.prefix_refl _
  length := rfl
  assigned := hassigned
  ports _ he := nomatch he

theorem Answering.requestMap (h : n.Answering id order m entries) (r : Request) : m.requestMap r = n.requestMap r := by
  unfold Node.requestMap outputMap?
  rw [h.maps]

/-- Of what has been added, only the answer to the same request will do for a request. -/
theorem Answering.of_entry (h : n.Answering id order m entries) (hunnamed : ∀ r ∈ order, r.name = none)
    (hr : r.name = none) {e : Negotiated} (he : e ∈ entries) (hsame : e.request.sameProfile r = true) :
    e.request.plain = r.plain ∧ n.needsPort r = true ∧ r.plain ∈ n.fresh order := by
  have hfresh : e.request.plain ∈ n.fresh order := h.fresh ▸ List.mem_map_of_mem (f := fun e => e.request.plain) he
  obtain ⟨hneeds, horder⟩ := mem_fresh hfresh
  obtain ⟨own, hown, hplain⟩ := List.mem_map.mp horder
  have hname : e.request.name = none := (congrArg Request.name hplain).symm.trans (hunnamed own hown)
  have heq := Request.plain_eq_of_sameProfile hsame (hname.trans hr.symm)
  rw [heq] at hneeds hfresh
  exact ⟨heq, h.unlike.needsPort_plain hr ▸ hneeds, hfresh⟩

/-- A request that a port will do for is not counted. -/
theorem Answering.known (h : n.Answering id order m entries) (hunnamed : ∀ r ∈ order, r.name = none)
    (hr : r.name = none) {e : Negotiated} (he : m.answered? r = some e) :
    n.verdict r = .ok () ∧ n.fresh (order ++ [r]) = n.fresh order := by
  cases hold : n.answered? r with
  | some old =>
    refine ⟨by rw [verdict, hold], ?_⟩
    rw [fresh_concat, h.unlike.needsPort_plain hr, needsPort, hold]
    rfl
  | none =>
    obtain ⟨hmem, hsame⟩ := sameProfile_of_answered he
    rw [h.negotiated] at hmem
    rcases List.mem_append.mp hmem with hmem | hmem
    · -- The earlier ones are no answers to it.
      have hnone := List.find?_eq_none.mp hold e hmem
      simp [hsame, hr] at hnone
    · obtain ⟨-, hneeds, hfresh⟩ := h.of_entry hunnamed hr hmem hsame
      refine ⟨?_, ?_⟩
      · obtain ⟨hnew, map, spec, hmap, hspec⟩ := needsPort_iff.mp hneeds
        rw [verdict_of_new hnew, hmap]
        simp only [hspec]
      · have hself := Request.sameProfile_trans (Request.sameProfile_symm hsame) hsame
        rw [fresh_concat]
        simp [hfresh, Request.sameProfile_plain, hself]

theorem Answering.answered?_eq_none (h : n.Answering id order m entries) (hnone : m.answered? r = none) :
    n.answered? r = none := by
  cases hold : n.answered? r with
  | none => rfl
  | some e =>
    rw [answered?_mono (h.negotiated ▸ List.prefix_append _ _) hold] at hnone
    cases hnone

/-- A request that no port will do for is counted, if it is answered. -/
theorem Answering.fresh_new (h : n.Answering id order m entries) (hr : r.name = none) (hnone : m.answered? r = none) :
    n.fresh (order ++ [r]) = if n.needsPort r then n.fresh order ++ [r.plain] else n.fresh order := by
  have hunlike : ((n.fresh order).contains r.plain && r.plain.sameProfile r.plain) = false := by
    refine Bool.eq_false_iff.mpr fun hlike => ?_
    simp only [Bool.and_eq_true, List.contains_iff_mem, ← h.fresh, Request.sameProfile_plain] at hlike
    obtain ⟨hmem, hself⟩ := hlike
    obtain ⟨e, he, hrequest⟩ := List.mem_map.mp hmem
    have hsame := Request.sameProfile_of_plain hrequest hself
    have hnot := List.find?_eq_none.mp hnone e (h.negotiated ▸ List.mem_append_right _ he)
    simp [hsame, hr] at hnot
  rw [fresh_concat, hunlike, h.unlike.needsPort_plain hr]
  simp

/-- A request that is refused leaves nothing behind. -/
theorem Answering.refused (h : n.Answering id order m entries) (hr : r.name = none) (hnone : m.answered? r = none)
    {error : NegotiationError} (hverdict : n.verdict r = .error error) : n.Answering id (order ++ [r]) m entries := by
  have hneeds : n.needsPort r = false := by simp [needsPort, hverdict, Except.isOk, Except.toBool]
  exact { h with fresh := by rw [h.fresh, h.fresh_new hr hnone, hneeds]; rfl }

/-- A new port stands behind all others, with its answer behind all other answers. -/
theorem Answering.granted (h : n.Answering id order m entries) (hr : r.name = none) (hnone : m.answered? r = none)
    {map : PortMap} {spec : OutputSpec} (hmap : n.requestMap r = .ok map) (hspec : n.resolve r = .ok spec)
    (hfree : m.ports.length < maxPortsPerNode) :
    n.Answering id (order ++ [r]) (m.granted id r map spec)
      (entries ++ [⟨r, m.freshKey map.name, .ofNode id m.ports.length⟩]) := by
  have hnew := h.answered?_eq_none hnone
  have hneeds : n.needsPort r = true := needsPort_iff.mpr ⟨hnew, map, spec, hmap, hspec⟩
  have hposition := PortId.ofNode_position hfree id
  constructor
  case state => exact h.state
  case maps => exact h.maps
  case unlike => exact h.unlike
  case steady => exact h.steady.register _ _
  case resolve => exact fun other => (h.steady.resolve_register _ _ _).trans (h.resolve other)
  case negotiated => rw [Node.granted, h.negotiated, List.append_assoc]
  case fresh => rw [h.fresh_new hr hnone, hneeds, if_pos rfl, ← h.fresh, List.map_append, List.map_singleton]
  case grown => exact h.grown.trans (List.prefix_append _ _)
  case length => simp [Node.granted, withPort, h.length, Nat.add_assoc]
  case assigned => exact h.assigned.concat hfree rfl rfl (by simp [Node.granted, withPort])
  case ports =>
    intro e he
    rcases List.mem_append.mp he with he | he
    · obtain ⟨map, spec, hmap, hspec, hlow, hport, hat⟩ := h.ports e he
      exact ⟨map, spec, hmap, hspec, hlow, hport, withPort_getElem? hat⟩
    · rw [List.mem_singleton.mp he]
      have hsame : m.outputPort map (m.freshKey map.name) spec = n.outputPort map (m.freshKey map.name) spec := by
        rw [outputPort, outputPort, h.maps]
      refine ⟨map, spec, outputMap?_of_requestMap hmap, hspec, ?_, by rw [hposition], ?_⟩
      · rw [hposition, h.length]
        exact Nat.le_add_right _ _
      · simp [hposition, Node.granted, withPort, ← hsame]

/-- A request is answered by a port that there is, or refused, or answered by a new port. -/
theorem Answering.request (h : n.Answering id order m entries) (hmutable : n.state.isMutable = true)
    (hunnamed : ∀ r ∈ order, r.name = none) (hr : r.name = none)
    (hroom : n.ports.length + (n.fresh (order ++ [r])).length ≤ maxPortsPerNode) :
    (∃ e, m.answered? r = some e ∧ n.verdict r = .ok () ∧ Edit.run m (requestOutput id r) = (.ok e.port, m) ∧
      n.Answering id (order ++ [r]) m entries) ∨
    (∃ error, n.verdict r = .error error ∧ Edit.run m (requestOutput id r) = (.error error, m) ∧
      n.Answering id (order ++ [r]) m entries) ∨
    ∃ e next, m.answered? r = none ∧ n.verdict r = .ok () ∧ e.request = r ∧ e.port = .ofNode id m.ports.length ∧
      m.ports.length < maxPortsPerNode ∧ next.negotiated = m.negotiated ++ [e] ∧
      Edit.run m (requestOutput id r) = (.ok e.port, next) ∧ n.Answering id (order ++ [r]) next (entries ++ [e]) := by
  have hmutable' : m.state.isMutable = true := by rwa [h.state]
  cases hanswered : m.answered? r with
  | some e =>
    obtain ⟨hverdict, hfresh⟩ := h.known hunnamed hr hanswered
    exact .inl ⟨e, rfl, hverdict, run_requestOutput_of_answered id hmutable' hanswered,
      { h with fresh := h.fresh.trans hfresh.symm }⟩
  | none =>
    have hrun := run_requestOutput_of_new id hmutable' hr hanswered
    rw [h.requestMap, h.resolve] at hrun
    have hverdict := verdict_of_new (h.answered?_eq_none hanswered)
    cases hmap : n.requestMap r with
    | error error =>
      simp only [hmap] at hrun hverdict
      exact .inr (.inl ⟨error, hverdict, hrun, h.refused hr hanswered hverdict⟩)
    | ok map =>
      cases hspec : n.resolve r with
      | error error =>
        simp only [hmap, hspec] at hrun hverdict
        exact .inr (.inl ⟨error, hverdict, hrun, h.refused hr hanswered hverdict⟩)
      | ok spec =>
        have hneeds : n.needsPort r = true :=
          needsPort_iff.mpr ⟨h.answered?_eq_none hanswered, map, spec, hmap, hspec⟩
        have hfree : m.ports.length < maxPortsPerNode := by
          have hlength := congrArg List.length h.fresh
          rw [List.length_map] at hlength
          rw [h.fresh_new hr hanswered, hneeds, if_pos rfl, List.length_append, List.length_singleton] at hroom
          rw [h.length]
          omega
        simp only [hmap, hspec, hfree, if_true] at hrun hverdict
        exact .inr (.inr ⟨_, _, rfl, hverdict, rfl, rfl, hfree, rfl, hrun, h.granted hr hanswered hmap hspec hfree⟩)

/-- A port that was answered to a request, and will be again if the request is like itself. -/
def Gave (m : Node) (entries : List Negotiated) (r : Request) (p : PortId) : Prop :=
  (∃ e ∈ m.negotiated, e.port = p ∧ (e.request.sameProfile r = true ∨ e ∈ entries ∧ e.request = r)) ∧
    (r.sameProfile r = true → ∃ e, m.answered? r = some e ∧ e.port = p)

theorem Gave.mono {next : Node} {more : List Negotiated} {p : PortId} (h : m.Gave entries r p)
    (hnegotiated : m.negotiated <+: next.negotiated) (hentries : entries ⊆ more) : next.Gave more r p := by
  obtain ⟨⟨e, he, hport, hasked⟩, hagain⟩ := h
  refine ⟨⟨e, hnegotiated.subset he, hport, hasked.imp_right fun hown => ⟨hentries hown.1, hown.2⟩⟩, fun hself => ?_⟩
  obtain ⟨e, he, hport⟩ := hagain hself
  exact ⟨e, answered?_mono hnegotiated he, hport⟩

theorem gave_of_answered {e : Negotiated} (he : m.answered? r = some e) : m.Gave entries r e.port := by
  obtain ⟨hmem, hsame⟩ := sameProfile_of_answered he
  exact ⟨⟨e, hmem, rfl, .inl hsame⟩, fun _ => ⟨e, he, rfl⟩⟩

theorem gave_of_new {next : Node} {e : Negotiated} (hr : r.name = none) (hnone : m.answered? r = none)
    (hrequest : e.request = r) (hnext : next.negotiated = m.negotiated ++ [e]) :
    next.Gave (entries ++ [e]) r e.port := by
  have hmem : e ∈ next.negotiated := hnext ▸ List.mem_append_right _ (List.mem_singleton_self e)
  refine ⟨⟨e, hmem, rfl, .inr ⟨List.mem_append_right _ (List.mem_singleton_self e), hrequest⟩⟩, fun hself => ⟨e, ?_, rfl⟩⟩
  unfold answered? at hnone ⊢
  rw [hnext, List.find?_append, hnone]
  simp [hrequest, hself, hr]

theorem Gave.eq_iff_of_answered {a : Request} {p : PortId} (h : m.Gave entries a p) (hassigned : m.Assigned)
    (ha : a.name = none) (hr : r.name = none) {e : Negotiated} (he : m.answered? r = some e) :
    p = e.port ↔ a.sameProfile r = true := by
  obtain ⟨⟨own, hown, rfl, hasked⟩, hagain⟩ := h
  obtain ⟨hmem, hsame⟩ := sameProfile_of_answered he
  constructor
  · intro hport
    obtain rfl := hassigned.eq_of_port hown hmem hport
    rcases hasked with hlike | ⟨-, rfl⟩
    · exact Request.sameProfile_trans (Request.sameProfile_symm hlike) hsame
    · exact hsame
  · intro hlike
    obtain ⟨first, hfirst, hport⟩ := hagain (Request.sameProfile_trans hlike (Request.sameProfile_symm hlike))
    rw [answered?_congr m hlike ha hr, he] at hfirst
    rw [← hport, Option.some.inj hfirst]

theorem Gave.eq_iff_of_new {a : Request} {p : PortId} (h : m.Gave entries a p) (hassigned : m.Assigned)
    (ha : a.name = none) (hr : r.name = none) (hnone : m.answered? r = none)
    (hroom : m.ports.length < maxPortsPerNode) : p = .ofNode id m.ports.length ↔ a.sameProfile r = true := by
  obtain ⟨⟨own, hown, rfl, -⟩, hagain⟩ := h
  constructor
  · intro hport
    have hlow := hassigned.bounded own hown
    rw [hport, PortId.ofNode_position hroom] at hlow
    exact absurd hlow (Nat.lt_irrefl _)
  · intro hlike
    obtain ⟨first, hfirst, -⟩ := hagain (Request.sameProfile_trans hlike (Request.sameProfile_symm hlike))
    rw [answered?_congr m hlike ha hr, hnone] at hfirst
    cases hfirst

end

end Node

namespace Graph

/-- A node is asked for outputs one after the other. -/
def requestAll (g : Graph) (id : NodeId) (requests : List Request) :
    List (Request × Except NegotiationError PortId) × Graph :=
  requests.foldl (fun (answers, g) r => (answers ++ [(r, (g.requestOutput id r).1)], (g.requestOutput id r).2)) ([], g)

theorem requestAll_concat (g : Graph) (id : NodeId) (requests : List Request) (r : Request) :
    g.requestAll id (requests ++ [r]) =
      ((g.requestAll id requests).1 ++ [(r, ((g.requestAll id requests).2.requestOutput id r).1)],
        ((g.requestAll id requests).2.requestOutput id r).2) := by
  rw [requestAll, List.foldl_append]
  rfl

/-- Of two requests the same port was answered exactly to those for the same. -/
def Told (x y : Request × Except NegotiationError PortId) : Prop :=
  ∀ p q, x.2 = .ok p → y.2 = .ok q → (p = q ↔ x.1.sameProfile y.1 = true)

theorem pairwise_concat {α : Type} {R : α → α → Prop} {l : List α} {a : α} (h : l.Pairwise R) (ha : ∀ x ∈ l, R x a) :
    (l ++ [a]).Pairwise R := by
  rw [List.pairwise_append]
  exact ⟨h, List.pairwise_singleton R a, fun x hx y hy => List.mem_singleton.mp hy ▸ ha x hx⟩

/-- What a node has been asked for so far, with its answers and what has become of it. -/
structure Asked (n : Node) (id : NodeId) (order : List Request)
    (answers : List (Request × Except NegotiationError PortId)) (m : Node) (entries : List Negotiated) : Prop where
  answering : n.Answering id order m entries
  verdicts : answers.map (fun x => (x.1, x.2.map fun _ => ())) = order.map fun r => (r, n.verdict r)
  told : answers.Pairwise Told
  gave : ∀ x ∈ answers, ∀ p, x.2 = .ok p → m.Gave entries x.1 p

theorem Asked.mem {n m : Node} {id : NodeId} {order : List Request}
    {answers : List (Request × Except NegotiationError PortId)} {entries : List Negotiated}
    (h : Asked n id order answers m entries) {x : Request × Except NegotiationError PortId} (hx : x ∈ answers) :
    x.1 ∈ order := by
  have hpair := List.mem_map_of_mem (f := fun x => (x.1, x.2.map fun _ => ())) hx
  rw [h.verdicts] at hpair
  obtain ⟨r, hr, hsame⟩ := List.mem_map.mp hpair
  exact (Prod.mk.inj hsame).1 ▸ hr

theorem Asked.concat {n m next : Node} {id : NodeId} {order : List Request}
    {answers : List (Request × Except NegotiationError PortId)} {entries more : List Negotiated} {r : Request}
    {answer : Except NegotiationError PortId} (h : Asked n id order answers m entries)
    (hanswering : n.Answering id (order ++ [r]) next more) (hverdict : answer.map (fun _ => ()) = n.verdict r)
    (hnegotiated : m.negotiated <+: next.negotiated) (hentries : entries ⊆ more)
    (htold : ∀ x ∈ answers, Told x (r, answer)) (hgave : ∀ p, answer = .ok p → next.Gave more r p) :
    Asked n id (order ++ [r]) (answers ++ [(r, answer)]) next more where
  answering := hanswering
  verdicts := by rw [List.map_append, List.map_append, h.verdicts, List.map_singleton, List.map_singleton, hverdict]
  told := pairwise_concat h.told htold
  gave := by
    intro x hx p hp
    rcases List.mem_append.mp hx with hx | hx
    · exact (h.gave x hx p hp).mono hnegotiated hentries
    · rw [List.mem_singleton.mp hx] at hp ⊢
      exact hgave p hp

/-- The requests of a list fit into a node if there is room for those that need a port. -/
theorem exists_asked {g : Graph} {id : NodeId} {n : Node} (hn : g.nodes[id.index]? = some n)
    (hmutable : n.state.isMutable = true) (hsteady : n.Steady) (hassigned : n.Assigned) (order : List Request)
    (hunnamed : ∀ r ∈ order, r.name = none) (hroom : n.ports.length + (n.fresh order).length ≤ maxPortsPerNode) :
    ∃ m entries, (g.requestAll id order).2 = g.setNode id m ∧
      Asked n id order (g.requestAll id order).1 m entries := by
  induction order using List.reverseRecOn with
  | nil =>
    refine ⟨n, [], (setNode_self hn).symm, Node.answering_nil hsteady hassigned, rfl, List.Pairwise.nil, ?_⟩
    intro x hx
    cases hx
  | append_singleton order r ih =>
    obtain ⟨hearlier, hr⟩ : (∀ r ∈ order, r.name = none) ∧ r.name = none := by simpa [or_imp, forall_and] using hunnamed
    have hless : (n.fresh order).length ≤ (n.fresh (order ++ [r])).length := by
      rw [n.fresh_concat]
      split <;> simp
    obtain ⟨m, entries, hgraph, h⟩ := ih hearlier (Nat.le_trans (Nat.add_le_add_left hless _) hroom)
    obtain ⟨hlt, -⟩ := List.getElem?_eq_some_iff.mp hn
    have hm : (g.setNode id m).nodes[id.index]? = some m := List.getElem?_set_self hlt
    have hset (next : Node) : (g.setNode id m).setNode id next = g.setNode id next := by simp [setNode]
    rw [requestAll_concat, hgraph, requestOutput, run_editNode hm]
    simp only [hset]
    have hunnamed (x : Request × Except NegotiationError PortId) (hx : x ∈ (g.requestAll id order).1) :
        x.1.name = none := hearlier _ (h.mem hx)
    rcases h.answering.request hmutable hearlier hr hroom with ⟨e, hanswered, hverdict, hrun, hanswering⟩ |
        ⟨error, hverdict, hrun, hanswering⟩ |
        ⟨e, next, hnone, hverdict, hrequest, hport, hfree, hnext, hrun, hanswering⟩ <;>
      rw [hrun]
    · refine ⟨m, entries, rfl, h.concat hanswering hverdict.symm (List.prefix_refl _) (List.Subset.refl _) ?_ ?_⟩
      · rintro x hx p q hp ⟨⟩
        exact (h.gave x hx p hp).eq_iff_of_answered h.answering.assigned (hunnamed x hx) hr hanswered
      · rintro p ⟨⟩
        exact Node.gave_of_answered hanswered
    · refine ⟨m, entries, rfl, h.concat hanswering hverdict.symm (List.prefix_refl _) (List.Subset.refl _) ?_ ?_⟩
      · rintro x hx p q hp ⟨⟩
      · rintro p ⟨⟩
    · refine ⟨next, entries ++ [e], rfl, h.concat hanswering hverdict.symm (hnext ▸ List.prefix_append _ _)
        (List.subset_append_left _ _) ?_ ?_⟩
      · rintro x hx p q hp ⟨⟩
        rw [hport]
        exact (h.gave x hx p hp).eq_iff_of_new h.answering.assigned (hunnamed x hx) hr hnone hfree
      · rintro p ⟨⟩
        exact Node.gave_of_new hr hnone hrequest hnext

/-- An answer with a port is an earlier one, or the port was made for this request. -/
theorem Asked.port {n m : Node} {id : NodeId} {order : List Request}
    {answers : List (Request × Except NegotiationError PortId)} {entries : List Negotiated}
    (h : Asked n id order answers m entries) (hunnamed : ∀ r ∈ order, r.name = none)
    {x : Request × Except NegotiationError PortId} (hx : x ∈ answers) {p : PortId} (hp : x.2 = .ok p) :
    (∃ e, n.answered? x.1 = some e ∧ p = e.port) ∨
    n.answered? x.1 = none ∧ ∃ e ∈ entries, e.request.plain = x.1.plain ∧ p = e.port ∧ ∃ map spec j,
      n.outputMap? = some map ∧ n.resolve e.request = .ok spec ∧ n.ports.length ≤ j ∧ p = .ofNode id j ∧
      m.ports[j]? = some (n.outputPort map e.key spec) := by
  have hname := hunnamed _ (h.mem hx)
  obtain ⟨⟨own, hown, rfl, hasked⟩, hagain⟩ := h.gave x hx p hp
  cases hold : n.answered? x.1 with
  | some e =>
    have hlike := (Node.sameProfile_of_answered hold).2
    obtain ⟨first, hfirst, hport⟩ := hagain (Request.sameProfile_trans (Request.sameProfile_symm hlike) hlike)
    rw [Node.answered?_mono (h.answering.negotiated ▸ List.prefix_append _ _) hold] at hfirst
    exact .inl ⟨e, rfl, by rw [← hport, Option.some.inj hfirst]⟩
  | none =>
    refine .inr ⟨rfl, ?_⟩
    have hentry : own ∈ entries ∧ own.request.plain = x.1.plain := by
      rcases hasked with hlike | hentry
      · rw [h.answering.negotiated] at hown
        rcases List.mem_append.mp hown with hown | hown
        · have hnone := List.find?_eq_none.mp hold own hown
          simp [hlike, hname] at hnone
        · exact ⟨hown, (h.answering.of_entry hunnamed hname hown hlike).1⟩
      · exact ⟨hentry.1, congrArg Request.plain hentry.2⟩
    obtain ⟨map, spec, hmap, hspec, hlow, hport, hat⟩ := h.answering.ports own hentry.1
    exact ⟨own, hentry.1, hentry.2, rfl, map, spec, _, hmap, hspec, hlow, hport, hat⟩

/-- A node that may change is asked for outputs without names, and has room for those that need a port. It is a built-in
one, or a plugin whose answers are its own affair, as long as it is steady in them. In whatever order it is asked, a
request gets the verdict that it would get at once, and two of the requests get the same port exactly if they ask for the
same. The ports that are made are for the same requests in any order: each is made for what the node resolves its request
to, and only its key and its position depend on the order. -/
theorem requests_in_any_order (course : List Occurrence) (id : NodeId) (n : Node) (requests : List Request)
    (hn : (({} : Graph).after course).nodes[id.index]? = some n) (hmutable : n.state.isMutable = true)
    (hunnamed : ∀ r ∈ requests, r.name = none) (hsteady : ∀ p, n.body = some (.plugin p) → p.Steady)
    (hroom : n.ports.length + (n.fresh requests).length ≤ maxPortsPerNode)
    (order : List Request) (horder : order.Perm requests) :
    let g := ({} : Graph).after course
    let answers := (g.requestAll id order).1
    answers.map (fun x => (x.1, x.2.map fun _ => ())) = order.map (fun r => (r, n.verdict r)) ∧
    answers.Pairwise (fun x y => ∀ p q, x.2 = .ok p → y.2 = .ok q → (p = q ↔ x.1.sameProfile y.1 = true)) ∧
    ∃ m entries, (g.requestAll id order).2 = g.setNode id m ∧ m.negotiated = n.negotiated ++ entries ∧
      (entries.map fun e => e.request.plain).Perm (n.fresh requests) ∧
      n.ports <+: m.ports ∧ m.ports.length = n.ports.length + entries.length ∧
      ∀ x ∈ answers, ∀ p, x.2 = .ok p →
        (∃ e, n.answered? x.1 = some e ∧ p = e.port) ∨
        n.answered? x.1 = none ∧ ∃ e ∈ entries, e.request.plain = x.1.plain ∧ p = e.port ∧ ∃ map spec j,
          n.outputMap? = some map ∧ n.resolve e.request = .ok spec ∧ n.ports.length ≤ j ∧ p = .ofNode id j ∧
          m.ports[j]? = some (n.outputPort map e.key spec) := by
  intro g answers
  have hunnamed : ∀ r ∈ order, r.name = none := fun r hr => hunnamed r (horder.mem_iff.mp hr)
  have hfresh := n.fresh_perm horder
  obtain ⟨m, entries, hgraph, h⟩ := exists_asked hn hmutable hsteady
    (forall_nodes_of_lasting Node.lasting_assigned Node.assigned_of_make course hn) order hunnamed
    (hfresh.length_eq ▸ hroom)
  exact ⟨h.verdicts, h.told, m, entries, hgraph, h.answering.negotiated, h.answering.fresh ▸ hfresh, h.answering.grown,
    h.answering.length, fun x hx p hp => h.port hunnamed hx hp⟩

/-- A plugin that offers frames and has an output by name is asked for the same without a name, for another twice, for one
that is too large, twice for a rate that is not a number, and for a rate of zero, from the last to the first. -/
theorem requests_in_any_order_reversed :
    let small : Request := { kind := .imgFrame, size := some ⟨320, 180⟩ }
    let large : Request := { kind := .imgFrame, size := some ⟨4000, 3000⟩ }
    let course : List Occurrence := [.operation (.addPlugin "tap" (Plugin.offering
        { kinds := [.imgFrame], residency := .device, size := ⟨1920, 1080⟩, fps := .ofNat 30 }
        { typeName := "Tap", ports := [], maps := [
          { name := "outputs", template := { name := "output", direction := .output, types := [.any] } }] })),
      .operation (.requestOutput ⟨0⟩ { small with name := some "small" })]
    let requests := [small, { small with fps := some (.ofNat 10) }, large, { small with fps := some (.ofNat 10) },
      { small with fps := some .nan }, { small with fps := some .nan }, { small with fps := some (.zero true) }]
    let g := ({} : Graph).after course
    ∃ n, g.nodes[0]? = some n ∧
      requests.reverse.map n.verdict =
        [.error (.unsupportedFrameRate (.zero true) (.ofNat 30)), .ok (), .ok (), .ok (),
          .error (.scaleOutOfBounds .width 1920 4000), .ok (), .ok ()] ∧
      (g.requestAll ⟨0⟩ requests.reverse).1.map (fun x => (x.1, x.2.map fun _ => ())) =
        requests.reverse.map (fun r => (r, n.verdict r)) ∧
      (g.requestAll ⟨0⟩ requests.reverse).1.Pairwise Told := by
  intro small large course requests g
  obtain ⟨n, hn, hmutable, hlength, hverdicts⟩ : ∃ n, g.nodes[0]? = some n ∧ n.state.isMutable = true ∧
      n.ports.length = 1 ∧ requests.reverse.map n.verdict =
        [.error (.unsupportedFrameRate (.zero true) (.ofNat 30)), .ok (), .ok (), .ok (),
          .error (.scaleOutOfBounds .width 1920 4000), .ok (), .ok ()] :=
    ⟨_, rfl, rfl, by decide +kernel, by decide +kernel⟩
  have hsteady : ∀ p, n.body = some (.plugin p) → p.Steady := by
    intro p hp
    cases hn
    cases hp
    exact (Plugin.steady_offering _ _).register _ _
  have hroom : n.ports.length + (n.fresh requests).length ≤ maxPortsPerNode := by
    have hfresh : (n.fresh requests).length ≤ 7 := n.length_fresh_le requests
    rw [hlength, maxPortsPerNode]
    omega
  obtain ⟨hsame, htold, -⟩ := requests_in_any_order course ⟨0⟩ n requests hn hmutable
    (by simp [requests, small, large]) hsteady hroom requests.reverse (List.reverse_perm requests)
  exact ⟨n, hn, hverdicts, hsame, htold⟩

/-- A plugin with one output to give is not steady, and the first one to ask gets it. -/
example :
    let g := ({} : Graph).after [.operation (.addPlugin "tap" {
      typeName := "Tap", ports := []
      maps := [{ name := "outputs", template := { name := "output", direction := .output, types := [.any] } }]
      capability := fun told request =>
        if told.isEmpty then .ok ⟨request.kind, ⟨64, 64⟩, .identity, .identity, .ofNat 30, .host⟩
        else .error (.noCompatibleKind request.kind) })]
    let verdicts := fun order => ((g.requestAll ⟨0⟩ order).1.map fun x => (x.1.kind, x.2.isOk))
    verdicts [{ kind := .imgFrame }, { kind := .nnData }] = [(.imgFrame, true), (.nnData, false)] ∧
      verdicts [{ kind := .nnData }, { kind := .imgFrame }] = [(.nnData, true), (.imgFrame, false)] := by
  decide +kernel

end Graph

end FrameGraph
