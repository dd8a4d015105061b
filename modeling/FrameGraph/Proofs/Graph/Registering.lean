import FrameGraph.Proofs.Graph.Fates
import FrameGraph.Proofs.Process.Frames
import Mathlib.Data.List.Forall2
import Mathlib.Data.List.Perm.Subperm

/-!
# Registered outputs

A camera has a map of outputs. A port of the map comes from a request, and then the camera registers it and feeds it;
or it is asked for by its key, and then the camera knows nothing of it.

* `Graph.Made`: the occurrence that made a port. `Graph.Made.unique`: there is one only.
* `Graph.Registers`: the request that an output was registered for.
* `Occurrence.Settles`: an occurrence changes no more than the settings of a camera.
* `Camera.Attended`: the ports, the answers and the registered outputs of a camera. `Graph.attended`: so they are after
  any course.
* `Graph.registered_outputs`: which ports of the map a camera feeds.
-/

namespace FrameGraph
set_option autoImplicit false

/-! ## Where ports come from -/

theorem Port.Requeued.key {p q : Port} (h : p.Requeued q) : q.key = p.key := by
  obtain ⟨_, _, rfl⟩ := h
  rfl

theorem Node.Onward.keys_subset {n next : Node} (h : n.Onward next) : n.keys ⊆ next.keys := by
  intro key hkey
  obtain ⟨port, hport, rfl⟩ := List.mem_map.mp hkey
  obtain ⟨j, hj⟩ := List.mem_iff_getElem?.mp hport
  obtain ⟨other, hother, hsame⟩ := h.ports hj
  exact hsame.key ▸ List.mem_map_of_mem (List.mem_of_getElem? hother)

namespace Graph

/-- In a course there is an occurrence before which a node has no port with a key, and after which it has one. -/
def Made (course : List Occurrence) (id : NodeId) (key : String) (occurrence : Occurrence) : Prop :=
  ∃ before later, course = before ++ occurrence :: later ∧
    (∀ n, (({} : Graph).after before).nodes[id.index]? = some n → key ∉ n.keys) ∧
    ∃ n, (({} : Graph).after (before ++ [occurrence])).nodes[id.index]? = some n ∧ key ∈ n.keys

variable {course : List Occurrence} {id : NodeId} {key : String} {occurrence : Occurrence}

theorem Made.concat (h : Made course id key occurrence) (last : Occurrence) : Made (course ++ [last]) id key occurrence := by
  obtain ⟨before, later, rfl, hmade⟩ := h
  exact ⟨before, later ++ [last], by simp, hmade⟩

theorem made_last {n next : Node} (hn : (({} : Graph).after course).nodes[id.index]? = some n)
    (hnext : (({} : Graph).after (course ++ [occurrence])).nodes[id.index]? = some next)
    (hbefore : key ∉ n.keys) (hafter : key ∈ next.keys) : Made (course ++ [occurrence]) id key occurrence := by
  refine ⟨course, [], rfl, fun m hm => ?_, next, hnext, hafter⟩
  obtain rfl : n = m := Option.some.inj (hn.symm.trans hm)
  exact hbefore

/-- A port that has been made is there ever after. -/
theorem Made.not_shorter {before later : List Occurrence}
    (hnew : ∀ n, (({} : Graph).after (before ++ occurrence :: later)).nodes[id.index]? = some n → key ∉ n.keys)
    (hmade : ∃ n, (({} : Graph).after (before ++ [occurrence])).nodes[id.index]? = some n ∧ key ∈ n.keys) : False := by
  obtain ⟨n, hn, hkey⟩ := hmade
  obtain ⟨next, hnext, honward⟩ := after_onward _ later id.index n hn
  rw [← after_append, List.append_assoc] at hnext
  exact hnew next hnext (honward.keys_subset hkey)

theorem Made.unique {other : Occurrence} (h : Made course id key occurrence) (h' : Made course id key other) :
    occurrence = other := by
  obtain ⟨before, later, rfl, hnew, hmade⟩ := h
  obtain ⟨before', later', hsame, hnew', hmade'⟩ := h'
  rcases List.append_eq_append_iff.mp hsame with ⟨between, rfl, hrest⟩ | ⟨between, rfl, hrest⟩
  · cases between with
    | nil => exact (List.cons.inj hrest).1
    | cons first rest =>
      obtain ⟨rfl, -⟩ := List.cons.inj hrest
      exact (Made.not_shorter hnew' hmade).elim
  · cases between with
    | nil => exact (List.cons.inj hrest).1.symm
    | cons first rest =>
      obtain ⟨rfl, -⟩ := List.cons.inj hrest
      exact (Made.not_shorter hnew hmade').elim

/-- An output is registered for the answer to a request. The camera resolved the request as it was then. -/
structure Registers (course : List Occurrence) (id : NodeId) (e : Negotiated) (o : DynamicOutput) : Prop where
  key : o.key = Camera.dynamicKey e.key
  made : Made course id o.key (.operation (.requestOutput id e.request))
  resolved : ∃ before later n c, course = before ++ .operation (.requestOutput id e.request) :: later ∧
    (({} : Graph).after before).nodes[id.index]? = some n ∧ n.body = some (.camera c) ∧
    c.source.resolve e.request = .ok o.spec ∧ o.decimation = Camera.decimation c.config.fps o.spec.fps

theorem Registers.concat {e : Negotiated} {o : DynamicOutput} (h : Registers course id e o) (last : Occurrence) :
    Registers (course ++ [last]) id e o where
  key := h.key
  made := h.made.concat last
  resolved := by
    obtain ⟨before, later, n, c, rfl, hresolved⟩ := h.resolved
    exact ⟨before, later ++ [last], n, c, by simp, hresolved⟩

end Graph

/-! ## Cameras -/

/-- A change of a body is at most one of its settings, if it leads to a camera. -/
def Occurrence.Settles (occurrence : Occurrence) : Prop :=
  ∀ id kind change, occurrence.adjustment? = some (id, kind, change) →
    ∀ body c, change body = .camera c → ∃ config, body = .camera { c with config }

theorem Occurrence.settles_operation (op : Operation) : (Occurrence.operation op).Settles := by
  intro id kind change habout body c hchange
  cases op with
  | configure _ setting =>
    cases habout
    cases setting <;> cases body <;> cases hchange <;> exact ⟨_, rfl⟩
  | _ => cases habout

/-- The keys of the ports of one map, in their order. -/
def Node.keysIn (n : Node) (group : String) : List String :=
  (n.ports.filter fun port => port.group == some group).map Port.key

theorem Node.mem_keysIn {n : Node} {group key : String} :
    key ∈ n.keysIn group ↔ ∃ port ∈ n.ports, port.group = some group ∧ port.key = key := by
  simp [keysIn, and_assoc]

theorem Node.keysIn_sublist (n : Node) (group : String) : (n.keysIn group).Sublist n.keys :=
  List.filter_sublist.map Port.key

theorem Node.keysIn_withPort (n : Node) (group : String) (port : Port) :
    (n.withPort port).keysIn group = n.keysIn group ++ if port.group = some group then [port.key] else [] := by
  by_cases h : port.group = some group <;> simp [keysIn, withPort, h]

section
variable {n : Node} {position : Nat} {port : Port} (h : n.ports[position]? = some port) (size : Nat) (blocking : Bool)
include h

/-- What does not depend on the queue behind a port stays as it is. -/
theorem Node.map_requeued {β : Type} {f : Port → β}
    (hf : ∀ (p : Port) size blocking, f { p with queueSize := size, blocking } = f p) :
    (n.ports.set position { port with queueSize := size, blocking }).map f = n.ports.map f := by
  obtain ⟨hlt, rfl⟩ := List.getElem?_eq_some_iff.mp h
  rw [List.map_set, hf, ← List.map_set, List.set_getElem_self]

theorem Node.keysIn_requeued (group : String) :
    Node.keysIn { n with ports := n.ports.set position { port with queueSize := size, blocking } } group =
      n.keysIn group := by
  have hkeysIn (ports : List Port) : (ports.filter fun p => p.group == some group).map Port.key =
      ((ports.map fun p => (p.group, p.key)).filter fun p => p.1 == some group).map Prod.snd := by
    rw [List.filter_map, List.map_map]
    rfl
  rw [keysIn, keysIn, hkeysIn, hkeysIn, map_requeued h size blocking fun _ _ _ => rfl]

end

namespace Camera
variable {course : List Occurrence} {id : NodeId} {n : Node} {c : Camera}

/-- A port of the map comes from a request for which its output was registered, or it was asked for by its key. -/
structure Attended (course : List Occurrence) (id : NodeId) (n : Node) (c : Camera) : Prop where
  maps : n.maps = Camera.maps
  indexed : n.Indexed
  distinct : n.keys.Nodup
  registered : List.Forall₂ (Graph.Registers course id) n.negotiated c.dynamic
  ordered : (c.dynamic.map DynamicOutput.key).Sublist (n.keysIn dynamicGroup)
  entered : ∀ port ∈ n.ports, port.group = some dynamicGroup → port.key ∉ c.dynamic.map DynamicOutput.key →
    Graph.Made course id port.key (.operation (.mapPort .output id dynamicGroup port.name))

theorem keysIn_ports : (ports.filter fun port => port.group == some dynamicGroup) = [] := rfl

theorem dynamic_of_brings {occurrence : Occurrence} (h : occurrence.brings = some (.camera c)) : c.dynamic = [] := by
  have hconfig (config : NodeConfig) (hbody : config.body = .camera c) : c.dynamic = [] := by
    cases config <;> cases hbody
    rfl
  cases occurrence with
  | operation op =>
    cases op with
    | create config | createNamed _ config => exact hconfig config (Option.some.inj h)
    | addPlugin | configure | inspect | port | portToward | mapPort | setInputQueue | requestOutput | link | unlink
    | build => cases h
  | adjust | takeBody | advanceState => cases h

theorem attended_of_make {last : Occurrence} {name : String} (hbrings : last.brings = some (.camera c))
    (h : Node.make id name (.camera c) = .ok n) : Attended course id n c := by
  have hdynamic := dynamic_of_brings hbrings
  have hfixed : ∀ port ∈ n.ports, port.group ≠ some dynamicGroup := by
    rw [Node.eq_of_make h]
    have hnone := List.filter_eq_nil_iff.mp keysIn_ports
    intro port hport
    simpa using hnone port hport
  constructor
  case maps => rw [Node.eq_of_make h]; rfl
  case indexed => exact Node.indexed_of_make h
  case distinct =>
    have hinitial : (Body.camera c).initialKeys.Nodup := by
      simp only [Body.initialKeys, Node.initialPorts, Body.ports, Body.maps]
      decide
    exact (Node.addressed_of_make h).distinct hinitial
  case registered => rw [hdynamic, Node.eq_of_make h]; exact .nil
  case ordered => rw [hdynamic]; exact List.nil_sublist _
  case entered => exact fun port hport hgroup => absurd hgroup (hfixed port hport)

theorem Attended.concat (h : Attended course id n c) (last : Occurrence) : Attended (course ++ [last]) id n c :=
  { h with
    registered := h.registered.imp fun _ _ hregisters => hregisters.concat last
    entered := fun port hport hgroup hkey => (h.entered port hport hgroup hkey).concat last }

theorem of_mem_maps {m : PortMap} (h : m ∈ Camera.maps) : m.name = dynamicGroup ∧ m.direction = .output := by
  rw [List.mem_singleton.mp h]
  exact ⟨rfl, rfl⟩

variable {last : Occurrence} {next : Node}

/-- A port that is asked for by its key is new, and the camera does not come to know of it. -/
theorem Attended.entry (h : Attended course id n c) {m : PortMap} {key : String}
    (habout : last = .operation (.mapPort m.direction id m.name key)) (hmap : m ∈ n.maps)
    (hfree : n.find? (portKey (some m.name) key) = none)
    (hn : (({} : Graph).after course).nodes[id.index]? = some n)
    (hnext : (({} : Graph).after (course ++ [last])).nodes[id.index]? = some (n.withPort (m.entry key))) :
    Attended (course ++ [last]) id (n.withPort (m.entry key)) c := by
  have hnew := h.indexed.find?_eq_none_iff.mp hfree
  obtain ⟨hname, hdirection⟩ := of_mem_maps (h.maps ▸ hmap)
  constructor
  case maps => exact h.maps
  case indexed => exact h.indexed.withPort _
  case distinct =>
    rw [Node.keys_withPort, ← List.concat_eq_append]
    exact List.Nodup.concat hnew h.distinct
  case registered => exact (h.concat last).registered
  case ordered =>
    rw [Node.keysIn_withPort]
    exact h.ordered.trans (List.sublist_append_left _ _)
  case entered =>
    intro port hport hgroup hkey
    rcases List.mem_append.mp hport with hport | hport
    · exact (h.concat last).entered port hport hgroup hkey
    · rw [List.mem_singleton.mp hport]
      have hlast : last = .operation (.mapPort .output id dynamicGroup (m.entry key).name) := by
        rw [habout, hname, hdirection]
        rfl
      exact hlast ▸ Graph.made_last hn hnext hnew (by simp)

/-- Another queue behind a port makes no difference. -/
theorem Attended.requeue (h : Attended course id n c) {position : Nat} {port : Port}
    (hport : n.ports[position]? = some port) (size : Nat) (blocking : Bool) :
    Attended course id { n with ports := n.ports.set position { port with queueSize := size, blocking } } c := by
  have hkeys : Node.keys { n with ports := n.ports.set position { port with queueSize := size, blocking } } = n.keys :=
    Node.map_requeued hport size blocking fun _ _ _ => rfl
  constructor
  case maps => exact h.maps
  case indexed =>
    rw [Node.Indexed, hkeys]
    exact h.indexed
  case distinct => rw [hkeys]; exact h.distinct
  case registered => exact h.registered
  case ordered =>
    rw [Node.keysIn_requeued hport]
    exact h.ordered
  case entered =>
    intro other hother
    rcases List.mem_or_eq_of_mem_set hother with hother | rfl
    · exact h.entered other hother
    · exact h.entered port (List.mem_of_getElem? hport)

end Camera

theorem Node.outputPort_group (n : Node) (map : PortMap) (key : String) (spec : OutputSpec) :
    (n.outputPort map key spec).group = some map.name := by
  cases hfound : n.maps.find? fun m => m.name == map.name with
  | none => simp [outputPort, hfound, PortMap.entry]
  | some m => simpa [outputPort, hfound, PortMap.entry] using List.find?_some hfound

theorem Body.register_eq_camera {key : String} {spec : OutputSpec} {body : Body} {c : Camera}
    (h : body.register key spec = .camera c) : ∃ old, body = .camera old ∧ c = old.register key spec := by
  cases body with
  | camera old =>
    cases h
    exact ⟨old, rfl, rfl⟩
  | _ => cases h

namespace Camera
variable {course : List Occurrence} {id : NodeId} {n next : Node} {c : Camera} {last : Occurrence}

/-- A request that is answered with a new port has its output registered, behind all others. -/
theorem Attended.answer (h : Attended course id n c) {request : Request} {m : PortMap} {key : String}
    {spec : OutputSpec} (habout : last = .operation (.requestOutput id request)) (hbody : n.body = some (.camera c))
    (hmap : n.outputMap? = some m) (hkey : n.keyFor m.name request = .ok key) (hspec : n.resolve request = .ok spec)
    (hn : (({} : Graph).after course).nodes[id.index]? = some n)
    (hnext : (({} : Graph).after (course ++ [last])).nodes[id.index]? = some next)
    (hsame : next = { n.withPort (n.outputPort m key spec) with
      body := n.body.map (Body.register key spec)
      negotiated := n.negotiated ++ [⟨request, key, .ofNode id n.ports.length⟩] }) :
    Attended (course ++ [last]) id next (c.register key spec) := by
  have hfree := h.indexed.find?_keyFor hkey
  obtain ⟨hname, -⟩ := of_mem_maps (h.maps ▸ List.mem_of_find?_eq_some hmap)
  have hport : (n.outputPort m key spec).key = dynamicKey key := by rw [n.outputPort_key, hname]; rfl
  have hgroup : (n.outputPort m key spec).group = some dynamicGroup := by rw [n.outputPort_group, hname]
  have hkeys : next.keys = n.keys ++ [dynamicKey key] := by
    rw [hsame, ← hport, ← n.keys_withPort]
    rfl
  have hkeysIn : next.keysIn dynamicGroup = n.keysIn dynamicGroup ++ [dynamicKey key] := by
    have hadded := n.keysIn_withPort dynamicGroup (n.outputPort m key spec)
    rw [if_pos hgroup, hport] at hadded
    rw [hsame, ← hadded]
    rfl
  have hnew : dynamicKey key ∉ n.keys := by
    rw [hname] at hfree
    exact h.indexed.find?_eq_none_iff.mp hfree
  have hregisters : Graph.Registers (course ++ [last]) id ⟨request, key, .ofNode id n.ports.length⟩
      ⟨dynamicKey key, spec, decimation c.config.fps spec.fps⟩ := by
    refine ⟨rfl, habout ▸ Graph.made_last hn hnext hnew (by simp [hkeys]), course, [], n, c, by rw [habout], hn, hbody,
      ?_, rfl⟩
    simpa [Node.resolve, hbody, Body.resolve] using hspec
  have hregistered : (c.register key spec).dynamic.map DynamicOutput.key =
      c.dynamic.map DynamicOutput.key ++ [dynamicKey key] := by simp [register, dynamicKey]
  constructor
  case maps => rw [hsame]; exact h.maps
  case indexed =>
    rw [hsame]
    exact h.indexed.withPort _
  case distinct =>
    rw [hkeys, ← List.concat_eq_append]
    exact List.Nodup.concat hnew h.distinct
  case registered =>
    rw [hsame]
    exact List.rel_append (h.concat last).registered (.cons hregisters .nil)
  case ordered =>
    rw [hregistered, hkeysIn]
    exact h.ordered.append (List.Sublist.refl _)
  case entered =>
    intro port hin hof hkey
    rw [hregistered, List.mem_append, not_or] at hkey
    rw [hsame] at hin
    rcases List.mem_append.mp hin with hin | hin
    · exact (h.concat last).entered port hin hof hkey.1
    · rw [List.mem_singleton.mp hin, hport] at hkey
      exact absurd (List.mem_singleton_self _) hkey.2

end Camera

theorem Graph.attended {course : List Occurrence} (hsettles : ∀ occurrence ∈ course, occurrence.Settles) {id : NodeId}
    {n : Node} {c : Camera} (hn : (({} : Graph).after course).nodes[id.index]? = some n)
    (hbody : n.body = some (.camera c)) : c.Attended course id n := by
  refine induct_nodes (P := fun course id n => (∀ occurrence ∈ course, occurrence.Settles) →
    ∀ c : Camera, n.body = some (.camera c) → c.Attended course id n) ?_ ?_ course hn hsettles c hbody
  · intro course last id name body n hbrings hmake _ c hbody
    obtain rfl : body = .camera c := by
      rw [Node.eq_of_make hmake] at hbody
      exact Option.some.inj hbody
    exact Camera.attended_of_make hbrings hmake
  · intro course last id n next hn hnext hfate ih hsettles c hbody
    have ih := ih fun occurrence hmem => hsettles occurrence (List.mem_append_left _ hmem)
    cases hfate with
    | same => exact (ih c hbody).concat last
    | advanced => exact { (ih c hbody).concat last with }
    | stripped => cases hbody
    | adjusted kind change body habout hheld =>
      obtain ⟨config, rfl⟩ := hsettles last (by simp) id kind change habout body c (Option.some.inj hbody)
      exact { (ih _ hheld).concat last with }
    | entered m key habout hmap hfree => exact (ih c hbody).entry habout hmap hfree hn hnext
    | requeued position port size blocking hport => exact ((ih c hbody).concat last).requeue hport size blocking
    | answered request m key spec habout hmap hkey hspec =>
      obtain ⟨body, hheld, hregister⟩ := Option.map_eq_some_iff.mp hbody
      obtain ⟨old, rfl, rfl⟩ := Body.register_eq_camera hregister
      exact (ih old hheld).answer habout hheld hmap hkey hspec hn hnext rfl

namespace Camera
variable {course : List Occurrence} {id : NodeId} {n : Node} {c : Camera}

/-- Whatever is registered was registered for a request. -/
theorem Attended.made_of_registered (h : Attended course id n c) {o : DynamicOutput} (ho : o ∈ c.dynamic) :
    ∃ e ∈ n.negotiated, Graph.Registers course id e o := by
  obtain ⟨i, hi⟩ := List.mem_iff_getElem?.mp ho
  obtain ⟨hlength, hpairs⟩ := List.forall₂_iff_get.mp h.registered
  obtain ⟨hlt, rfl⟩ := List.getElem?_eq_some_iff.mp hi
  exact ⟨_, List.get_mem n.negotiated ⟨i, hlength ▸ hlt⟩, hpairs i (hlength ▸ hlt) hlt⟩

theorem Attended.nodup_keysIn (h : Attended course id n c) : (n.keysIn dynamicGroup).Nodup :=
  h.distinct.sublist (n.keysIn_sublist dynamicGroup)

theorem Attended.nodup (h : Attended course id n c) : (c.dynamic.map DynamicOutput.key).Nodup :=
  h.nodup_keysIn.sublist h.ordered

theorem Attended.registered_iff (h : Attended course id n c) {port : Port} (hport : port ∈ n.ports)
    (hgroup : port.group = some dynamicGroup) :
    (port.key ∈ c.dynamic.map DynamicOutput.key ↔
      ∃ request, Graph.Made course id port.key (.operation (.requestOutput id request))) ∧
    (port.key ∉ c.dynamic.map DynamicOutput.key ↔
      Graph.Made course id port.key (.operation (.mapPort .output id dynamicGroup port.name))) := by
  have hrequest (hkey : port.key ∈ c.dynamic.map DynamicOutput.key) :
      ∃ request, Graph.Made course id port.key (.operation (.requestOutput id request)) := by
    obtain ⟨o, ho, hsame⟩ := List.mem_map.mp hkey
    obtain ⟨e, -, hregisters⟩ := h.made_of_registered ho
    exact ⟨e.request, hsame ▸ hregisters.made⟩
  -- No port is made twice, so it was not made in both ways.
  have hexclusive {request : Request}
      (hmade : Graph.Made course id port.key (.operation (.requestOutput id request)))
      (hmade' : Graph.Made course id port.key (.operation (.mapPort .output id dynamicGroup port.name))) : False :=
    nomatch hmade.unique hmade'
  refine ⟨⟨hrequest, fun ⟨request, hmade⟩ => ?_⟩, h.entered port hport hgroup, fun hmade hkey => ?_⟩
  · by_contra hkey
    exact hexclusive hmade (h.entered port hport hgroup hkey)
  · obtain ⟨request, hmade'⟩ := hrequest hkey
    exact hexclusive hmade' hmade

theorem Attended.keysIn_eq (h : Attended course id n c)
    (hnone : ∀ key, .operation (.mapPort .output id dynamicGroup key) ∉ course) :
    n.keysIn dynamicGroup = c.dynamic.map DynamicOutput.key := by
  refine (h.ordered.eq_of_length_le ?_).symm
  refine (h.nodup_keysIn.subperm fun key hkey => ?_).length_le
  obtain ⟨port, hport, hgroup, rfl⟩ := Node.mem_keysIn.mp hkey
  by_contra hunknown
  obtain ⟨before, later, rfl, -⟩ := h.entered port hport hgroup hunknown
  exact hnone port.name (by simp)

end Camera

namespace Graph

/-- The outputs that a camera has registered and the requests that its node has answered go together one to one and in
their order, and so do their ports, among those of the map. A port of the map is registered exactly if a request made
it; otherwise it was made because it was asked for by its key. Where none was, the ports of the map are those
registered. In every run of the camera a registered output carries each frame whose number is a multiple of its
decimation, in the negotiated size, and any other port of the map carries nothing. -/
theorem registered_outputs (course : List Occurrence) (hsettles : ∀ occurrence ∈ course, occurrence.Settles)
    (id : NodeId) (n : Node) (c : Camera) (hn : (({} : Graph).after course).nodes[id.index]? = some n)
    (hbody : n.body = some (.camera c)) :
    let registered := c.dynamic.map DynamicOutput.key
    List.Forall₂ (Registers course id) n.negotiated c.dynamic ∧
    registered.Sublist (n.keysIn Camera.dynamicGroup) ∧ (n.keysIn Camera.dynamicGroup).Nodup ∧
    (∀ port ∈ n.ports, port.group = some Camera.dynamicGroup →
      (port.key ∈ registered ↔ ∃ request, Made course id port.key (.operation (.requestOutput id request))) ∧
      (port.key ∉ registered ↔
        Made course id port.key (.operation (.mapPort .output id Camera.dynamicGroup port.name)))) ∧
    ((∀ key, .operation (.mapPort .output id Camera.dynamicGroup key) ∉ course) →
      n.keysIn Camera.dynamicGroup = registered) ∧
    ∀ context p acts, Process.Did (.camera c) context p acts →
      let sent := acts.flatMap Act.sent
      let frames := (messagesAt (.port "raw") sent).map Message.sequence
      frames = List.range frames.length ∧
      (∀ o ∈ c.dynamic, 0 < o.decimation ∧
        (messagesAt (.port o.key) sent).map (fun m => (m.sequence, m.payload)) =
          (frames.filter fun k => k % o.decimation == 0).map fun k => (k, c.frame o.spec.size .bgr888i)) ∧
      ∀ port ∈ n.ports, port.group = some Camera.dynamicGroup → port.key ∉ registered →
        messagesAt (.port port.key) sent = [] := by
  intro registered
  have h := attended hsettles hn hbody
  refine ⟨h.registered, h.ordered, h.nodup_keysIn, fun port hport hgroup => h.registered_iff hport hgroup, h.keysIn_eq,
    fun context p acts hdid => ?_⟩
  intro sent frames
  have hkeys : ∀ o ∈ c.dynamic, o.key ≠ "raw" := by
    intro o ho
    obtain ⟨e, -, hregisters⟩ := h.made_of_registered ho
    exact hregisters.key ▸ Camera.dynamicKey_ne (by decide) e.key
  obtain ⟨s, -, rfl, hraw, hshares⟩ := (Process.keeps_photographed hkeys context).of_did hdid
  have hframes : frames = List.range s.sequence := hraw
  refine ⟨by rw [hframes, List.length_range], fun o ho => ?_, fun port hport hgroup hunknown => ?_⟩
  · obtain ⟨e, -, hregisters⟩ := h.made_of_registered ho
    obtain ⟨_, _, _, _, -, -, -, -, hdecimation⟩ := hregisters.resolved
    refine ⟨hdecimation ▸ Camera.decimation_pos _ _, ?_⟩
    rw [hframes, ← Camera.flatMap_share h.nodup ho, hregisters.key]
    exact hshares e.key
  · have hkey : port.key = Camera.dynamicKey port.name := by rw [Port.key, hgroup]; rfl
    rw [hkey] at hunknown ⊢
    refine List.map_eq_nil_iff.mp ((hshares port.name).trans (List.flatMap_eq_nil_iff.mpr fun k _ => ?_))
    exact Camera.share_of_absent hunknown k

/-- A camera with a requested output and one that is asked for by its key, which is set up by a change of its whole
configuration. -/
theorem registered_outputs_beside_extra :
    let course : List Occurrence := [.operation (.create (.camera {})),
      .operation (.requestOutput ⟨0⟩ { kind := .imgFrame, size := some ⟨320, 180⟩, name := some "small" }),
      .operation (.mapPort .output ⟨0⟩ "dynamicOutputs" "extra"),
      .adjust ⟨0⟩ .camera fun body => match body with
        | .camera c => .camera { c with config := { c.config with fps := .ofNat 10, previewSize := ⟨64, 64⟩ } }
        | other => other]
    ∃ n c, (({} : Graph).after course).nodes[0]? = some n ∧ n.body = some (.camera c) ∧
      c.dynamic.map DynamicOutput.key = ["dynamicOutputs.small"] ∧
      n.keysIn Camera.dynamicGroup = ["dynamicOutputs.small", "dynamicOutputs.extra"] ∧
      (∃ request, Made course ⟨0⟩ "dynamicOutputs.small" (.operation (.requestOutput ⟨0⟩ request))) ∧
      ∀ context p acts, Process.Did (.camera c) context p acts →
        messagesAt (.port "dynamicOutputs.extra") (acts.flatMap Act.sent) = [] := by
  intro course
  have hsettles : ∀ occurrence ∈ course, occurrence.Settles := by
    simp only [course, List.forall_mem_cons, Occurrence.settles_operation, List.not_mem_nil, false_imp_iff,
      implies_true, and_true, true_and]
    intro id kind change habout body c hchange
    cases habout
    cases body <;> cases hchange
    exact ⟨_, rfl⟩
  obtain ⟨n, c, hn, hbody, hregistered, hkeysIn⟩ : ∃ n c, (({} : Graph).after course).nodes[0]? = some n ∧
      n.body = some (.camera c) ∧ c.dynamic.map DynamicOutput.key = ["dynamicOutputs.small"] ∧
      n.keysIn Camera.dynamicGroup = ["dynamicOutputs.small", "dynamicOutputs.extra"] := ⟨_, _, rfl, rfl, rfl, rfl⟩
  obtain ⟨-, -, -, hports, -, hruns⟩ := registered_outputs course hsettles ⟨0⟩ n c hn hbody
  have hport {key : String} (hkey : key ∈ ["dynamicOutputs.small", "dynamicOutputs.extra"]) :
      ∃ port ∈ n.ports, port.group = some Camera.dynamicGroup ∧ port.key = key := Node.mem_keysIn.mp (hkeysIn ▸ hkey)
  obtain ⟨small, hsmall, hgroup, hkey⟩ := hport List.mem_cons_self
  obtain ⟨extra, hextra, hgroup', hkey'⟩ := hport (List.mem_cons_of_mem _ List.mem_cons_self)
  refine ⟨n, c, hn, hbody, hregistered, hkeysIn, ?_, fun context p acts hdid => ?_⟩
  · rw [← hkey]
    exact (hports small hsmall hgroup).1.mp (by rw [hregistered, hkey]; decide)
  · rw [← hkey']
    exact (hruns context p acts hdid).2.2 extra hextra hgroup' (by rw [hregistered, hkey']; decide)

/-- A port that can be linked, and of which the camera knows nothing. -/
theorem unregistered_output :
    let g := run {} [.create (.camera {}), .create (.xlinkOut { stream := "x" }),
      .mapPort .output ⟨0⟩ "dynamicOutputs" "x"]
    g.Reachable ∧ g.isBuilt = false ∧ (g.link ⟨0, 9⟩ ⟨1, 0⟩).1 = .ok ⟨0⟩ ∧
      ¬∀ (id : NodeId) (n : Node) (c : Camera), g.nodes[id.index]? = some n → n.body = some (.camera c) →
        n.keysIn Camera.dynamicGroup = c.dynamic.map DynamicOutput.key := by
  intro g
  refine ⟨⟨_, rfl⟩, rfl, rfl, fun hsame => ?_⟩
  have hnone := hsame ⟨0⟩ _ { config := {} } rfl rfl
  revert hnone
  decide

end Graph

end FrameGraph
