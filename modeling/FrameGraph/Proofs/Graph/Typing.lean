import FrameGraph.Proofs.Graph.Nodes

/-!
# What the ports of built-in nodes declare

* `NodeKind.declared`: the kinds that an output of a built-in node declares, by its key.
* `Node.Typed`: a node with the ports of its kind. `Graph.exists_typed`: every node of a graph of built-in nodes is.
* `Port.accepts_of_acceptsFrom`: an input that is linked to such an output accepts all that the output declares, although
  linking asks for one common kind only. This is so because an output declares one kind or all of them, and an input that
  accepts the kind at the root accepts all of them.
* `Graph.exists_typed_link`: both ends of a link.
-/

namespace FrameGraph
set_option autoImplicit false

/-! ## Declared kinds -/

namespace Accepted

/-- One kind alone, or all of them. -/
inductive Plain : Accepted → Prop
  | any : Plain any
  | exactly (kind : Kind) : Plain (exactly kind)

theorem accepts_any (sent : Kind) : any.accepts sent = true := by
  cases sent <;> decide

theorem accepts_exactly {kind sent : Kind} : (exactly kind).accepts sent = true ↔ sent = kind :=
  decide_eq_true_iff

end Accepted

/-- What an output with a key declares. -/
def NodeKind.declared : NodeKind → String → List Accepted
  | camera, _ => [.exactly .imgFrame]
  | neuralNetwork, key => if key = "out" then [.exactly .nnData] else [.any]
  | streamSync, _ => [.any]
  | xlinkIn, _ => Kind.all.map .exactly
  | xlinkOut, _ => []
  | producer, _ => [.exactly .buffer]

theorem NodeKind.declared_neuralNetwork {key : String} (h : key ≠ "out") : declared neuralNetwork key = [.any] :=
  if_neg h

/-- Whether a kind is among those that an output with a key declares. -/
def NodeKind.declares (kind : NodeKind) (key : String) (sent : Kind) : Bool :=
  (kind.declared key).any fun a => a.accepts sent

namespace Port

def accepts (p : Port) (sent : Kind) : Bool :=
  p.types.any fun a => a.accepts sent

/-- A port as the nodes of a kind have them. -/
def IsOf (kind : NodeKind) (p : Port) : Prop :=
  match p.direction with
  | .input => ∃ a, a.Plain ∧ a ≠ .exactly .buffer ∧ p.types = [a]
  | .output => p.types = kind.declared p.key

theorem IsOf.of_any {kind : NodeKind} {p : Port} (hinput : p.direction = .input) (htypes : p.types = [.any]) :
    p.IsOf kind := by
  rw [IsOf, hinput]
  exact ⟨.any, .any, by decide, htypes⟩

theorem IsOf.of_exactly {kind : NodeKind} {p : Port} {taken : Kind} (hinput : p.direction = .input)
    (htypes : p.types = [.exactly taken]) (hroot : taken ≠ .buffer) : p.IsOf kind := by
  rw [IsOf, hinput]
  exact ⟨.exactly taken, .exactly taken, fun hsame => hroot (congrArg Accepted.kind hsame), htypes⟩

theorem accepts_of_acceptsFrom {input output : Port} {a b : Accepted} (hinput : input.types = [a]) (ha : a.Plain)
    (hroot : a ≠ .exactly .buffer) (houtput : output.types = [b]) (hb : b.Plain) (hlink : input.acceptsFrom output = true)
    {sent : Kind} (hsent : b.accepts sent = true) : input.accepts sent = true := by
  have hcommon : a.accepts b.kind = true := by simpa [acceptsFrom, hinput, houtput] using hlink
  have hgoal : a.accepts sent = true := by
    cases ha with
    | any => exact Accepted.accepts_any sent
    | exactly kind =>
      have hkind : b.kind = kind := Accepted.accepts_exactly.mp hcommon
      cases hb with
      | any => exact absurd (congrArg Accepted.exactly hkind.symm) hroot
      | exactly other => exact Accepted.accepts_exactly.mpr ((Accepted.accepts_exactly.mp hsent).trans hkind)
  simpa [accepts, hinput] using hgoal

end Port

/-- But for the bridge from the host, which declares every kind on its own. -/
theorem NodeKind.plain_of_declares {kind : NodeKind} (hkind : kind ≠ .xlinkIn) {key : String} {sent : Kind}
    (h : kind.declares key sent = true) : ∃ a, a.Plain ∧ kind.declared key = [a] ∧ a.accepts sent = true := by
  have hone {a : Accepted} (ha : a.Plain) (hdeclared : kind.declared key = [a]) :
      ∃ a, a.Plain ∧ kind.declared key = [a] ∧ a.accepts sent = true :=
    ⟨a, ha, hdeclared, by simpa [declares, hdeclared] using h⟩
  cases kind with
  | camera => exact hone (.exactly .imgFrame) rfl
  | neuralNetwork =>
    by_cases hkey : key = "out"
    · exact hone (.exactly .nnData) (if_pos hkey)
    · exact hone .any (declared_neuralNetwork hkey)
  | streamSync => exact hone .any rfl
  | xlinkIn => exact absurd rfl hkind
  | xlinkOut => cases h
  | producer => exact hone (.exactly .buffer) rfl

/-! ## Bodies -/

/-- The results of a network leave at a port of their own. -/
theorem NeuralNetwork.entry_ne_out (key : String) : portKey (some outputGroup) key ≠ "out" := by
  intro h
  have htext := congrArg String.toList h
  simp [portKey, outputGroup] at htext

namespace Body

theorem kind?_set (setting : Setting) (body : Body) : (body.set setting).kind? = body.kind? := by
  cases setting <;> cases body <;> rfl

theorem kind?_register (key : String) (spec : OutputSpec) (body : Body) : (body.register key spec).kind? = body.kind? := by
  cases body <;> rfl

theorem typeName_of_kind? {body : Body} {kind : NodeKind} (h : body.kind? = some kind) : body.typeName = kind.name := by
  cases body <;> cases h <;> rfl

theorem isOf_ports {body : Body} {kind : NodeKind} (h : body.kind? = some kind) : ∀ p ∈ body.ports, p.IsOf kind := by
  intro p hp
  cases body with
  | camera =>
    cases h
    rcases List.mem_append.mp hp with hp | hp
    · simp only [List.mem_cons, List.not_mem_nil, or_false] at hp
      obtain rfl | rfl | rfl := hp
      · exact .of_exactly rfl rfl (by decide)
      · exact .of_exactly rfl rfl (by decide)
      · exact .of_exactly rfl rfl (by decide)
    · obtain ⟨name, -, rfl⟩ := List.mem_map.mp hp
      rfl
  | neuralNetwork =>
    cases h
    simp only [ports, NeuralNetwork.ports, List.mem_cons, List.not_mem_nil, or_false] at hp
    obtain rfl | rfl | rfl := hp
    · exact .of_any rfl rfl
    · rfl
    · rfl
  | streamSync => cases hp
  | xlinkIn =>
    cases h
    obtain rfl := List.mem_singleton.mp hp
    rfl
  | xlinkOut =>
    obtain rfl := List.mem_singleton.mp hp
    exact .of_any rfl rfl
  | producer =>
    cases h
    obtain rfl := List.mem_singleton.mp hp
    rfl
  | plugin => cases h

theorem isOf_entry {body : Body} {kind : NodeKind} (h : body.kind? = some kind) :
    ∀ m ∈ body.maps, ∀ key, (m.entry key).IsOf kind := by
  intro m hm key
  cases body with
  | camera =>
    cases h
    obtain rfl := List.mem_singleton.mp hm
    rfl
  | neuralNetwork =>
    cases h
    simp only [maps, NeuralNetwork.maps, List.mem_cons, List.not_mem_nil, or_false] at hm
    obtain rfl | rfl := hm
    · exact .of_any rfl rfl
    · exact (NodeKind.declared_neuralNetwork (NeuralNetwork.entry_ne_out key)).symm
  | streamSync =>
    cases h
    simp only [maps, StreamSync.maps, List.mem_cons, List.not_mem_nil, or_false] at hm
    obtain rfl | rfl := hm
    · exact .of_any rfl rfl
    · rfl
  | xlinkIn | xlinkOut | producer => cases hm
  | plugin => cases h

end Body

/-! ## Nodes -/

theorem Source.kind_of_resolve {source : Source} {request : Request} {spec : OutputSpec}
    (h : source.resolve request = .ok spec) : spec.kind ∈ source.kinds := by
  rw [resolve] at h
  split at h
  · rename_i hcontains
    obtain ⟨⟨size, horizontal, vertical⟩, -, h⟩ := ok_of_bind h
    dsimp only at h
    split at h
    · obtain ⟨fps, -, h⟩ := ok_of_bind h
      cases h
      exact List.contains_iff_mem.mp hcontains
    · cases h
  · cases h

namespace Node

/-- A node of a kind: its ports, and all that its maps can make, are as the kind has them. -/
structure Typed (kind : NodeKind) (n : Node) : Prop where
  typeName : n.typeName = kind.name
  body : ∀ body, n.body = some body → body.kind? = some kind
  ports : ∀ p ∈ n.ports, p.IsOf kind
  maps : ∀ m ∈ n.maps, ∀ key, (m.entry key).IsOf kind

theorem typed_of_make {id : NodeId} {name : String} {body : Body} {n : Node} {kind : NodeKind}
    (hkind : body.kind? = some kind) (h : make id name body = .ok n) : n.Typed kind := by
  rw [eq_of_make h]
  refine ⟨Body.typeName_of_kind? hkind, fun own hown => ?_, fun p hp => ?_, Body.isOf_entry hkind⟩
  · exact Option.some.inj hown ▸ hkind
  · rcases List.mem_append.mp hp with hp | hp
    · exact Body.isOf_ports hkind p hp
    · obtain ⟨m, hm, hentry⟩ := List.mem_flatMap.mp hp
      obtain ⟨key, -, rfl⟩ := List.mem_map.mp hentry
      exact Body.isOf_entry hkind m hm key

/-- Of the built-in nodes only cameras answer requests, and they answer with frames. -/
theorem Typed.resolve_kind {n : Node} {kind : NodeKind} (hn : n.Typed kind) {request : Request} {spec : OutputSpec}
    (h : n.resolve request = .ok spec) : kind = .camera ∧ spec.kind = .imgFrame := by
  rw [resolve] at h
  split at h
  · rename_i body hbody
    have hkind := hn.body body hbody
    cases body with
    | camera camera =>
      cases hkind
      exact ⟨rfl, List.mem_singleton.mp (Source.kind_of_resolve h)⟩
    | plugin => cases hkind
    | _ => cases h
  · cases h

theorem Revision.typed {n next : Node} {id : NodeId} {kind : NodeKind} (h : n.Revision id next) (hn : n.Typed kind)
    (hbody : ∀ body, next.body = some body → body.kind? = some kind) : next.Typed kind := by
  have hadded {p : Port} (hp : p.IsOf kind) : ∀ q ∈ n.ports ++ [p], q.IsOf kind := fun q hq => by
    rcases List.mem_append.mp hq with hq | hq
    · exact hn.ports q hq
    · exact List.mem_singleton.mp hq ▸ hp
  cases h with
  | body => exact ⟨hn.typeName, hbody, hn.ports, hn.maps⟩
  | entry m key hmap => exact ⟨hn.typeName, hbody, hadded (hn.maps m hmap key), hn.maps⟩
  | queue position port size blocking hport hinput =>
    refine ⟨hn.typeName, hbody, fun q hq => ?_, hn.maps⟩
    rcases List.mem_or_eq_of_mem_set hq with hq | rfl
    · exact hn.ports q hq
    · exact hn.ports port (List.mem_of_getElem? hport)
  | request request m key spec hnew hmap hkey hspec =>
    refine ⟨hn.typeName, hbody, hadded ?_, hn.maps⟩
    obtain ⟨rfl, hframe⟩ := hn.resolve_kind hspec
    have htypes : (n.outputPort m key spec).types = [.exactly .imgFrame] := by rw [outputPort, hframe]
    cases hdirection : (n.outputPort m key spec).direction with
    | input => exact .of_exactly hdirection htypes (by decide)
    | output =>
      rw [Port.IsOf, hdirection]
      exact htypes

end Node

/-! ## Graphs -/

namespace Occurrence

/-- It brings built-in nodes only, and leaves a node of the kind that it is. -/
def IsBuiltIn : Occurrence → Prop
  | operation (.addPlugin ..) => False
  | operation _ => True
  | adjust _ kind change => ∀ body, body.kind? = some kind → (change body).kind? = some kind
  | takeBody _ | advanceState .. => True

theorem IsBuiltIn.kind_of_brings {occurrence : Occurrence} (h : occurrence.IsBuiltIn) {body : Body}
    (hbrings : occurrence.brings = some body) : ∃ kind, body.kind? = some kind := by
  have hconfig (config : NodeConfig) : config.body.kind? = some config.kind := by cases config <;> rfl
  cases occurrence with
  | operation op =>
    cases op with
    | create config | createNamed _ config =>
      cases hbrings
      exact ⟨config.kind, hconfig config⟩
    | addPlugin => exact h.elim
    | _ => cases hbrings
  | _ => cases hbrings

theorem IsBuiltIn.kind_of_revision {occurrence : Occurrence} (h : occurrence.IsBuiltIn) {id : NodeId}
    {revise : Node → Node} (habout : occurrence.revision? = some (id, revise)) {n : Node} {kind : NodeKind}
    (hn : ∀ body, n.body = some body → body.kind? = some kind) :
    ∀ body, (revise n).body = some body → body.kind? = some kind := by
  have hsame {next : Node} (hbody : next.body = n.body) : ∀ body, next.body = some body → body.kind? = some kind := by
    rwa [hbody]
  have hadjusted {own : NodeKind} {change : Body → Body}
      (hchange : ∀ body, body.kind? = some own → (change body).kind? = some own) :
      ∀ body, (Edit.run n (Node.adjust own change)).2.body = some body → body.kind? = some kind := by
    obtain ⟨-, hbody | ⟨old, hold, hkind, hnext⟩⟩ := n.adjust_spec own change
    · exact hsame hbody
    · intro body hbody
      obtain rfl := Option.some.inj (hnext.symm.trans hbody)
      rw [hchange old hkind, ← hkind, hn old hold]
  cases occurrence with
  | operation op =>
    cases op with
    | configure _ setting =>
      cases habout
      exact hadjusted fun body hbody => (Body.kind?_set setting body).trans hbody
    | mapPort direction _ map key =>
      cases habout
      exact hsame (n.mapPort_spec _ direction map key).2
    | setInputQueue _ size blocking =>
      cases habout
      exact hsame (n.setInputQueue_spec _ size blocking).2
    | requestOutput _ request =>
      cases habout
      obtain ⟨-, hbody | ⟨key, spec, hnext⟩⟩ := n.requestOutput_spec id request
      · exact hsame hbody
      · intro body hbody
        rw [hnext] at hbody
        obtain ⟨old, hold, rfl⟩ := Option.map_eq_some_iff.mp hbody
        rw [Body.kind?_register, hn old hold]
    | create | createNamed | addPlugin | inspect | port | portToward | link | unlink | build => cases habout
  | adjust =>
    cases habout
    exact hadjusted h
  | takeBody =>
    cases habout
    exact fun body hbody => nomatch hbody
  | advanceState =>
    cases habout
    exact hn

theorem IsBuiltIn.keeps_typed {occurrence : Occurrence} (h : occurrence.IsBuiltIn) (kind : NodeKind) :
    occurrence.Keeps (Node.Typed kind) := by
  refine keeps_of_revision (fun n state hn => ⟨hn.typeName, hn.body, hn.ports, hn.maps⟩) fun id revise habout n hn => ?_
  have hbody := h.kind_of_revision habout hn.body
  rcases revision_cases habout n with hsame | hrevision | hstripped | ⟨state, hadvanced⟩
  · rwa [hsame]
  · exact hrevision.typed hn hbody
  · rw [hstripped] at hbody ⊢
    exact ⟨hn.typeName, hbody, hn.ports, hn.maps⟩
  · rw [hadvanced]
    exact ⟨hn.typeName, hn.body, hn.ports, hn.maps⟩

end Occurrence

namespace Graph
variable {course : List Occurrence} (hcourse : ∀ occurrence ∈ course, occurrence.IsBuiltIn)
include hcourse

theorem exists_typed {i : Nat} {n : Node} (hn : (({} : Graph).after course).nodes[i]? = some n) :
    ∃ kind, n.Typed kind := by
  obtain ⟨occurrence, hmem, name, body, first, hbrings, hmake, hlasts⟩ := exists_made course hn
  obtain ⟨kind, hkind⟩ := (hcourse occurrence hmem).kind_of_brings hbrings
  exact ⟨kind, hlasts _ (fun later hlater => (hcourse later hlater).keeps_typed kind) (Node.typed_of_make hkind hmake)⟩

/-- The input of a link accepts what its output declares, unless that is the output of a bridge from the host. -/
theorem exists_typed_link {l : Link} (hl : l ∈ (({} : Graph).after course).links) :
    ∃ kind n output input, (({} : Graph).after course).node l.source.node = .ok n ∧ n.Typed kind ∧
      (({} : Graph).after course).descriptor l.source = .ok output ∧
      (({} : Graph).after course).descriptor l.target = .ok input ∧
      (kind ≠ .xlinkIn → ∀ sent, kind.declares output.key sent = true → input.accepts sent = true) := by
  obtain ⟨output, input, hsource, hout, htarget, hin, haccepts⟩ := (wellLinked_empty.after course).fits l hl
  obtain ⟨n, hn, hoffers⟩ := descriptor_eq_ok_iff.mp hsource
  obtain ⟨m, hm, htakes⟩ := descriptor_eq_ok_iff.mp htarget
  obtain ⟨kind, hkind⟩ := exists_typed hcourse hn
  obtain ⟨other, hother⟩ := exists_typed hcourse hm
  have houtput := hkind.ports output (List.mem_of_getElem? hoffers)
  have hinput := hother.ports input (List.mem_of_getElem? htakes)
  rw [Port.IsOf, hout] at houtput
  rw [Port.IsOf, hin] at hinput
  obtain ⟨a, ha, hroot, htypes⟩ := hinput
  refine ⟨kind, n, output, input, node_eq_ok_iff.mpr hn, hkind, hsource, htarget, fun hbridge sent hsent => ?_⟩
  obtain ⟨b, hb, hdeclared, hsent⟩ := NodeKind.plain_of_declares hbridge hsent
  exact Port.accepts_of_acceptsFrom htypes ha hroot (houtput.trans hdeclared) hb haccepts hsent

end Graph

end FrameGraph
