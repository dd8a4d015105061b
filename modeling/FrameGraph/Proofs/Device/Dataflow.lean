import FrameGraph.Proofs.Device.Routes
import FrameGraph.Proofs.Process.Kinds
import FrameGraph.Proofs.Process.Roles

/-!
# Kinds of the messages between nodes

A message behind an input is traced back to where it comes from: a thread has put it there, over a link of the graph, and
the node of the thread has sent it at the output of that link. Unless the node is a bridge from the host this settles its
kind. A bridge has taken it from the queue of its stream, where the host has put it.

* `Device.Crewed.port_of_put`: the output at which a message was sent that a thread has put into the queue of a link.
* `Device.Crewed.put_of_got`: what a bridge from the host has got was put there by the host.
* `Device.kinds_accepted`: what is sent over the links of a graph of built-in nodes is accepted at their ends.
-/

namespace FrameGraph
set_option autoImplicit false

theorem Graph.bodyAt_of_node {g : Graph} {id : NodeId} {n : Node} (h : g.node id = .ok n) : g.bodyAt id = n.body := by
  rw [bodyAt, node_eq_ok_iff.mp h]
  rfl

/-- The cables of a graph that is handed to a device are those of its links. -/
theorem Graph.Assembled.wired {g : Graph} {w : Wiring} (hg : g.Assembled) (hwiring : g.build.2.wiring = .ok w)
    {plan : Plan} (hplan : g.build.1 = .ok plan) : ∃ cableOf : Link → Cable, w = ⟨(g.built plan).links.map cableOf⟩ ∧
      ∀ l ∈ (g.built plan).links, (g.built plan).Carries l (cableOf l) := by
  obtain ⟨cableOf, hcables, hcarries⟩ := hg.build.arises.wellLinked.wiring
  rw [hg.arises.consistent.build_eq hplan] at hwiring hcables hcarries
  exact ⟨cableOf, Except.ok.inj (hwiring.symm.trans hcables), hcarries⟩

namespace Device
variable {s : Settings} {g : Graph} {w : Wiring} {d : Device} {moves : List Move} {id queue : QueueId} {index : Nat}
  {c : Context} {body : Body} {kind : NodeKind} {m : Message}

/-! ## What a thread puts into a queue -/

theorem mem_put_thread (h : m ∈ d.put (.thread index) id moves) :
    ∃ x ∈ (d.acts index moves).flatMap Act.put, x.queue = id ∧ x.message = m := by
  rw [put_thread] at h
  obtain ⟨x, hx, rfl⟩ := List.mem_map.mp h
  obtain ⟨hx, hqueue⟩ := List.mem_filter.mp hx
  exact ⟨x, hx, beq_iff_eq.mp hqueue, rfl⟩

theorem puts_of_put (h : m ∈ d.put (.thread index) id moves) : ∃ before, (d.course before).puts id (.thread index) ≠ [] := by
  obtain ⟨before, move, -, hm⟩ := mem_along.mp h
  split at hm
  · rename_i hparty
    rw [party_eq_thread.mp hparty] at hm
    exact ⟨before, List.ne_nil_of_mem hm⟩
  · cases hm

/-- A message in the queue of a link was sent at an output, and is of a kind that the output declares. A bridge from the
host has got it there. -/
theorem Crewed.port_of_put (hd : Crewed w d) (ht : d.threads[index]? = some ⟨c, .entering body⟩)
    (hkind : body.kind? = some kind) (hlt : id < w.store.size) (hm : m ∈ d.put (.thread index) id moves) :
    ∃ key, (key, id) ∈ c.outputs ∧ kind.declares key m.kind = true ∧
      ∀ config, body = .xlinkIn config → ∃ queue, c.host = some queue ∧ m ∈ d.got (.thread index) queue moves := by
  have hin := List.mem_of_getElem? ht
  have hkeeps := (Process.keeps_kinds hkind).and (Process.keeps_sourced body c fun _ => True)
  obtain ⟨x, hx, rfl, rfl⟩ := mem_put_thread hm
  rcases hkeeps.run_cases ht fun before (_ : before <+: moves) => trivial with
    ⟨hnothing, -⟩ | ⟨p, ⟨hkinds, -, hsourced⟩, hregular, -⟩
  · rw [hnothing] at hx
    cases hx
  obtain ⟨e, he, hx⟩ := hsourced x (List.mem_append_left _ hx)
  obtain ⟨target, htarget, rfl⟩ := List.mem_map.mp hx
  cases hplace : e.place with
  | host =>
    rw [hplace] at htarget
    exact absurd hlt (Nat.not_lt.mpr (hd.behind _ hin target (Option.mem_toList.mp htarget)))
  | port key =>
    rw [hplace] at htarget
    refine ⟨key, Context.mem_outputs_of_consumers htarget, hkinds.suits e he key hplace, ?_⟩
    rintro config rfl
    obtain ⟨queue, hhost, -⟩ := hd.serves _ hin _ _ rfl rfl
    obtain ⟨i, hi, -, hsame⟩ := hkinds.brought (Option.some.inj hkind).symm e he
    have hqueue := (hregular.looked (Process.agenda_xlinkIn config hhost) i hi).2
    refine ⟨queue, hhost, ?_⟩
    rw [got_thread]
    exact List.mem_map.mpr ⟨i, List.mem_filter.mpr ⟨hi, beq_iff_eq.mpr hqueue⟩, hsame⟩

/-- What a bridge from the host has got was put into its stream by the host: no other thread puts anything there, and the
bridge itself puts nothing into the queue that it reads. -/
theorem Crewed.put_of_got {config : XLinkInConfig} (hd : Crewed w d)
    (ht : d.threads[index]? = some ⟨c, .entering (.xlinkIn config)⟩) (hhost : c.host = some queue)
    (hm : m ∈ d.got (.thread index) queue moves) :
    d.inputQueue? config.stream = some queue ∧ m ∈ d.put .host queue moves := by
  have hin := List.mem_of_getElem? ht
  obtain ⟨own, hown, hserved⟩ := hd.serves _ hin _ _ rfl rfl
  obtain rfl : own = queue := Option.some.inj (hown.symm.trans hhost)
  refine ⟨hd.inputQueue?_eq hserved, ?_⟩
  obtain ⟨party, hput⟩ := exists_put (taken_subset_put (hd.new own (hd.below _ hserved)) moves (got_subset _ _ _ _ hm))
  cases party with
  | host => exact hput
  | thread other =>
    obtain ⟨before, hputs⟩ := puts_of_put hput
    obtain rfl := hd.putter_of_host ht hhost hputs
    have hkeeps := (Process.keeps_xlinkIn config hhost).and (Process.keeps_sourced _ c fun _ => True)
    obtain ⟨p, ⟨hlets, -, hsourced⟩, -, -⟩ := hkeeps.run trivial ht fun before (_ : before <+: moves) => trivial
    obtain ⟨x, hx, rfl, -⟩ := mem_put_thread hput
    obtain ⟨e, he, hx⟩ := hsourced x (List.mem_append_left _ hx)
    obtain ⟨target, htarget, rfl⟩ := List.mem_map.mp hx
    rw [hlets.places e he] at htarget
    have hlt := hd.bounded _ hin "out" target (.inr (Context.mem_outputs_of_consumers htarget))
    exact absurd hlt (Nat.not_lt.mpr (hd.behind _ hin target hhost))

/-! ## Whole courses -/

/-- The threads of a device run the bodies that their nodes had in the graph. -/
theorem bodyAt_of_started (hg : g.Assembled) (hstart : (ofSettings s).start g = (.ok (), d))
    (ht : ⟨c, .entering body⟩ ∈ d.threads) : g.bodyAt c.node = some body := by
  obtain ⟨plan, w, next, launch, hplan, -, hmanned, rfl⟩ := started hstart
  have hbody : g.build.2.bodyAt c.node = some body := by
    have hposted := hmanned.posted _ ht
    generalize hthread : (⟨c, .entering body⟩ : Thread) = t at hposted
    cases hposted with
    | plain id own hown =>
      cases hthread
      rwa [((ofSettings s).contextOf_fields g.build.2 w id).1]
    | bridge id own stream queue hown =>
      cases hthread
      change g.build.2.bodyAt ((ofSettings s).contextOf g.build.2 w id).node = some body
      rwa [((ofSettings s).contextOf_fields g.build.2 w id).1]
  rwa [hg.arises.consistent.build_eq hplan, Graph.bodyAt_built] at hbody

/-- A queue behind an input of the graph stands behind an output of a node because of a link from there to the input. -/
theorem Crewed.link_of_output (hd : Crewed w d) (hg : g.Assembled) (hwiring : g.build.2.wiring = .ok w) {plan : Plan}
    (hplan : g.build.1 = .ok plan) {t : Thread} (ht : t ∈ d.threads) {l : Link} {key : String}
    (h : (key, w.queueOf l.target) ∈ t.context.outputs) :
    ∃ o ∈ g.links, o.source.node = t.node ∧ g.keyOf o.source = some key ∧ o.target = l.target := by
  obtain ⟨name, pollInterval, -, houtputs⟩ := hd.context t ht
  obtain ⟨cableOf, rfl, hcarries⟩ := hg.wired hwiring hplan
  rw [houtputs] at h
  obtain ⟨o, ho, hnode, hkey, hqueue⟩ := Graph.link_of_mem_outputs hcarries h
  exact ⟨o, ho, hnode, Graph.keyOf_built g plan ▸ hkey, Graph.target_eq_of_queueOf hcarries ho hqueue⟩

/-- A thread puts behind an input only what the input accepts, if that is true of what the host puts into the streams. -/
theorem accepts_of_put {course : List Occurrence} (hcourse : ∀ occurrence ∈ course, occurrence.IsBuiltIn)
    (hafter : ({} : Graph).after course = g) (hg : g.Assembled) (hwiring : g.build.2.wiring = .ok w)
    (hstart : (ofSettings s).start g = (.ok (), d)) {l : Link} (hl : l ∈ g.links) {input : Port}
    (hinput : g.descriptor l.target = .ok input) (hpushed : ∀ o ∈ g.links, o.target = l.target →
      ∀ n config queue, g.node o.source.node = .ok n → n.body = some (.xlinkIn config) →
        d.inputQueue? config.stream = some queue → m ∈ d.put .host queue moves → input.accepts m.kind = true)
    (hput : m ∈ d.put (.thread index) (w.queueOf l.target) moves) : input.accepts m.kind = true := by
  have hd := crewed_of_started hg hwiring hstart
  obtain ⟨plan, -, -, -, hplan, -⟩ := started hstart
  obtain ⟨before, hputs⟩ := puts_of_put hput
  obtain ⟨c, body, ht, -⟩ := hd.fresh.destinations hputs
  have hin := List.mem_of_getElem? ht
  have hlt : w.queueOf l.target < w.store.size := by
    obtain ⟨cableOf, rfl, hcarries⟩ := hg.wired hwiring hplan
    exact Graph.queueOf_lt hcarries hl
  obtain ⟨n, hn, hbody⟩ := Option.bind_eq_some_iff.mp (bodyAt_of_started hg hstart hin)
  subst hafter
  obtain ⟨kind, htyped⟩ := Graph.exists_typed hcourse hn
  have hkind := htyped.body body hbody
  obtain ⟨key, hkey, hdeclares, hbrought⟩ := hd.port_of_put ht hkind hlt hput
  obtain ⟨o, ho, hnode, hokey, htarget⟩ := hd.link_of_output hg hwiring hplan hin hkey
  obtain ⟨own, other, output, target, hother, hown, hoffers, htakes, haccepts⟩ := Graph.exists_typed_link hcourse ho
  -- The node at the start of the link is that of the thread, and the input at its end is the one in question.
  rw [hnode] at hother
  obtain rfl : n = other := Option.some.inj (hn.symm.trans (Graph.node_eq_ok_iff.mp hother))
  obtain rfl : kind = own := Option.some.inj (hkind.symm.trans (hown.body body hbody))
  obtain rfl : target = input := Except.ok.inj (htakes.symm.trans (htarget ▸ hinput))
  rw [Graph.keyOf, hoffers] at hokey
  obtain rfl : output.key = key := Option.some.inj hokey
  by_cases hbridge : kind = .xlinkIn
  · subst hbridge
    cases body with
    | xlinkIn config =>
      obtain ⟨queue, hhost, hgot⟩ := hbrought config rfl
      obtain ⟨hserved, hpush⟩ := hd.put_of_got ht hhost hgot
      exact hpushed o ho htarget n config queue (hnode ▸ hother) hbody hserved hpush
    | _ => cases hkind
  · exact haccepts hbridge m.kind hdeclares

/-- A graph of built-in nodes. First, what a node can send at the start of a link, whatever it receives, is accepted at the
end of the link, unless the node is a bridge from the host. Second, once a device runs the graph, and the host puts into the
streams of the bridges only what is accepted at the ends of their links, then all that gets behind an input is accepted
there. The host itself has no hand on the queues behind the inputs. -/
theorem kinds_accepted (course : List Occurrence) (hcourse : ∀ occurrence ∈ course, occurrence.IsBuiltIn) :
    let g := ({} : Graph).after course
    (∀ l ∈ g.links, ∃ kind n output input, g.node l.source.node = .ok n ∧ n.typeName = kind.name ∧
      (∀ body, n.body = some body → body.kind? = some kind) ∧
      g.descriptor l.source = .ok output ∧ g.descriptor l.target = .ok input ∧
      (kind ≠ .xlinkIn → ∀ body : Body, body.kind? = some kind → ∀ sent, body.CanSend output.key sent →
        input.accepts sent = true)) ∧
    (g.Assembled → ∀ s w d moves, g.build.2.wiring = .ok w → (ofSettings s).start g = (.ok (), d) →
      (∀ l ∈ g.links, Unsent (w.queueOf l.target) moves) →
      (∀ l ∈ g.links, ∀ n config input queue, g.node l.source.node = .ok n → n.body = some (.xlinkIn config) →
        g.descriptor l.target = .ok input → d.inputQueue? config.stream = some queue →
        ∀ m ∈ d.put .host queue moves, input.accepts m.kind = true) →
      ∀ l ∈ g.links, ∀ input, g.descriptor l.target = .ok input →
        ∀ m ∈ along (fun d m => d.puts (w.queueOf l.target) m) d moves, input.accepts m.kind = true) := by
  intro g
  refine ⟨fun l hl => ?_, fun hg s w d moves hwiring hstart hhost hpushed l hl input hinput m hm => ?_⟩
  · obtain ⟨kind, n, output, input, hn, htyped, hoffers, htakes, haccepts⟩ := Graph.exists_typed_link hcourse hl
    exact ⟨kind, n, output, input, hn, htyped.typeName, htyped.body, hoffers, htakes,
      fun hbridge body hbody sent hsent => haccepts hbridge sent (Body.declares_of_canSend hbody hsent)⟩
  · obtain ⟨party, hput⟩ := exists_put hm
    cases party with
    | host =>
      rw [put_of_unsent (hhost l hl)] at hput
      cases hput
    | thread index =>
      refine accepts_of_put hcourse rfl hg hwiring hstart hl hinput (fun o ho htarget n config queue hn hbody hserved => ?_)
        hput
      exact hpushed o ho n config input queue hn hbody (htarget ▸ hinput) hserved m

/-- A control from the host reaches a camera, and by way of a network a bridge to the host. -/
theorem kinds_accepted_control :
    let course : List Occurrence := [
      .operation (.createNamed "in" (.xlinkIn { stream := "a" })), .operation (.createNamed "nn" (.neuralNetwork {})),
      .operation (.createNamed "out" (.xlinkOut { stream := "b" })), .operation (.createNamed "eye" (.camera {})),
      .operation (.link ⟨0, 0⟩ ⟨1, 0⟩), .operation (.link ⟨1, 2⟩ ⟨2, 0⟩), .operation (.link ⟨0, 0⟩ ⟨3, 1⟩)]
    let g := ({} : Graph).after course
    let d := ((ofSettings {}).start g).2
    let moves : List Move := Move.call 3 (.send ⟨7, 1, .cameraControl {}⟩) :: List.replicate 6 (Move.thread 0) ++
      List.replicate 8 (Move.thread 1)
    let entered (id : QueueId) : List Message := along (fun d m => d.puts id m) d moves
    ∃ inlet control, g.descriptor ⟨2, 0⟩ = .ok inlet ∧ g.descriptor ⟨3, 1⟩ = .ok control ∧
      (∀ sent, (Body.neuralNetwork {}).CanSend "passthrough" sent → inlet.accepts sent = true) ∧
      (entered 1).map Message.kind = [.cameraControl] ∧ (entered 2).map Message.kind = [.cameraControl] ∧
      (∀ m ∈ entered 1, inlet.accepts m.kind = true) ∧ ∀ m ∈ entered 2, control.accepts m.kind = true := by
  intro course g d moves entered
  have hcourse : ∀ occurrence ∈ course, occurrence.IsBuiltIn := by simp [course, Occurrence.IsBuiltIn]
  have hg : g.Assembled := ⟨course, by simp [course, Occurrence.isCall], rfl⟩
  have hok : ((ofSettings {}).start g).1 = .ok () := by decide +kernel
  have hstart : (ofSettings {}).start g = (.ok (), d) := by rw [← hok]
  obtain ⟨plan, w, next, launch, -, hwiring, -⟩ := started hstart
  have hlinks : g.links = [⟨⟨0⟩, ⟨0, 0⟩, ⟨1, 0⟩⟩, ⟨⟨1⟩, ⟨1, 2⟩, ⟨2, 0⟩⟩, ⟨⟨2⟩, ⟨0, 0⟩, ⟨3, 1⟩⟩] := by decide +kernel
  have hqueues : g.build.2.wiring.toOption.map (fun w => [w.queueOf ⟨1, 0⟩, w.queueOf ⟨2, 0⟩, w.queueOf ⟨3, 1⟩]) =
      some [0, 1, 2] := by decide +kernel
  have hbodies : (g.bodyAt ⟨0⟩, g.bodyAt ⟨1⟩) = (some (.xlinkIn { stream := "a" }), some (.neuralNetwork {})) := rfl
  have hkey : g.keyOf ⟨1, 2⟩ = some "passthrough" := by decide +kernel
  have htakes : ∀ l ∈ g.links, (g.descriptor l.target).toOption.map (fun p => p.accepts .cameraControl) = some true := by
    decide +kernel
  have hsource : ∀ l ∈ g.links, l.source.node = ⟨0⟩ ∨ l.source.node = ⟨1⟩ := by decide +kernel
  have hserved : d.inputQueue? "a" = some 3 := by decide +kernel
  have hpushed : (d.put .host 3 moves).map Message.kind = [.cameraControl] := by decide +kernel
  have hentered : (entered 1).map Message.kind = [.cameraControl] ∧ (entered 2).map Message.kind = [.cameraControl] := by
    decide +kernel
  have hunsent : ∀ id < 3, Unsent id moves := by decide +kernel
  obtain ⟨hends, hruns⟩ := kinds_accepted course hcourse
  rw [hwiring] at hqueues
  obtain ⟨hnetwork, hbridge, hcamera⟩ : w.queueOf ⟨1, 0⟩ = 0 ∧ w.queueOf ⟨2, 0⟩ = 1 ∧ w.queueOf ⟨3, 1⟩ = 2 := by
    simpa [Except.toOption] using hqueues
  obtain ⟨hfirst, hsecond⟩ := Prod.mk.inj hbodies
  have hhost : ∀ l ∈ g.links, Unsent (w.queueOf l.target) moves := by
    rw [hlinks]
    intro l hl
    simp only [List.mem_cons, List.not_mem_nil, or_false] at hl
    obtain rfl | rfl | rfl := hl
    · exact hnetwork ▸ hunsent 0 (by decide)
    · exact hbridge ▸ hunsent 1 (by decide)
    · exact hcamera ▸ hunsent 2 (by decide)
  have hfed : ∀ l ∈ g.links, ∀ n config input queue, g.node l.source.node = .ok n → n.body = some (.xlinkIn config) →
      g.descriptor l.target = .ok input → d.inputQueue? config.stream = some queue →
      ∀ m ∈ d.put .host queue moves, input.accepts m.kind = true := by
    intro l hl n config input queue hn hbody hinput hqueue m hm
    have hconfig : config = { stream := "a" } := by
      have hat : g.bodyAt l.source.node = some (.xlinkIn config) := (Graph.bodyAt_of_node hn).trans hbody
      rcases hsource l hl with hnode | hnode <;> rw [hnode] at hat
      · exact (Body.xlinkIn.inj (Option.some.inj (hfirst.symm.trans hat))).symm
      · rw [hsecond] at hat
        cases hat
    rw [hconfig, hserved] at hqueue
    obtain rfl := Option.some.inj hqueue
    have hkind : m.kind ∈ (d.put .host 3 moves).map Message.kind := List.mem_map_of_mem hm
    rw [hpushed, List.mem_singleton] at hkind
    have htaken := htakes l hl
    rw [hinput] at htaken
    exact hkind ▸ Option.some.inj htaken
  have haccepted := hruns hg {} w d moves hwiring hstart hhost hfed
  obtain ⟨kind, n, output, inlet, hn, -, hkinds, houtput, hinlet, haccepts⟩ :=
    hends ⟨⟨1⟩, ⟨1, 2⟩, ⟨2, 0⟩⟩ (by rw [hlinks]; simp)
  obtain ⟨-, -, -, control, -, -, -, -, hcontrol, -⟩ := hends ⟨⟨2⟩, ⟨0, 0⟩, ⟨3, 1⟩⟩ (by rw [hlinks]; simp)
  refine ⟨inlet, control, hinlet, hcontrol, fun sent hsent => ?_, hentered.1, hentered.2, ?_, ?_⟩
  · have hbody : n.body = some (.neuralNetwork {}) := (Graph.bodyAt_of_node hn).symm.trans hsecond
    obtain rfl : kind = .neuralNetwork := (Option.some.inj (hkinds _ hbody)).symm
    rw [Graph.keyOf, houtput] at hkey
    obtain hname : output.key = "passthrough" := Option.some.inj hkey
    exact haccepts (by decide) _ rfl sent (hname ▸ hsent)
  · exact hbridge ▸ haccepted ⟨⟨1⟩, ⟨1, 2⟩, ⟨2, 0⟩⟩ (by rw [hlinks]; simp) inlet hinlet
  · exact hcamera ▸ haccepted ⟨⟨2⟩, ⟨0, 0⟩, ⟨3, 1⟩⟩ (by rw [hlinks]; simp) control hcontrol

end Device

end FrameGraph
