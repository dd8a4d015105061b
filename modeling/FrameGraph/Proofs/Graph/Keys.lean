import FrameGraph.Proofs.Graph.Identifiers
import FrameGraph.Proofs.Graph.Requesting
import FrameGraph.Proofs.Search

/-!
# Keys of ports

The table of a node leads from a key to the last port that has it. Entries of maps and requested outputs get keys
that are free, so ports of a node share a key only if two of the ports that it was made with do.

* `Node.Indexed`: the table is what the ports say. `Node.Indexed.find?_eq_some_iff`: what it leads to.
* `Node.Indexed.exists_freshKey`: the search for a key, and what it finds. `Node.Indexed.find?_freshKey`: this is free.
* `Node.Addressed`: the keys of a node, and those it began with.
* `StreamSync.streamOfKey?_eq_some_iff`: which inputs are read for a stream.
* `Graph.ports_found_by_key`: which nodes have every port found by its key, after any course of occurrences.
-/

namespace FrameGraph
set_option autoImplicit false

/-! ## Tables of positions -/

theorem getElem?_concat_eq_some_iff {keys : List String} {last key : String} {k : Nat} :
    (keys ++ [last])[k]? = some key ↔ keys[k]? = some key ∨ k = keys.length ∧ key = last := by
  rcases Nat.lt_trichotomy k keys.length with hbefore | rfl | hbehind
  · simp [List.getElem?_append_left hbefore, Nat.ne_of_lt hbefore]
  · simp [eq_comm]
  · have hnone : (keys ++ [last])[k]? = none := by
      simp only [List.getElem?_eq_none_iff, List.length_append, List.length_singleton]
      omega
    simp [hnone, List.getElem?_eq_none_iff.mpr (Nat.le_of_lt hbehind), Nat.ne_of_gt hbehind]

/-- In a table that was filled from the front, a key leads to its last place. -/
theorem lookup_reverse_zipIdx (keys : List String) (key : String) (j : Nat) :
    keys.zipIdx.reverse.lookup key = some j ↔ keys[j]? = some key ∧ ∀ k, j < k → keys[k]? ≠ some key := by
  induction keys using List.reverseRecOn with
  | nil => simp
  | append_singleton keys last ih =>
    have htable : (keys ++ [last]).zipIdx.reverse = (last, keys.length) :: keys.zipIdx.reverse := by
      simp [List.zipIdx_append]
    have hbounded : ∀ k : Nat, keys[k]? = some key → k < keys.length :=
      fun k hk => (List.getElem?_eq_some_iff.mp hk).1
    rw [htable, List.lookup_cons]
    simp only [ne_eq, getElem?_concat_eq_some_iff]
    by_cases hlast : key = last
    · subst hlast
      simp only [beq_self_eq_true, and_true, Option.some_inj]
      constructor
      · rintro rfl
        refine ⟨.inr rfl, fun k hk hmem => ?_⟩
        rcases hmem with hmem | rfl
        · exact Nat.lt_asymm hk (hbounded k hmem)
        · exact Nat.lt_irrefl _ hk
      · rintro ⟨hmem | hat, hlater⟩
        · exact absurd (.inr rfl) (hlater keys.length (hbounded j hmem))
        · exact hat.symm
    · simp only [beq_false_of_ne hlast, ih, hlast, and_false, or_false, ne_eq]

/-- Every key is found where it stands exactly if it stands nowhere else. -/
theorem lookup_reverse_zipIdx_of_mem_iff_nodup (keys : List String) :
    (∀ j key, keys[j]? = some key → keys.zipIdx.reverse.lookup key = some j) ↔ keys.Nodup := by
  simp only [lookup_reverse_zipIdx]
  constructor
  · intro hfound
    refine List.pairwise_iff_getElem.mpr fun i j hi hj hlt hsame => ?_
    exact (hfound i keys[i] (List.getElem?_eq_getElem hi)).2 j hlt (by rw [List.getElem?_eq_getElem hj, hsame])
  · intro hnodup j key hj
    refine ⟨hj, fun k hlt hk => ?_⟩
    obtain ⟨hj, rfl⟩ := List.getElem?_eq_some_iff.mp hj
    obtain ⟨hk, hsame⟩ := List.getElem?_eq_some_iff.mp hk
    exact Nat.ne_of_gt hlt ((List.Nodup.getElem_inj_iff hnodup).mp hsame)

namespace Node

/-! ## The table of a node -/

def keys (n : Node) : List String :=
  n.ports.map Port.key

@[simp] theorem keys_getElem? (n : Node) (j : Nat) : n.keys[j]? = n.ports[j]?.map Port.key :=
  List.getElem?_map

@[simp] theorem keys_withPort (n : Node) (port : Port) : (n.withPort port).keys = n.keys ++ [port.key] := by
  simp [keys, withPort]

def Indexed (n : Node) : Prop :=
  n.positions = n.keys.zipIdx.reverse

theorem Indexed.find?_eq_some_iff {n : Node} (h : n.Indexed) {key : String} {j : Nat} :
    n.find? key = some j ↔ n.keys[j]? = some key ∧ ∀ k, j < k → n.keys[k]? ≠ some key := by
  rw [find?, h, lookup_reverse_zipIdx]

theorem Indexed.lt_of_find? {n : Node} (h : n.Indexed) {key : String} {j : Nat} (hj : n.find? key = some j) :
    j < n.ports.length := by
  obtain ⟨hlt, -⟩ := List.getElem?_eq_some_iff.mp (h.find?_eq_some_iff.mp hj).1
  simpa [keys] using hlt

theorem Indexed.find?_eq_none_iff {n : Node} (h : n.Indexed) {key : String} : n.find? key = none ↔ key ∉ n.keys := by
  rw [find?, h, List.lookup_eq_none_iff]
  simp only [List.mem_reverse, List.mem_zipIdx_iff_getElem?, bne_iff_ne, ne_eq]
  constructor
  · intro hnone hmem
    obtain ⟨j, hj⟩ := List.mem_iff_getElem?.mp hmem
    exact hnone (key, j) hj rfl
  · rintro habsent ⟨other, j⟩ hj rfl
    exact habsent (List.mem_of_getElem? hj)

theorem Indexed.withPort {n : Node} (h : n.Indexed) (port : Port) : (n.withPort port).Indexed := by
  have hlength : n.keys.length = n.ports.length := List.length_map _
  rw [Indexed, keys_withPort, List.zipIdx_append, List.reverse_append, ← h]
  simp [Node.withPort, hlength]

theorem indexed_of_make {id : NodeId} {name : String} {body : Body} {n : Node} (h : make id name body = .ok n) :
    n.Indexed := by
  rw [eq_of_make h]
  simp [Indexed, keys, List.zipIdx_map]

/-! ## Keys that are free -/

/-- Numbers make as many different keys of a map as one likes, so the search for one that is free comes to an end. -/
theorem Indexed.exists_freshKey {n : Node} (h : n.Indexed) (map : String) :
    ∃ k ≤ n.ports.length, IsLeast {i : Nat | portKey (some map) (toString i) ∉ n.keys} k ∧
      Search (fun i : Nat => toString i) (fun key => (n.find? (portKey (some map) key)).isNone) 0 (k + 1)
        (toString k) ∧
      n.freshKey map = toString k := by
  have hdistinct : Function.Injective fun i : Nat => portKey (some map) (toString i) :=
    fun i j hsame => Graph.toString_inj ((String.append_right_inj _).mp hsame)
  have hlength : n.keys.length = n.ports.length := List.length_map _
  obtain ⟨k, hk, hleast, hsearch, hfind⟩ := exists_search (fun i : Nat => toString i)
    (fun key => (n.find? (portKey (some map) key)).isNone) hdistinct n.keys
    fun i => by rw [Option.isNone_iff_eq_none, h.find?_eq_none_iff]
  rw [hlength] at hk hfind
  refine ⟨k, hk, hleast, hsearch, ?_⟩
  rw [freshKey, hfind _ (Nat.lt_succ_self _)]

/-- A port that belongs to no map has the key that the first entry would get. -/
example :
    let out : Port := { name := "out.0", direction := .output, types := [.any] }
    let body : Body := .plugin { typeName := "Relay", ports := [out], maps := [{ name := "out", template := out }] }
    (Node.make ⟨0⟩ "relay" body).map (fun n => n.freshKey "out") = .ok "1" := by decide +kernel

theorem Indexed.find?_freshKey {n : Node} (h : n.Indexed) (map : String) :
    n.find? (portKey (some map) (n.freshKey map)) = none := by
  obtain ⟨k, -, hleast, -, hkey⟩ := h.exists_freshKey map
  rw [hkey]
  exact h.find?_eq_none_iff.mpr hleast.1

theorem Indexed.find?_keyFor {n : Node} (h : n.Indexed) {map key : String} {request : Request}
    (hkey : n.keyFor map request = .ok key) : n.find? (portKey (some map) key) = none := by
  unfold keyFor at hkey
  split at hkey
  · cases hkey
    exact h.find?_freshKey map
  · split at hkey
    · cases hkey
    · rename_i hfree
      cases hkey
      simpa using hfree

/-- A revision leaves the keys and their table alone, or adds a port under a free key. -/
theorem Indexed.revision {n next : Node} {id : NodeId} (h : n.Indexed) (hnext : n.Revision id next) :
    next.keys = n.keys ∧ next.positions = n.positions ∨
      ∃ port, n.find? port.key = none ∧ next.keys = (n.withPort port).keys ∧
        next.positions = (n.withPort port).positions := by
  cases hnext with
  | body => exact .inl ⟨rfl, rfl⟩
  | entry m key hmap hfree => exact .inr ⟨m.entry key, hfree, rfl, rfl⟩
  | queue position port size blocking hport =>
    refine .inl ⟨?_, rfl⟩
    have hself : n.ports.set position port = n.ports := by
      obtain ⟨hlt, rfl⟩ := List.getElem?_eq_some_iff.mp hport
      exact List.set_getElem_self hlt
    rw [keys, List.map_set, keys]
    conv_rhs => rw [← hself, List.map_set]
    rfl
  | request request m key spec _ _ hkey =>
    exact .inr ⟨n.outputPort m key spec, by rw [outputPort_key]; exact h.find?_keyFor hkey, rfl, rfl⟩

theorem Indexed.revised {n next : Node} {id : NodeId} (h : n.Indexed) (hnext : n.Revision id next) : next.Indexed := by
  rcases h.revision hnext with ⟨hkeys, hpositions⟩ | ⟨port, -, hkeys, hpositions⟩
  · rw [Indexed, hkeys, hpositions, h]
  · rw [Indexed, hkeys, hpositions, h.withPort port]

/-! ## Keys for life -/

/-- The keys of a node that was made with the initial ones. -/
structure Addressed (initial : List String) (n : Node) : Prop where
  indexed : n.Indexed
  grown : initial <+: n.keys
  distinct : initial.Nodup → n.keys.Nodup

theorem lasting_addressed (initial : List String) : Lasting (Addressed initial) where
  revised hnext h := by
    rcases h.indexed.revision hnext with ⟨hkeys, -⟩ | ⟨port, hfree, hkeys, -⟩
    · exact ⟨h.indexed.revised hnext, by rw [hkeys]; exact h.grown, by rw [hkeys]; exact h.distinct⟩
    · refine ⟨h.indexed.revised hnext, ?_, fun hinitial => ?_⟩
      · rw [hkeys, keys_withPort]
        exact h.grown.trans (List.prefix_append _ _)
      · rw [hkeys, keys_withPort, ← List.concat_eq_append]
        exact List.Nodup.concat (h.indexed.find?_eq_none_iff.mp hfree) (h.distinct hinitial)
  stripped h := ⟨h.indexed, h.grown, h.distinct⟩
  advanced _ h := ⟨h.indexed, h.grown, h.distinct⟩

end Node

theorem Node.listing_keys (n : Node) (id : NodeId) : (n.listing id).map (fun entry => entry.2.key) = n.keys := by
  have hports : n.ports.zipIdx.map Prod.fst = n.ports := List.zipIdx_map_fst 0 n.ports
  rw [listing, keys, ← hports, List.map_map, List.map_map, hports]
  rfl

def Body.initialKeys (body : Body) : List String :=
  (Node.initialPorts body).map Port.key

theorem Node.addressed_of_make {id : NodeId} {name : String} {body : Body} {n : Node} (h : make id name body = .ok n) :
    n.Addressed body.initialKeys := by
  have hkeys : n.keys = body.initialKeys := by rw [eq_of_make h]; rfl
  exact ⟨indexed_of_make h, hkeys ▸ List.prefix_refl _, fun hinitial => hkeys ▸ hinitial⟩

/-- The ports of a node are found by their keys exactly if it began with distinct ones. -/
theorem Node.Addressed.nodup_iff {n : Node} {initial : List String} (h : n.Addressed initial) :
    n.keys.Nodup ↔ initial.Nodup :=
  ⟨fun hnodup => hnodup.sublist h.grown.sublist, h.distinct⟩

theorem Node.Indexed.found_iff {n : Node} (h : n.Indexed) :
    (∀ j port, n.ports[j]? = some port → n.find? port.key = some j) ↔ n.keys.Nodup := by
  rw [← lookup_reverse_zipIdx_of_mem_iff_nodup, ← h]
  constructor
  · intro hfound j key hj
    rw [keys_getElem?, Option.map_eq_some_iff] at hj
    obtain ⟨port, hport, rfl⟩ := hj
    exact hfound j port hport
  · intro hfound j port hport
    exact hfound j port.key (by rw [keys_getElem?, hport]; rfl)

namespace Graph

theorem addressed (course : List Occurrence) {i : Nat} {n : Node}
    (hn : (({} : Graph).after course).nodes[i]? = some n) :
    ∃ occurrence ∈ course, ∃ body, occurrence.brings = some body ∧ n.Addressed body.initialKeys := by
  obtain ⟨occurrence, hmem, name, body, first, hbrings, hmake, hlasts⟩ := exists_made course hn
  exact ⟨occurrence, hmem, body, hbrings, hlasts _ (fun later _ => (Node.lasting_addressed _).keeps later)
    (Node.addressed_of_make hmake)⟩

theorem port_eq_ok_iff {g : Graph} {id : NodeId} {key : String} {p : PortId} :
    g.port id key = .ok p ↔ ∃ n j, g.nodes[id.index]? = some n ∧ n.find? key = some j ∧ p = .ofNode id j := by
  constructor
  · intro h
    obtain ⟨n, hn, h⟩ := ok_of_bind h
    split at h
    · rename_i j hj
      cases h
      exact ⟨n, j, node_eq_ok_iff.mp hn, hj, rfl⟩
    · cases h
  · rintro ⟨n, j, hn, hj, rfl⟩
    rw [port, node_eq_ok_iff.mpr hn]
    simp only [bind, Except.bind, hj]
    rfl

/-- A port answered for a key is that at the position found. -/
theorem port_eq_ok_ofNode_iff {g : Graph} {id : NodeId} {n : Node} (hn : g.nodes[id.index]? = some n)
    (hindexed : n.Indexed) (hroom : n.ports.length ≤ maxPortsPerNode) {key : String} {j : Nat}
    (hj : j < n.ports.length) : g.port id key = .ok (.ofNode id j) ↔ n.find? key = some j := by
  rw [port_eq_ok_iff]
  constructor
  · rintro ⟨m, k, hm, hk, hsame⟩
    obtain rfl : n = m := Option.some.inj (hn.symm.trans hm)
    have hk' := Nat.lt_of_lt_of_le (hindexed.lt_of_find? hk) hroom
    obtain ⟨rfl, -⟩ := (PortId.ofNode_eq_ofNode_iff (Nat.lt_of_lt_of_le hj hroom) hk').mp hsame
    exact hk
  · intro hfound
    exact ⟨n, j, hn, hfound, rfl⟩

end Graph

/-! ## The keys that built-in nodes begin with -/

namespace StreamSync

theorem inputKey_inj {x y : String} (h : inputKey x = inputKey y) : x = y :=
  (String.append_left_inj _).mp ((String.append_right_inj _).mp h)

theorem outputKey_inj {x y : String} (h : outputKey x = outputKey y) : x = y :=
  (String.append_left_inj _).mp ((String.append_right_inj _).mp h)

theorem between?_eq_some_iff {first last text mid : List Char} :
    between? first last text = some mid ↔ text = first ++ mid ++ last := by
  unfold between?
  constructor
  · intro h
    split at h
    · next hfirst =>
      obtain ⟨rest, rfl⟩ := List.isPrefixOf_iff_prefix.mp hfirst
      simp only [List.drop_left] at h
      split at h
      · next hlast =>
        obtain ⟨inner, rfl⟩ := List.isSuffixOf_iff_suffix.mp hlast
        rw [List.length_append, Nat.add_sub_cancel, List.take_left, Option.some_inj] at h
        rw [h, List.append_assoc]
      · cases h
    · cases h
  · rintro rfl
    simp [List.append_assoc]

/-- A key that leads to a stream is that of its input. -/
theorem streamOfKey?_eq_some_iff {key stream : String} : streamOfKey? key = some stream ↔ key = inputKey stream := by
  rw [streamOfKey?, Option.map_eq_some_iff]
  simp only [between?_eq_some_iff]
  constructor
  · rintro ⟨mid, htext, rfl⟩
    rw [← String.toList_inj, htext]
    simp [inputKey, inputEntry, portKey]
  · rintro rfl
    exact ⟨stream.toList, by simp [inputKey, inputEntry, portKey], String.ofList_toList⟩

theorem inputKey_ne_outputKey (x y : String) : inputKey x ≠ outputKey y := by
  intro hsame
  have htext := congrArg String.toList hsame
  simp [inputKey, outputKey, portKey, inputGroup, outputGroup] at htext

end StreamSync

namespace Graph

/-- Of the built-in nodes only those that synchronize may begin with a key twice, if a stream is given twice. -/
theorem nodup_initialKeys_iff (config : NodeConfig) :
    config.body.initialKeys.Nodup ↔ ∀ c, config = .streamSync c → c.streams.Nodup := by
  cases config with
  | streamSync c =>
    have hkeys : (NodeConfig.streamSync c).body.initialKeys =
        c.streams.map StreamSync.inputKey ++ c.streams.map StreamSync.outputKey := by
      simp [Body.initialKeys, Node.initialPorts, NodeConfig.body, Body.ports, Body.maps, StreamSync.maps,
        PortMap.initialEntries, PortMap.entry, Port.key, Function.comp_def]
      rfl
    rw [hkeys]
    constructor
    · rintro hnodup _ ⟨⟩
      exact List.Nodup.of_map _ (List.nodup_append.mp hnodup).1
    · intro hstreams
      have hstreams := hstreams c rfl
      refine List.nodup_append.mpr ⟨hstreams.map fun _ _ => StreamSync.inputKey_inj,
        hstreams.map fun _ _ => StreamSync.outputKey_inj, ?_⟩
      intro a ha b hb
      obtain ⟨stream, -, rfl⟩ := List.mem_map.mp ha
      obtain ⟨other, -, rfl⟩ := List.mem_map.mp hb
      exact StreamSync.inputKey_ne_outputKey stream other
  | camera | neuralNetwork | xlinkIn | xlinkOut | producer =>
    refine ⟨fun _ c hc => ?_, fun _ => ?_⟩
    · cases hc
    · simp only [Body.initialKeys, Node.initialPorts, NodeConfig.body, Body.ports, Body.maps]
      decide

/-! ## Ports by their keys -/

/-- A node came from a body that an occurrence brought. All its ports are found by their keys exactly if this body gave
it distinct ones to begin with, and exactly then the keys are distinct. A built-in body does so unless it synchronizes
streams of which two have one name. In any case a key leads to the last port that has it. -/
theorem ports_found_by_key (course : List Occurrence) (id : NodeId) (listed : List (PortId × Port))
    (hlisted : (({} : Graph).after course).ports id = .ok listed) :
    let g := ({} : Graph).after course
    ∃ occurrence ∈ course, ∃ body, occurrence.brings = some body ∧
      body.initialKeys <+: listed.map (fun entry => entry.2.key) ∧
      ((∀ entry ∈ listed, g.port id entry.2.key = .ok entry.1) ↔ body.initialKeys.Nodup) ∧
      ((listed.map fun entry => entry.2.key).Nodup ↔ body.initialKeys.Nodup) ∧
      (∀ config : NodeConfig, body = config.body →
        (body.initialKeys.Nodup ↔ ∀ c, config = .streamSync c → c.streams.Nodup)) ∧
      (∀ (j : Nat) p port, listed[j]? = some (p, port) →
        (g.port id port.key = .ok p ↔ ∀ k, j < k → ∀ other, listed[k]? = some other → other.2.key ≠ port.key)) ∧
      (id.index < 1048576 → ∀ entry ∈ listed, g.descriptor entry.1 = .ok entry.2) := by
  intro g
  obtain ⟨n, hn, rfl⟩ := ports_eq_ok_iff.mp hlisted
  obtain ⟨occurrence, hmem, body, hbrings, haddressed⟩ := addressed course hn
  have hindexed := haddressed.indexed
  have hport {j : Nat} {key : String} (hj : j < n.ports.length) :
      g.port id key = .ok (.ofNode id j) ↔ n.find? key = some j :=
    port_eq_ok_ofNode_iff hn hindexed (ports_length_le course hn) hj
  have hkeys := n.listing_keys id
  refine ⟨occurrence, hmem, body, hbrings, hkeys ▸ haddressed.grown, ?_, hkeys ▸ haddressed.nodup_iff, ?_, ?_, ?_⟩
  · rw [← haddressed.nodup_iff, ← hindexed.found_iff]
    constructor
    · intro hfound j port hj
      have hlt := (List.getElem?_eq_some_iff.mp hj).1
      exact (hport hlt).mp (hfound (.ofNode id j, port) (Node.mem_listing.mpr ⟨j, hj, rfl⟩))
    · rintro hfound ⟨p, port⟩ hentry
      obtain ⟨j, hj, rfl⟩ := Node.mem_listing.mp hentry
      exact (hport (List.getElem?_eq_some_iff.mp hj).1).mpr (hfound j port hj)
  · rintro config rfl
    exact nodup_initialKeys_iff config
  · intro j p port hplace
    obtain ⟨hj, rfl⟩ := Node.listing_getElem?.mp hplace
    rw [hport (List.getElem?_eq_some_iff.mp hj).1, hindexed.find?_eq_some_iff, ← hkeys]
    simp only [List.getElem?_map, hplace, Option.map_some, true_and]
    simp only [ne_eq, Option.map_eq_some_iff, not_exists, not_and]
  · rintro hfew ⟨p, port⟩ hentry
    obtain ⟨j, hj, rfl⟩ := Node.mem_listing.mp hentry
    have hlt := Nat.lt_of_lt_of_le (List.getElem?_eq_some_iff.mp hj).1 (ports_length_le course hn)
    refine descriptor_eq_ok_iff.mpr ⟨n, ?_, ?_⟩
    · rwa [PortId.ofNode_node_eq_iff.mpr hfew]
    · rwa [PortId.ofNode_position hlt]

/-- A node that synchronizes two streams, and gets the input of a third. -/
theorem ports_found_by_key_third_stream :
    let course : List Occurrence := [.operation (.create (.streamSync { streams := ["a", "b"] })),
      .operation (.mapPort .input ⟨0⟩ "inputs" "c_in")]
    let g := ({} : Graph).after course
    ∃ listed, g.ports ⟨0⟩ = .ok listed ∧ listed.length = 5 ∧ (listed.map fun entry => entry.2.key).Nodup ∧
      ∀ entry ∈ listed, g.port ⟨0⟩ entry.2.key = .ok entry.1 := by
  intro course g
  obtain ⟨listed, hlisted, hlength⟩ : ∃ listed, g.ports ⟨0⟩ = .ok listed ∧ listed.length = 5 := ⟨_, rfl, rfl⟩
  obtain ⟨occurrence, hmem, body, hbrings, -, hfound, hdistinct, hconfig, -⟩ :=
    ports_found_by_key course ⟨0⟩ listed hlisted
  have hinitial : body.initialKeys.Nodup := by
    rcases List.mem_cons.mp hmem with rfl | hmem
    · cases hbrings
      refine (hconfig (.streamSync { streams := ["a", "b"] }) rfl).mpr fun c hc => ?_
      cases hc
      decide
    · rw [List.mem_singleton.mp hmem] at hbrings
      cases hbrings
  exact ⟨listed, hlisted, hlength, hdistinct.mpr hinitial, hfound.mpr hinitial⟩

/-- Two streams of one name, of whose inputs the first is out of reach. -/
theorem ports_lost_under_one_key :
    let g := run {} [.create (.streamSync { streams := ["a", "a"] })]
    g.Reachable ∧
      ¬(∀ id listed, g.ports id = .ok listed → ∀ entry ∈ listed, g.port id entry.2.key = .ok entry.1) ∧
      ¬∀ id listed, g.ports id = .ok listed → (listed.map fun entry => entry.2.key).Nodup := by
  intro g
  obtain ⟨port, rest, hlisted, hkey, hkeys⟩ : ∃ port rest, g.ports ⟨0⟩ = .ok ((⟨0, 0⟩, port) :: rest) ∧
      port.key = "inputs.a_in" ∧ rest.map (fun entry => entry.2.key) = ["inputs.a_in", "outputs.a_out", "outputs.a_out"] :=
    ⟨_, _, rfl, rfl, rfl⟩
  have hport : g.port ⟨0⟩ "inputs.a_in" = .ok ⟨0, 1⟩ := by rfl
  refine ⟨⟨_, rfl⟩, fun hfound => ?_, fun hdistinct => ?_⟩
  · have hfirst := hfound ⟨0⟩ _ hlisted _ List.mem_cons_self
    rw [hkey, hport] at hfirst
    cases hfirst
  · have hnodup := hdistinct ⟨0⟩ _ hlisted
    rw [List.map_cons, hkey, hkeys] at hnodup
    revert hnodup
    decide

end Graph

end FrameGraph
