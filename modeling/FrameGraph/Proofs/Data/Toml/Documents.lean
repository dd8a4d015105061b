import FrameGraph.Proofs.Data.Toml.Assignments

/-!
# Documents read back from TOML

A document of tables is read line by line. `Leads` says what a piece of its text makes of the tables read
so far, whatever comes after it, so that the pieces can be put together as they are written.

* `IsTable`: the entries that a table can be written from, and `given`: those that are written.
* `leads_assignments`, `leads_table`: the lines of a table.
* `read?_document`: every document that can be written is read back.
-/

namespace FrameGraph.Data.Toml
set_option autoImplicit false
open Number

/-! ## Entries -/

namespace Entries
variable {key name : String} {entries : Entries}

theorem get?_append_of_not_mem (h : key ∉ entries.map Prod.fst) (more : Entries) :
    get? key (entries ++ more) = get? key more := by
  induction entries with
  | nil => rfl
  | cons entry entries ih =>
    simp only [List.map_cons, List.mem_cons, not_or] at h
    simp [get?, Ne.symm h.1, ih h.2]

theorem put_append_of_not_mem (h : key ∉ entries.map Prod.fst) (more : Entries) (item : Item) :
    put key item (entries ++ more) = entries ++ put key item more := by
  induction entries with
  | nil => rfl
  | cons entry entries ih =>
    simp only [List.map_cons, List.mem_cons, not_or] at h
    simp [put, Ne.symm h.1, ih h.2]

/-- Names that are new stay so when another one is added. -/
theorem fresh_append {α : Type} {others : List (String × α)} (item : Item)
    (hothers : ∀ e ∈ others, e.1 ∉ entries.map Prod.fst) (hname : name ∉ others.map Prod.fst) :
    ∀ e ∈ others, e.1 ∉ (entries ++ [(name, item)]).map Prod.fst := by
  intro e he
  rw [List.map_append, List.mem_append, not_or]
  refine ⟨hothers e he, fun h => hname ?_⟩
  have heq : e.1 = name := List.mem_singleton.1 h
  exact heq ▸ List.mem_map_of_mem he

end Entries

/-! ## Pieces of a document -/

/-- Reading the text `cs` takes the document from one state to the next, whatever follows. -/
def Leads (doc : Document) (cs : List Char) (next : Document) : Prop :=
  ∀ fuel rest, ∃ left, fuel ≤ left ∧
    scanLines (fuel + cs.length) doc (cs ++ rest) = scanLines left next rest

namespace Leads
variable {a b c : Document} {cs ds : List Char}

theorem refl (doc : Document) : Leads doc [] doc := fun fuel _ => ⟨fuel, Nat.le_refl _, rfl⟩

theorem append (h : Leads a cs b) (h' : Leads b ds c) : Leads a (cs ++ ds) c := by
  intro fuel rest
  obtain ⟨left, hleft, heq⟩ := h (fuel + ds.length) (ds ++ rest)
  obtain ⟨left', hleft', heq'⟩ := h' (left - ds.length) rest
  refine ⟨left', by omega, ?_⟩
  rw [Nat.sub_add_cancel (by omega)] at heq'
  rw [List.length_append, List.append_assoc, ← heq', ← heq]
  congr 1
  omega

/-- A line is a piece. -/
theorem line (cs : List Char) {l : Line} (hne : cs ≠ []) (hscan : ∀ rest, scanLine (cs ++ rest) = some (l, rest))
    (happly : l.apply a = some b) : Leads a cs b := by
  intro fuel rest
  cases cs with
  | nil => exact absurd rfl hne
  | cons c cs =>
    refine ⟨fuel + cs.length, by omega, ?_⟩
    have hscan := hscan rest
    rw [List.cons_append] at hscan ⊢
    simp [← Nat.add_assoc, scanLines, hscan, happly]

/-- A text that leads on to its end. -/
theorem scanLines_eq (h : Leads a cs b) : scanLines cs.length a cs = some b := by
  obtain ⟨left, -, heq⟩ := h 0 []
  rw [Nat.zero_add, List.append_nil] at heq
  rw [heq]
  cases left <;> rfl

end Leads

/-! ## Tables -/

/-- Entries that stand in lines of a table, where null ones are left out. -/
structure IsTable (entries : Table) : Prop where
  bare : ∀ e ∈ entries, Bare e.1
  scalar : ∀ e ∈ entries, e.2 = .null ∨ Scalar e.2
  distinct : (entries.map Prod.fst).Nodup

theorem IsTable.of_cons {name : String} {d : Datum} {entries : Table}
    (h : IsTable ((name, d) :: entries)) :
    Bare name ∧ (d = .null ∨ Scalar d) ∧ name ∉ entries.map Prod.fst ∧ IsTable entries := by
  obtain ⟨hname, hbare⟩ := List.forall_mem_cons.1 h.bare
  obtain ⟨hd, hscalar⟩ := List.forall_mem_cons.1 h.scalar
  have hdistinct := h.distinct
  rw [List.map_cons, List.nodup_cons] at hdistinct
  exact ⟨hname, hd, hdistinct.1, hbare, hscalar, hdistinct.2⟩

/-- The entries that are written, as they are read back. -/
def given : Table → Table
  | [] => []
  | (_, .null) :: rest => given rest
  | (name, d) :: rest => (name, reread d) :: given rest

def items (entries : Table) : Entries :=
  entries.map fun e => (e.1, .value e.2)

section
variable {name header key : String} {d : Datum} {entries : Table} {cs : List Char}

theorem given_cons (hd : Scalar d) : given ((name, d) :: entries) = (name, reread d) :: given entries := by
  cases hd <;> rfl

theorem assignments?_cons (hd : Scalar d) : assignments? ((name, d) :: entries) = (do
    let value ← scalar? d
    let more ← assignments? entries
    return name.toList ++ [' ', '=', ' '] ++ value ++ '\n' :: more) := by
  cases hd <;> rfl

/-! ## Lines as changes -/

theorem Line.apply_header {doc : Document} (h : key ∉ doc.root.map Prod.fst) :
    (Line.header [] key).apply doc = some ⟨[key], doc.root ++ [(key, .table .defined [])]⟩ := by
  have hget := Entries.get?_append_of_not_mem h []
  have hput := Entries.put_append_of_not_mem h [] (.table .defined [])
  rw [List.append_nil] at hget hput
  simp [Line.apply, openTable, descend, hget, hput, Entries.get?, Entries.put]

/-- An assignment adds to the table of the last header. -/
theorem Line.apply_assignment {before sub : Entries} (hheader : header ∉ before.map Prod.fst)
    (hkey : key ∉ sub.map Prod.fst) (d : Datum) :
    (Line.assignment [] key d).apply ⟨[header], before ++ [(header, .table .defined sub)]⟩ =
      some ⟨[header], before ++ [(header, .table .defined (sub ++ [(key, .value d)]))]⟩ := by
  have hget := Entries.get?_append_of_not_mem hkey []
  have hput := Entries.put_append_of_not_mem hkey [] (.value d)
  rw [List.append_nil] at hget hput
  simp [Line.apply, assignIn, assign, descend, Entries.get?_append_of_not_mem hheader,
    Entries.put_append_of_not_mem hheader, Entries.add?, hget, hput, Entries.get?, Entries.put]

/-! ## The lines of a table -/

theorem leads_assignments {before : Entries} (hheader : header ∉ before.map Prod.fst) :
    ∀ {entries : Table} {sub : Entries} {cs : List Char}, IsTable entries →
      (∀ e ∈ entries, e.1 ∉ sub.map Prod.fst) → assignments? entries = some cs →
      Leads ⟨[header], before ++ [(header, .table .defined sub)]⟩ cs
        ⟨[header], before ++ [(header, .table .defined (sub ++ items (given entries)))]⟩
  | [], sub, cs, _, _, hcs => by
    obtain rfl := Option.some.inj hcs
    simpa [given, items] using Leads.refl _
  | (name, d) :: entries, sub, cs, htable, hsub, hcs => by
    obtain ⟨hname, rfl | hd, hdistinct, hrest⟩ := htable.of_cons
    · have hcs : assignments? entries = some cs := hcs
      have hfresh := (List.forall_mem_cons.1 hsub).2
      have ih := leads_assignments hheader hrest hfresh hcs
      exact ih
    · obtain ⟨hkey, hfresh⟩ := List.forall_mem_cons.1 hsub
      rw [assignments?_cons hd] at hcs
      simp only [Option.bind_eq_bind, Option.bind_eq_some_iff, Option.pure_def, Option.some.injEq] at hcs
      obtain ⟨value, hvalue, more, hmore, rfl⟩ := hcs
      have hline := Leads.line (name.toList ++ ' ' :: '=' :: ' ' :: (value ++ ['\n'])) (by simp)
        (fun rest => by simpa using scanLine_assignment hname (written_of_scalar? hd hvalue) rest)
        (Line.apply_assignment hheader hkey (reread d))
      have ih := leads_assignments hheader hrest
        (Entries.fresh_append (.value (reread d)) hfresh hdistinct) hmore
      simpa [given_cons hd, items] using hline.append ih

theorem leads_table {doc : Document} (hname : Bare name) (htable : IsTable entries)
    (hfresh : name ∉ doc.root.map Prod.fst) (hcs : table? name (.record entries) = some cs) :
    Leads doc cs ⟨[name], doc.root ++ [(name, .table .defined (items (given entries)))]⟩ := by
  simp only [table?, Option.map_eq_some_iff] at hcs
  obtain ⟨lines, hlines, rfl⟩ := hcs
  have hheader := Leads.line ('[' :: (name.toList ++ [']', '\n'])) (by simp)
    (fun rest => by simpa using scanLine_header hname rest) (Line.apply_header hfresh)
  simpa using hheader.append (leads_assignments hfresh htable (by simp) hlines)

/-! ## The tables of a document -/

structure AreTables (tables : List (String × Table)) : Prop where
  bare : ∀ t ∈ tables, Bare t.1
  table : ∀ t ∈ tables, IsTable t.2
  distinct : (tables.map Prod.fst).Nodup

def tableItems (tables : List (String × Table)) : Entries :=
  tables.map fun t => (t.1, .table .defined (items (given t.2)))

theorem AreTables.of_cons {name : String} {entries : Table}
    {tables : List (String × Table)} (h : AreTables ((name, entries) :: tables)) :
    Bare name ∧ IsTable entries ∧ name ∉ tables.map Prod.fst ∧ AreTables tables := by
  obtain ⟨hname, hbare⟩ := List.forall_mem_cons.1 h.bare
  obtain ⟨htable, hrest⟩ := List.forall_mem_cons.1 h.table
  have hdistinct := h.distinct
  rw [List.map_cons, List.nodup_cons] at hdistinct
  exact ⟨hname, htable, hdistinct.1, hbare, hrest, hdistinct.2⟩

theorem tables?_cons {name : String} {entries : Table}
    {next : String × Table} {tables : List (String × Table)}
    {cs : List Char} (h : tables? (tableEntries ((name, entries) :: next :: tables)) = some cs) :
    ∃ first more, table? name (.record entries) = some first ∧
      tables? (tableEntries (next :: tables)) = some more ∧ cs = first ++ '\n' :: more := by
  simp only [tableEntries, List.map_cons, tables?, Option.bind_eq_bind, Option.bind_eq_some_iff,
    Option.pure_def, Option.some.injEq] at h
  obtain ⟨first, hfirst, more, hmore, rfl⟩ := h
  exact ⟨first, more, hfirst, hmore, rfl⟩

theorem leads_tables : ∀ {tables : List (String × Table)} (header : List String)
    {root : Entries} {cs : List Char}, AreTables tables → (∀ t ∈ tables, t.1 ∉ root.map Prod.fst) →
    tables? (tableEntries tables) = some cs →
    ∃ next, Leads ⟨header, root⟩ cs ⟨next, root ++ tableItems tables⟩
  | [], header, root, cs, _, _, hcs => by
    obtain rfl := Option.some.inj hcs
    exact ⟨header, by simpa [tableItems] using Leads.refl ⟨header, root⟩⟩
  | [(name, entries)], header, root, cs, htables, hfresh, hcs =>
    ⟨[name], leads_table (htables.bare _ List.mem_cons_self) (htables.table _ List.mem_cons_self)
      (hfresh _ List.mem_cons_self) hcs⟩
  | (name, entries) :: next :: tables, header, root, cs, htables, hfresh, hcs => by
    obtain ⟨hname, htable, hdistinct, hrest⟩ := htables.of_cons
    obtain ⟨hkey, hfresh⟩ := List.forall_mem_cons.1 hfresh
    obtain ⟨first, more, hfirst, hmore, rfl⟩ := tables?_cons hcs
    have hblank (doc : Document) : Leads doc ['\n'] doc :=
      Leads.line ['\n'] (by simp) (fun rest => by simpa using scanLine_empty rest) rfl
    obtain ⟨last, ih⟩ := leads_tables [name] hrest
      (Entries.fresh_append (.table .defined (items (given entries))) hfresh hdistinct) hmore
    have hone : Leads ⟨header, root⟩ first _ := leads_table hname htable hkey hfirst
    have hall := hone.append ((hblank _).append ih)
    exact ⟨last, by simpa [tableItems] using hall⟩

/-! ## Line ends -/

theorem unifyLineEnds_eq : ∀ {cs : List Char}, '\r' ∉ cs → unifyLineEnds cs = cs
  | [], _ => rfl
  | c :: cs, h => by
    simp only [List.mem_cons, not_or] at h
    rw [unifyLineEnds, unifyLineEnds_eq h.2]
    exact fun rest hc => absurd hc.symm h.1

theorem return_not_mem_of_bare (hname : Bare name) : '\r' ∉ name.toList := fun h =>
  absurd (List.all_eq_true.1 hname.2 _ h) (by decide)

theorem return_not_mem_assignments : ∀ {entries : Table} {cs : List Char},
    IsTable entries → assignments? entries = some cs → '\r' ∉ cs
  | [], cs, _, hcs => by
    obtain rfl := Option.some.inj hcs
    exact List.not_mem_nil
  | (name, d) :: entries, cs, htable, hcs => by
    obtain ⟨hname, rfl | hd, -, hrest⟩ := htable.of_cons
    · have hcs : assignments? entries = some cs := hcs
      exact return_not_mem_assignments hrest hcs
    · rw [assignments?_cons hd] at hcs
      simp only [Option.bind_eq_bind, Option.bind_eq_some_iff, Option.pure_def, Option.some.injEq] at hcs
      obtain ⟨value, hvalue, more, hmore, rfl⟩ := hcs
      simp [return_not_mem_of_bare hname, (written_of_scalar? hd hvalue).returns,
        return_not_mem_assignments hrest hmore]

theorem return_not_mem_table (hname : Bare name) (htable : IsTable entries)
    (hcs : table? name (.record entries) = some cs) : '\r' ∉ cs := by
  simp only [table?, Option.map_eq_some_iff] at hcs
  obtain ⟨lines, hlines, rfl⟩ := hcs
  simp [return_not_mem_of_bare hname, return_not_mem_assignments htable hlines]

theorem return_not_mem_tables : ∀ {tables : List (String × Table)} {cs : List Char},
    AreTables tables → tables? (tableEntries tables) = some cs → '\r' ∉ cs
  | [], cs, _, hcs => by
    obtain rfl := Option.some.inj hcs
    exact List.not_mem_nil
  | [(name, entries)], cs, htables, hcs => by
    obtain ⟨hname, htable, -, -⟩ := htables.of_cons
    exact return_not_mem_table hname htable hcs
  | (name, entries) :: next :: tables, cs, htables, hcs => by
    obtain ⟨hname, htable, -, hrest⟩ := htables.of_cons
    obtain ⟨first, more, hfirst, hmore, rfl⟩ := tables?_cons hcs
    simp [return_not_mem_table hname htable hfirst, return_not_mem_tables hrest hmore]

/-! ## Documents -/

/-- A document starts with the header of its first table, hence with no mark. -/
theorem skipMark_tables {tables : List (String × Table)}
    (hcs : tables? (tableEntries tables) = some cs) : skipMark cs = cs := by
  have htable {name : String} {entries : Table} {first rest : List Char}
      (hfirst : table? name (.record entries) = some first) : skipMark (first ++ rest) = first ++ rest := by
    simp only [table?, Option.map_eq_some_iff] at hfirst
    obtain ⟨lines, -, rfl⟩ := hfirst
    simp [skipMark]
  match tables with
  | [] =>
    obtain rfl := Option.some.inj hcs
    rfl
  | [(name, entries)] =>
    have hskip : skipMark (cs ++ []) = cs ++ [] := htable hcs
    simpa using hskip
  | (name, entries) :: next :: tables =>
    obtain ⟨first, more, hfirst, -, rfl⟩ := tables?_cons hcs
    exact htable hfirst

theorem entriesData_items (entries : Table) : entriesData (items entries) = entries := by
  induction entries with
  | nil => rfl
  | cons e entries ih =>
    simp only [items, List.map_cons, entriesData, Item.datum] at ih ⊢
    rw [ih]

theorem entriesData_tableItems (tables : List (String × Table)) :
    entriesData (tableItems tables) = tableEntries (tables.map fun t => (t.1, given t.2)) := by
  induction tables with
  | nil => rfl
  | cons t tables ih =>
    simp only [tableItems, tableEntries, List.map_cons, entriesData, Item.datum, entriesData_items] at ih ⊢
    rw [ih]

theorem read?_document {tables : List (String × Table)} {text : String}
    (htables : AreTables tables) (htext : document? (tablesDatum tables) = some text) :
    read? text = some (tablesDatum (tables.map fun t => (t.1, given t.2))) := by
  simp only [tablesDatum, document?, Option.map_eq_some_iff] at htext
  obtain ⟨cs, hcs, rfl⟩ := htext
  have hfresh : ∀ t ∈ tables, t.1 ∉ ([] : Entries).map Prod.fst := fun _ _ => List.not_mem_nil
  obtain ⟨header, hleads⟩ := leads_tables [] htables hfresh hcs
  rw [read?, String.toList_ofList, skipMark_tables hcs,
    unifyLineEnds_eq (return_not_mem_tables htables hcs)]
  have hlines : scanLines cs.length {} cs = some ⟨header, tableItems tables⟩ := hleads.scanLines_eq
  rw [hlines, tablesDatum, ← entriesData_tableItems]
  rfl

/-! ## What can be written -/

/-- Null entries are left out, and every other value has to fit. -/
def Storable (d : Datum) : Prop := d = .null ∨ (scalar? d).isSome = true

theorem assignments?_isSome_iff : ∀ {entries : Table}, IsTable entries →
    ((assignments? entries).isSome = true ↔ ∀ e ∈ entries, Storable e.2)
  | [], _ => by simp [assignments?]
  | (name, d) :: entries, htable => by
    obtain ⟨-, rfl | hd, -, hrest⟩ := htable.of_cons
    · rw [List.forall_mem_cons, ← assignments?_isSome_iff hrest]
      exact ⟨fun h => ⟨.inl rfl, h⟩, And.right⟩
    · have hstorable : Storable d ↔ (scalar? d).isSome = true :=
        or_iff_right (by rintro rfl; cases hd)
      rw [assignments?_cons hd, List.forall_mem_cons, ← assignments?_isSome_iff hrest, hstorable]
      cases scalar? d <;> cases assignments? entries <;> simp

theorem table?_isSome_iff (name : String) (htable : IsTable entries) :
    (table? name (.record entries)).isSome = true ↔ ∀ e ∈ entries, Storable e.2 := by
  rw [table?, Option.isSome_map, assignments?_isSome_iff htable]

theorem tables?_isSome_iff : ∀ {tables : List (String × Table)}, AreTables tables →
    ((tables? (tableEntries tables)).isSome = true ↔ ∀ t ∈ tables, ∀ e ∈ t.2, Storable e.2)
  | [], _ => by simp [tableEntries, tables?]
  | [(name, entries)], htables => by
    rw [List.forall_mem_singleton]
    exact table?_isSome_iff name htables.of_cons.2.1
  | (name, entries) :: next :: tables, htables => by
    obtain ⟨-, htable, -, hrest⟩ := htables.of_cons
    rw [List.forall_mem_cons, ← tables?_isSome_iff hrest, ← table?_isSome_iff name htable]
    simp only [tableEntries, List.map_cons, tables?]
    generalize tables? _ = more
    cases table? name (.record entries) <;> cases more <;> simp

/-- A document can be written when each of its values can. -/
theorem document?_isSome_iff {tables : List (String × Table)} (htables : AreTables tables) :
    (document? (tablesDatum tables)).isSome = true ↔ ∀ t ∈ tables, ∀ e ∈ t.2, Storable e.2 := by
  rw [tablesDatum, document?, Option.isSome_map, tables?_isSome_iff htables]

end

end FrameGraph.Data.Toml
