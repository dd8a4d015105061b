import FrameGraph.Data.Json.Printer
import FrameGraph.Proofs.Data.Json.Numbers
import FrameGraph.Proofs.Data.Json.Strings
import FrameGraph.Proofs.Data.Tables
import Mathlib.Data.List.DropRight

/-!
# Values read back from JSON

What a piece of a text is read as does not depend on what comes after it, so a record is read back when
its entries are. Blanks between the parts are skipped, and each part is shorter than the fuel that is
left for it.

* `ReadAs`: characters that are read as a value wherever a value may end.
* `readAs_record`: a record, from its entries.
* `read?_tables`: every record of tables that hold something is read back.
-/

namespace FrameGraph.Data.Json
set_option autoImplicit false
open Number

/-- The characters `cs` are read as the value, wherever a value may end. -/
def ReadAs (cs : List Char) (d : Datum) : Prop :=
  ∀ fuel rest, cs.length < fuel → Ends rest → scanValue fuel (cs ++ rest) = some (d, rest)

/-! ## Scalars -/

theorem ReadAs.of_succ {cs : List Char} {d : Datum}
    (h : ∀ fuel rest, Ends rest → scanValue (fuel + 1) (cs ++ rest) = some (d, rest)) : ReadAs cs d := by
  intro fuel rest hfuel hrest
  obtain ⟨fuel, rfl⟩ := Nat.exists_eq_add_one_of_ne_zero (show fuel ≠ 0 by omega)
  exact h fuel rest hrest

theorem readAs_null : ReadAs (scalar .null) .null := .of_succ fun _ _ _ => rfl

theorem readAs_flag (b : Bool) : ReadAs (scalar (.flag b)) (.flag b) := by
  cases b <;> exact .of_succ fun _ _ _ => rfl

theorem readAs_natural {n : Nat} (hn : n < UInt64.size) : ReadAs (scalar (.whole n)) (.whole n) := by
  have htext : scalar (.whole n) = Nat.toDigits 10 n := Nat.toList_repr
  rw [htext]
  exact .of_succ fun fuel _ hrest => scanValue_natural hn fuel hrest

theorem readAs_text (s : String) : ReadAs (scalar (.text s)) (.text s) :=
  .of_succ fun fuel rest _ => by
    have hscan := scanText_quote s rest
    simp only [scalar, quote, List.cons_append, List.append_assoc, List.nil_append] at hscan ⊢
    rw [scanValue, skipBlanks_cons (by decide)]
    simp [hscan]

theorem readAs_finite {x : Single} {d : Datum} (hx : x.isFinite = true)
    (h : read? (x.text .json) = some d) : ReadAs (scalar (.single x)) d := by
  obtain ⟨negative, body, hbody, htext⟩ := exists_text_eq .json hx
  refine .of_succ fun fuel _ hrest => scanValue_of_read? ?_ ?_ h fuel hrest
  · exact htext ▸ hbody.signed_ne_nil negative
  · exact htext ▸ hbody.signed negative

/-- What is no number has no number for its text. -/
theorem readAs_not_finite {x : Single} (hx : x.isFinite = false) : ReadAs (scalar (.single x)) .null := by
  have htext : x.text .json = "null" := by
    cases x with
    | nan => rfl
    | signed negative rank =>
      have hrank : rank.val = Format.single.infinity := by simpa [Floating.isFinite] using hx
      simp only [Floating.text, hrank, if_true]
      rfl
  rw [scalar, htext]
  exact readAs_null

/-! ## Blanks -/

theorem skipBlanks_newLine (depth : Nat) (cs : List Char) :
    skipBlanks (newLine depth ++ cs) = skipBlanks cs := by
  refine List.dropWhile_append_of_pos fun c hc => ?_
  simp only [newLine, List.mem_cons, List.mem_replicate] at hc
  obtain rfl | ⟨-, rfl⟩ := hc <;> rfl

theorem scanEntries_skipBlanks (fuel : Nat) (cs : List Char) :
    scanEntries fuel (skipBlanks cs) = scanEntries fuel cs := by
  cases fuel with
  | zero => rfl
  | succ fuel => simp only [scanEntries, skipBlanks, List.dropWhile_idempotent]

theorem scanValue_space (fuel : Nat) (cs : List Char) :
    scanValue fuel (' ' :: cs) = scanValue fuel cs := by
  cases fuel with
  | zero => rfl
  | succ fuel => rfl

/-! ## Records -/

/-- The first entry of a record, up to what comes after its value. -/
theorem scanEntry (depth : Nat) {fuel : Nat} (name : String) {cs more : List Char} {d : Datum}
    (hvalue : ReadAs cs d) (hfuel : cs.length < fuel) (hmore : Ends more) :
    scanEntries (fuel + 1) (newLine depth ++ quote name ++ ':' :: ' ' :: (cs ++ more)) =
      match skipBlanks more with
      | '\x7d' :: rest => some ([(some name, d)], rest)
      | ',' :: rest => (scanEntries fuel rest).bind fun r => some ((some name, d) :: r.1, r.2)
      | _ => none := by
  have hscan := scanText_quote name (':' :: ' ' :: (cs ++ more))
  have hcolon : skipBlanks (':' :: ' ' :: (cs ++ more)) = ':' :: ' ' :: (cs ++ more) :=
    skipBlanks_cons (by decide)
  rw [scanEntries, List.append_assoc, skipBlanks_newLine]
  simp only [quote, List.cons_append, List.append_assoc, List.nil_append, skipBlanks_cons
    (show isBlank '"' = false by decide), hscan, Option.bind_eq_bind, Option.bind_some, hcolon,
    scanValue_space, hvalue fuel more hfuel hmore]
  rfl

theorem scanEntries_pretty (depth outer : Nat) {f : Datum → Datum} (rest : List Char) :
    ∀ {entries : List (String × Datum)} {fuel : Nat}, entries ≠ [] →
      (∀ e ∈ entries, ReadAs (pretty depth e.2) (f e.2)) →
      (prettyEntries depth entries).length < fuel →
      scanEntries fuel (prettyEntries depth entries ++ newLine outer ++ '\x7d' :: rest) =
        some (entries.map fun e => (some e.1, f e.2), rest)
  | [], _, hne, _, _ => absurd rfl hne
  | [(name, d)], fuel, _, hvalues, hfuel => by
    obtain ⟨fuel, rfl⟩ := Nat.exists_eq_add_one_of_ne_zero (show fuel ≠ 0 by omega)
    have hfuel : (pretty depth d).length < fuel := by
      simp only [prettyEntries, List.length_append, List.length_cons] at hfuel
      omega
    have hentry := scanEntry depth name (hvalues _ List.mem_cons_self) hfuel
      (Ends.line (List.replicate (2 * outer) ' ' ++ '\x7d' :: rest))
    have hskip : skipBlanks (newLine outer ++ '\x7d' :: rest) = '\x7d' :: rest := by
      rw [skipBlanks_newLine, skipBlanks_cons (by decide)]
    simp only [prettyEntries, List.append_assoc, List.cons_append, newLine] at hentry hskip ⊢
    rw [hentry, hskip]
    rfl
  | (name, d) :: next :: entries, fuel, _, hvalues, hfuel => by
    obtain ⟨fuel, rfl⟩ := Nat.exists_eq_add_one_of_ne_zero (show fuel ≠ 0 by omega)
    obtain ⟨hvalue, hvalues⟩ := List.forall_mem_cons.1 hvalues
    simp only [prettyEntries, List.length_append, List.length_cons] at hfuel
    have hentry := scanEntry depth name hvalue (show (pretty depth d).length < fuel by omega)
      (Ends.comma (prettyEntries depth (next :: entries) ++ newLine outer ++ '\x7d' :: rest))
    have ih := scanEntries_pretty depth outer rest (by simp) hvalues
      (show (prettyEntries depth (next :: entries)).length < fuel by omega)
    have hskip (tail : List Char) : skipBlanks (',' :: tail) = ',' :: tail :=
      skipBlanks_cons (by decide)
    simp only [prettyEntries, List.append_assoc, List.cons_append] at hentry ih ⊢
    rw [hentry, hskip]
    simp only [ih]
    rfl

theorem recordOf_map (entries : List (String × Datum)) :
    recordOf (entries.map fun e => (some e.1, e.2)) = .record entries := by
  have hmap : (entries.map fun e => (some e.1, e.2)).mapM (fun entry : Option String × Datum =>
      entry.1.map fun name => (name, entry.2)) = some entries := by
    induction entries with
    | nil => rfl
    | cons e entries ih => simp [ih]
  rw [recordOf, hmap]

theorem pretty_record {depth : Nat} {entries : List (String × Datum)} (hne : entries ≠ []) :
    pretty depth (.record entries) =
      '\x7b' :: (prettyEntries (depth + 1) entries ++ newLine depth ++ ['\x7d']) := by
  rw [pretty]
  exact hne

/-- What follows the opening brace of a record with entries is the name of the first one. -/
theorem exists_skipBlanks_prettyEntries (depth : Nat) {entries : List (String × Datum)}
    (hne : entries ≠ []) (rest : List Char) :
    ∃ tail, skipBlanks (prettyEntries depth entries ++ rest) = '"' :: tail := by
  match entries with
  | [] => exact absurd rfl hne
  | [(name, d)] =>
    rw [prettyEntries, List.append_assoc, List.append_assoc, skipBlanks_newLine]
    exact ⟨_, skipBlanks_cons (by decide)⟩
  | (name, d) :: next :: entries =>
    rw [prettyEntries, List.append_assoc, List.append_assoc, skipBlanks_newLine]
    · exact ⟨_, skipBlanks_cons (by decide)⟩
    · simp

theorem readAs_record {depth : Nat} {f : Datum → Datum} {entries : List (String × Datum)}
    (hne : entries ≠ []) (hvalues : ∀ e ∈ entries, ReadAs (pretty (depth + 1) e.2) (f e.2)) :
    ReadAs (pretty depth (.record entries)) (.record (entries.map fun e => (e.1, f e.2))) := by
  intro fuel rest hfuel _
  obtain ⟨fuel, rfl⟩ := Nat.exists_eq_add_one_of_ne_zero (show fuel ≠ 0 by omega)
  rw [pretty_record hne] at hfuel ⊢
  simp only [List.length_cons, List.length_append, List.length_nil] at hfuel
  have hentries := scanEntries_pretty (depth + 1) depth rest hne hvalues
    (show (prettyEntries (depth + 1) entries).length < fuel by omega)
  obtain ⟨tail, htail⟩ := exists_skipBlanks_prettyEntries (depth + 1) hne
    (newLine depth ++ '\x7d' :: rest)
  rw [List.append_assoc, ← scanEntries_skipBlanks, htail] at hentries
  have hrecord := recordOf_map (entries.map fun e => (e.1, f e.2))
  rw [List.map_map] at hrecord
  have htext : '\x7b' :: (prettyEntries (depth + 1) entries ++ newLine depth ++ ['\x7d']) ++ rest =
      '\x7b' :: (prettyEntries (depth + 1) entries ++ (newLine depth ++ '\x7d' :: rest)) := by simp
  rw [htext, scanValue, skipBlanks_cons (by decide)]
  simp only [htail]
  change (scanEntries fuel ('"' :: tail)).map (fun r => (recordOf r.1, r.2)) = _
  rw [hentries]
  exact congrArg (fun d => some (d, rest)) hrecord

/-! ## Whole texts -/

theorem read?_of_readAs {cs : List Char} {d : Datum} (h : ReadAs cs d) :
    read? (String.ofList cs) = some d := by
  have hscan := h (2 * cs.length + 2) [] (by omega) Ends.nil
  rw [List.append_nil] at hscan
  rw [read?, String.toList_ofList, hscan]
  rfl

theorem pretty_scalar {d : Datum} (hd : d = .null ∨ Scalar d) (depth : Nat) :
    pretty depth d = scalar d := by
  obtain rfl | hd := hd
  · simp only [pretty]
  · cases hd <;> simp only [pretty]

/-- What a table is read back as when each value is read back by `f`. -/
def rereadTable (f : Datum → Datum) (entries : Table) : Table :=
  entries.map fun e => (e.1, f e.2)

def rereadRecord (f : Datum → Datum) : Datum → Datum
  | .record entries => .record (rereadTable f entries)
  | d => d

theorem read?_tables {tables : List (String × Table)} {f : Datum → Datum} (hne : tables ≠ [])
    (hfull : ∀ t ∈ tables, t.2 ≠ [])
    (hscalar : ∀ t ∈ tables, ∀ e ∈ t.2, e.2 = .null ∨ Scalar e.2)
    (hread : ∀ t ∈ tables, ∀ e ∈ t.2, ReadAs (scalar e.2) (f e.2)) :
    read? (String.ofList (pretty 0 (tablesDatum tables))) =
      some (tablesDatum (tables.map fun t => (t.1, rereadTable f t.2))) := by
  have hentries : ∀ e ∈ tableEntries tables, ReadAs (pretty 1 e.2) (rereadRecord f e.2) := by
    intro e he
    obtain ⟨t, ht, rfl⟩ := List.mem_map.1 he
    refine readAs_record (hfull t ht) fun e he => ?_
    rw [pretty_scalar (hscalar t ht e he)]
    exact hread t ht e he
  have hall : ReadAs (pretty 0 (tablesDatum tables)) _ :=
    readAs_record (by simpa [tableEntries] using hne) hentries
  rw [read?_of_readAs hall]
  simp only [tablesDatum, tableEntries, List.map_map]
  rfl

end FrameGraph.Data.Json
