import FrameGraph.Proofs.Settings.Sections
import FrameGraph.Settings.File

/-!
# Settings that are saved and loaded

What a save accepts is given back by the next load, in both formats, up to one number: JSON has no text
for a rate that is not finite. A save that fails leaves the file as it was.

* `Settings.Value`: all that settings hold, as data.
* `FileFormat.Holds`: what a format can write, and `write?_isSome_iff`.
* `FileFormat.Keeps`: the rates that a format gives back, and `read?_write?`.
* `save_then_load`: settings through a file.
-/

namespace FrameGraph.Settings
set_option autoImplicit false
open Data Number

/-! ## What settings hold -/

/-- The whole numbers of settings. -/
def naturals (s : Settings) : List UInt64 :=
  [s.queues.size, s.sync.windowMillis, s.sync.maxBacklog, s.device.pollMillis, s.device.eventCapacity] ++
    s.sync.toleranceMillis.toList

inductive Value (s : Settings) : Datum → Prop where
  | null : Value s .null
  | flag (b : Bool) : Value s (.flag b)
  | natural {n : UInt64} (hn : n ∈ s.naturals) : Value s (.whole n.toNat)
  | text (t : String) : Value s (.text t)
  | rate : Value s (.single s.sync.fps)

variable {s : Settings} {d : Datum}

theorem Value.scalar (h : Value s d) : d = .null ∨ Scalar d := by
  cases h with
  | null => exact .inl rfl
  | flag b => exact .inr (.flag b)
  | natural => exact .inr (.natural _)
  | text t => exact .inr (.text t)
  | rate => exact .inr (.single _)

variable (s) in
theorem value_of_mem : ∀ t ∈ s.tables, ∀ e ∈ t.2, Value s e.2 := by
  have htolerance : Value s ((Codec.optional .uint64).write s.sync.toleranceMillis) := by
    cases h : s.sync.toleranceMillis with
    | none => exact .null
    | some millis => exact .natural (by simp [naturals, h])
  have hdirectory : Value s ((Codec.optional .text).write s.logging.directory) := by
    cases s.logging.directory with
    | none => exact .null
    | some directory => exact .text directory
  have hnaturals : ∀ n ∈ s.naturals, Value s (.whole n.toNat) := fun _ hn => .natural hn
  simp only [naturals, List.forall_mem_append, List.forall_mem_cons] at hnaturals
  simp only [tables, List.forall_mem_cons, List.not_mem_nil, IsEmpty.forall_iff, implies_true, and_true]
  simp [Value.flag, Value.text, Value.rate, htolerance, hdirectory, hnaturals]

theorem mem_tables {n : UInt64} (hn : n ∈ s.naturals) :
    ∃ t ∈ s.tables, ∃ e ∈ t.2, e.2 = .whole n.toNat := by
  simp only [naturals, List.mem_append, List.mem_cons, List.not_mem_nil, or_false, Option.mem_toList] at hn
  simp only [tables, List.exists_mem_cons_iff, List.not_mem_nil, false_and, exists_false, or_false]
  obtain (rfl | rfl | rfl | rfl | rfl) | hn := hn <;> simp
  simp [Option.mem_def.1 hn, Codec.optional, Codec.uint64, Codec.map, Codec.natBelow]

variable (s) in
/-- The names of the fields, for each section. -/
theorem names_eq : s.tables.map (fun t => t.2.map Prod.fst) = [
    ["host_queue_size", "host_queue_blocking"], ["fps", "window_ms", "tolerance_ms", "max_backlog"],
    ["name", "poll_interval_ms", "event_capacity"], ["filter", "directory"]] := rfl

variable (s) in
theorem areTables : Toml.AreTables s.tables where
  bare t ht := by
    have hbare : ∀ name ∈ s.tables.map Prod.fst, Toml.Bare name :=
      show ∀ name ∈ ["queues", "sync", "device", "logging"], Toml.Bare name by decide
    exact hbare _ (List.mem_map_of_mem ht)
  table t ht := by
    have hnames : ∀ names ∈ s.tables.map (fun t => t.2.map Prod.fst),
        (∀ name ∈ names, Toml.Bare name) ∧ names.Nodup := by rw [names_eq]; decide
    obtain ⟨hbare, hdistinct⟩ := hnames _ (List.mem_map_of_mem ht)
    exact {
      bare e he := hbare _ (List.mem_map_of_mem he)
      scalar e he := (value_of_mem s t ht e he).scalar
      distinct := hdistinct }
  distinct := show ["queues", "sync", "device", "logging"].Nodup by decide

/-! ## What can be written -/

/-- What a format can write: TOML has no whole number above those of 64 bits with a sign. -/
def FileFormat.Holds : FileFormat → Settings → Prop
  | .json, _ => True
  | .toml, s => ∀ n ∈ s.naturals, n.toNat < UInt64.size / 2

theorem storable_natural (n : UInt64) : Toml.Storable (.whole n.toNat) ↔ n.toNat < UInt64.size / 2 := by
  simp only [Toml.Storable, Toml.scalar?, Int.ofNat_lt]
  by_cases hn : n.toNat < UInt64.size / 2 <;> simp [hn]

theorem Value.storable (h : Value s d) (hs : FileFormat.toml.Holds s) : Toml.Storable d := by
  cases h with
  | null => exact .inl rfl
  | flag b => cases b <;> exact .inr rfl
  | natural hn => exact (storable_natural _).2 (hs _ hn)
  | text t => exact .inr rfl
  | rate => exact .inr rfl

theorem write?_isSome_iff (format : FileFormat) : (format.write? s).isSome = true ↔ format.Holds s := by
  cases format with
  | json => simp [FileFormat.write?, FileFormat.Holds]
  | toml =>
    rw [FileFormat.write?, write_eq, Toml.document?_isSome_iff s.areTables]
    constructor
    · intro h n hn
      obtain ⟨t, ht, e, he, heq⟩ := mem_tables hn
      have hstorable := h t ht e he
      rwa [heq, storable_natural] at hstorable
    · exact fun hs t ht e he => (value_of_mem s t ht e he).storable hs

/-! ## What is read back -/

/-- The rates that a format gives back: JSON has no number for the others. -/
def FileFormat.Keeps : FileFormat → Single → Bool
  | .json, fps => fps.isFinite
  | .toml, _ => true

/-- A number that is the one nearest to its own digits, through those of 64 bits. -/
def DigitsKept (x : Single) : Prop :=
  (Json.read? (x.text .json)).bind (Codec.single.read FileFormat.json.leniency) = some x

instance (x : Single) : Decidable (DigitsKept x) :=
  inferInstanceAs (Decidable ((Json.read? (x.text .json)).bind _ = some x))

/-- Settings are loaded from what TOML gives back of them, where a rate has 64 bits. -/
theorem read?_write?_toml {text : String} (htext : FileFormat.toml.write? s = some text) :
    FileFormat.toml.read? text = some s := by
  have htolerance : Stands "tolerance_ms" Codec.uint64 s.sync.toleranceMillis
      (Toml.given [("tolerance_ms", (Codec.optional .uint64).write s.sync.toleranceMillis)]) := by
    cases s.sync.toleranceMillis with
    | none => exact .inr ⟨rfl, rfl⟩
    | some millis => exact .inl rfl
  have hdirectory : Stands "directory" Codec.text s.logging.directory
      (Toml.given [("directory", (Codec.optional .text).write s.logging.directory)]) := by
    cases s.logging.directory with
    | none => exact .inr ⟨rfl, rfl⟩
    | some directory => exact .inl rfl
  have hrate : Codec.single.read FileFormat.toml.leniency (.real s.sync.fps.convert) = some s.sync.fps :=
    congrArg some (Floating.convert_convert Format.double_widens_single _)
  have hsections := s.read_sections FileFormat.toml.leniency (.real s.sync.fps.convert) htolerance hdirectory
  rw [hrate] at hsections
  rw [FileFormat.read?, Toml.read?_document s.areTables htext, Option.bind_some]
  refine Eq.trans (congrArg (fun tables => codec.read _ (tablesDatum tables)) ?_) hsections
  cases htolerance : s.sync.toleranceMillis <;> cases hdirectory : s.logging.directory <;>
    simp only [tables, htolerance, hdirectory] <;> rfl

/-- What JSON gives back, with what it reads in place of the rate. -/
def rereadJson (rate : Datum) : Datum → Datum
  | .single _ => rate
  | d => d

theorem Value.readAs {rate : Datum} (hrate : Json.ReadAs (Json.scalar (.single s.sync.fps)) rate)
    (h : Value s d) : Json.ReadAs (Json.scalar d) (rereadJson rate d) := by
  cases h with
  | null => exact Json.readAs_null
  | flag b => exact Json.readAs_flag b
  | natural => exact Json.readAs_natural (UInt64.toNat_lt _)
  | text t => exact Json.readAs_text t
  | rate => exact hrate

/-- Settings are loaded from what JSON gives back of them, where nothing but the rate may change. -/
theorem read?_write?_json {text : String} {rate : Datum} (htext : FileFormat.json.write? s = some text)
    (hrate : Json.ReadAs (Json.scalar (.single s.sync.fps)) rate) :
    FileFormat.json.read? text =
      (Codec.single.read FileFormat.json.leniency rate).map fun fps => { s with sync.fps := fps } := by
  have hfull : ∀ t ∈ s.tables, t.2 ≠ [] := by simp [tables]
  have hne : s.tables ≠ [] := List.cons_ne_nil _ _
  have hread := Json.read?_tables hne hfull
    (fun t ht e he => (value_of_mem s t ht e he).scalar)
    (fun t ht e he => (value_of_mem s t ht e he).readAs hrate)
  have hsections := s.read_sections FileFormat.json.leniency rate (.inl rfl) (.inl rfl)
  obtain rfl := Option.some.inj htext
  rw [FileFormat.read?, write_eq, hread, Option.bind_some, ← hsections]
  refine congrArg (fun tables => codec.read _ (tablesDatum tables)) ?_
  cases htolerance : s.sync.toleranceMillis <;> cases hdirectory : s.logging.directory <;>
    simp only [tables, htolerance, hdirectory] <;> rfl

theorem read?_write? {format : FileFormat} {text : String} (htext : format.write? s = some text)
    (hdigits : format = .json → s.sync.fps.isFinite = true → DigitsKept s.sync.fps) :
    format.read? text = if format.Keeps s.sync.fps then some s else none := by
  cases format with
  | toml => exact read?_write?_toml htext
  | json =>
    cases hfinite : s.sync.fps.isFinite with
    | true =>
      obtain ⟨rate, hrate, hsingle⟩ := Option.bind_eq_some_iff.1 (hdigits rfl hfinite)
      rw [read?_write?_json htext (Json.readAs_finite hfinite hrate), hsingle, FileFormat.Keeps, hfinite]
      rfl
    | false =>
      rw [read?_write?_json htext (Json.readAs_not_finite hfinite), FileFormat.Keeps, hfinite]
      rfl

/-! ## Through a file -/

/-- All that a save can come to. -/
theorem save_cases (format : FileFormat) (s : Settings) (target : Target) :
    (target.reachable = false ∧
      save format s target = (.error (.config "Failed to create config directory"), target.entry)) ∨
    (target.reachable = true ∧ ¬ format.Holds s ∧
      save format s target = (.error (.serialization "Failed to serialize config"), target.entry)) ∨
    (target.reachable = true ∧ format.Holds s ∧ target.entry = .directory ∧
      save format s target = (.error (.config "Failed to write config file"), target.entry)) ∨
    (target.reachable = true ∧ format.Holds s ∧ target.entry ≠ .directory ∧
      ∃ text, format.write? s = some text ∧ save format s target = (.ok (), .file text)) := by
  have hholds := write?_isSome_iff (s := s) format
  obtain ⟨reachable, entry⟩ := target
  cases reachable with
  | false => exact .inl ⟨rfl, rfl⟩
  | true =>
    cases hwrite : format.write? s with
    | none =>
      rw [hwrite] at hholds
      exact .inr (.inl ⟨rfl, by simpa using hholds, by simp [save, hwrite]⟩)
    | some text =>
      have hs : format.Holds s := hholds.1 (by rw [hwrite]; rfl)
      cases entry with
      | directory => exact .inr (.inr (.inl ⟨rfl, hs, rfl, by simp [save, hwrite]⟩))
      | missing => exact .inr (.inr (.inr ⟨rfl, hs, nofun, text, rfl, by simp [save, hwrite]⟩))
      | file old => exact .inr (.inr (.inr ⟨rfl, hs, nofun, text, rfl, by simp [save, hwrite]⟩))

/-- A save is accepted where the file can be written and the format holds the settings, and then the
next load gives them back, unless the format has no number for the rate. A save that is not accepted
leaves what stood at the path. -/
theorem save_then_load (format : FileFormat) (s : Settings) (target : Target)
    (hdigits : format = .json → s.sync.fps.isFinite = true → DigitsKept s.sync.fps) :
    ((save format s target).1 = .ok () ↔
      target.reachable = true ∧ target.entry ≠ .directory ∧ format.Holds s) ∧
    ((save format s target).1 = .ok () → load format (save format s target).2 =
      if format.Keeps s.sync.fps then .ok s else .error (.serialization "Failed to parse config")) ∧
    ((∃ message, (save format s target).1 = .error (.serialization message)) ↔
      target.reachable = true ∧ ¬ format.Holds s) ∧
    ((save format s target).1 ≠ .ok () → (save format s target).2 = target.entry) := by
  obtain ⟨hreachable, hsave⟩ | ⟨hreachable, hs, hsave⟩ | ⟨hreachable, hs, hentry, hsave⟩ |
    ⟨hreachable, hs, hentry, text, htext, hsave⟩ := save_cases format s target <;> rw [hsave]
  · simp [hreachable]
  · simp [hreachable, hs]
  · simp [hreachable, hs, hentry]
  · have hread := read?_write? htext hdigits
    simp only [load, hread]
    cases format.Keeps s.sync.fps <;> simp [hreachable, hs, hentry]

/-- A rate with a fraction, in JSON and over an older file. -/
def film : Settings := { sync := { fps := .ofQuotient false 2997 100, toleranceMillis := some 8 } }

theorem save_then_load_film : DigitsKept film.sync.fps ∧
    (save .json film ⟨true, .file "old"⟩).1 = .ok () ∧
    load .json (save .json film ⟨true, .file "old"⟩).2 = .ok film := by
  have hdigits : DigitsKept film.sync.fps := by decide +kernel
  obtain ⟨haccepted, hloaded, -⟩ := save_then_load .json film ⟨true, .file "old"⟩ fun _ _ => hdigits
  have hsaved := haccepted.2 ⟨rfl, nofun, trivial⟩
  exact ⟨hdigits, hsaved, hloaded hsaved⟩

/-- A rate that is too large for 32 bits is infinite, and JSON gets null for it. -/
theorem saved_not_loaded : ¬ ∀ (format : FileFormat) (s : Settings) (target : Target),
    (s.sync.fps.isFinite = true → DigitsKept s.sync.fps) → (save format s target).1 = .ok () →
      load format (save format s target).2 = .ok s := by
  intro h
  let s : Settings := { sync := { fps := .infinite false } }
  let text := String.ofList (Json.pretty 0 (codec.write s))
  have hfinite : s.sync.fps.isFinite ≠ true := by decide
  have hread : FileFormat.json.read? text = none :=
    read?_write? (s := s) rfl fun _ h => absurd h hfinite
  have hload : load .json (.file text) = .ok s := h .json s {} (fun h => absurd h hfinite) rfl
  rw [load, hread] at hload
  cases hload

end FrameGraph.Settings
