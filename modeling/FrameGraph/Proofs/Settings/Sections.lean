import FrameGraph.Proofs.Data.Toml.Documents
import FrameGraph.Proofs.Data.Json.Documents
import FrameGraph.Settings

/-!
# The sections of settings as tables

Settings are written as four tables, one for each section. A section is loaded from the entries of its
table whether an option that is not given stands there as null or is left out.
-/

namespace FrameGraph
set_option autoImplicit false
open Data Number

/-! ## Values -/

namespace Data.Codec

theorem uint64_read (leniency : Leniency) (n : UInt64) :
    uint64.read leniency (.whole n.toNat) = some n := by
  have hn : n.toNat < UInt64.size := n.toNat_lt
  simp [uint64, map, natBelow, hn]

theorem optional_read {β : Type} (c : Codec β) (leniency : Leniency) {d : Datum} (hd : d ≠ .null) :
    c.optional.read leniency d = (c.read leniency d).map some := by
  cases d with
  | null => exact absurd rfl hd
  | _ => rfl

end Data.Codec

/-- The entries that stand for an option: one, or none where there is nothing to tell. -/
def Stands {β : Type} (name : String) (c : Codec β) (x : Option β) (entries : Table) : Prop :=
  entries = [(name, c.optional.write x)] ∨ x = none ∧ entries = []

/-! ## Loading -/

variable (leniency : Leniency)

theorem QueueSettings.read_entries (q : QueueSettings) :
    codec.read leniency (.record [("host_queue_size", .whole q.size.toNat),
      ("host_queue_blocking", .flag q.blocking)]) = some q := by
  simp [codec, Codec.ofFields, repeatsField, loadEntries, Field.of, Codec.uint64_read, Codec.flag]

/-- The rate may be read back as another one, or as none. -/
theorem SyncSettings.read_entries (s : SyncSettings) (rate : Datum) {tolerance : Table}
    (htolerance : Stands "tolerance_ms" Codec.uint64 s.toleranceMillis tolerance) :
    codec.read leniency (.record (("fps", rate) :: ("window_ms", .whole s.windowMillis.toNat) ::
      (tolerance ++ [("max_backlog", .whole s.maxBacklog.toNat)]))) =
      (Codec.single.read leniency rate).map fun fps => { s with fps } := by
  obtain ⟨fps, windowMillis, toleranceMillis, maxBacklog⟩ := s
  simp only at htolerance ⊢
  cases hrate : Codec.single.read leniency rate <;> obtain rfl | ⟨rfl, rfl⟩ := htolerance
  · simp [codec, Codec.ofFields, repeatsField, loadEntries, Field.of, hrate]
  · simp [codec, Codec.ofFields, repeatsField, loadEntries, Field.of, hrate]
  · cases toleranceMillis with
    | none =>
      simp [codec, Codec.ofFields, repeatsField, loadEntries, Field.of, Codec.uint64_read, hrate,
        Codec.optional]
    | some millis =>
      have hwrite : (Codec.optional .uint64).write (some millis) = .whole millis.toNat := rfl
      have hmillis : (Codec.optional .uint64).read leniency (.whole millis.toNat) = some (some millis) := by
        rw [Codec.optional_read _ _ (show Datum.whole millis.toNat ≠ .null from nofun), Codec.uint64_read]
        rfl
      simp [codec, Codec.ofFields, repeatsField, loadEntries, Field.of, Codec.uint64_read, hrate,
        hwrite, hmillis]
  · simp [codec, Codec.ofFields, repeatsField, loadEntries, Field.of, Codec.uint64_read, hrate]

theorem DeviceSettings.read_entries (d : DeviceSettings) :
    codec.read leniency (.record [("name", .text d.name),
      ("poll_interval_ms", .whole d.pollMillis.toNat),
      ("event_capacity", .whole d.eventCapacity.toNat)]) = some d := by
  simp [codec, Codec.ofFields, repeatsField, loadEntries, Field.of, Codec.uint64_read, Codec.text]

theorem LoggingSettings.read_entries (s : LoggingSettings) {directory : Table}
    (hdirectory : Stands "directory" Codec.text s.directory directory) :
    codec.read leniency (.record (("filter", .text s.filter) :: directory)) = some s := by
  obtain ⟨filter, target⟩ := s
  simp only at hdirectory ⊢
  obtain rfl | ⟨rfl, rfl⟩ := hdirectory
  · cases target <;>
      simp [codec, Codec.ofFields, repeatsField, loadEntries, Field.of, Codec.text, Codec.optional]
  · simp [codec, Codec.ofFields, repeatsField, loadEntries, Field.of, Codec.text]

namespace Settings

def tables (s : Settings) : List (String × Table) := [
  ("queues", [("host_queue_size", .whole s.queues.size.toNat),
    ("host_queue_blocking", .flag s.queues.blocking)]),
  ("sync", [("fps", .single s.sync.fps), ("window_ms", .whole s.sync.windowMillis.toNat),
    ("tolerance_ms", (Codec.optional .uint64).write s.sync.toleranceMillis),
    ("max_backlog", .whole s.sync.maxBacklog.toNat)]),
  ("device", [("name", .text s.device.name), ("poll_interval_ms", .whole s.device.pollMillis.toNat),
    ("event_capacity", .whole s.device.eventCapacity.toNat)]),
  ("logging", [("filter", .text s.logging.filter),
    ("directory", (Codec.optional .text).write s.logging.directory)])]

theorem write_eq (s : Settings) : codec.write s = tablesDatum s.tables := rfl

/-- The settings are loaded from their sections, with whatever rate is read back. -/
theorem read_sections (s : Settings) (rate : Datum) {tolerance directory : Table}
    (htolerance : Stands "tolerance_ms" Codec.uint64 s.sync.toleranceMillis tolerance)
    (hdirectory : Stands "directory" Codec.text s.logging.directory directory) :
    codec.read leniency (tablesDatum [
      ("queues", [("host_queue_size", .whole s.queues.size.toNat),
        ("host_queue_blocking", .flag s.queues.blocking)]),
      ("sync", ("fps", rate) :: ("window_ms", .whole s.sync.windowMillis.toNat) ::
        (tolerance ++ [("max_backlog", .whole s.sync.maxBacklog.toNat)])),
      ("device", [("name", .text s.device.name), ("poll_interval_ms", .whole s.device.pollMillis.toNat),
        ("event_capacity", .whole s.device.eventCapacity.toNat)]),
      ("logging", ("filter", .text s.logging.filter) :: directory)]) =
      (Codec.single.read leniency rate).map fun fps => { s with sync.fps := fps } := by
  have hqueues := s.queues.read_entries leniency
  have hsync := s.sync.read_entries leniency rate htolerance
  have hdevice := s.device.read_entries leniency
  have hlogging := s.logging.read_entries leniency hdirectory
  cases hrate : Codec.single.read leniency rate <;>
    simp [tablesDatum, tableEntries, codec, Codec.ofFields, repeatsField, loadEntries, Field.of,
      hqueues, hsync, hdevice, hlogging, hrate]

end Settings

end FrameGraph
