import FrameGraph.Data.Json.Printer
import FrameGraph.Data.Json.Reader
import FrameGraph.Data.Toml.Printer
import FrameGraph.Data.Toml.Reader
import FrameGraph.Error
import FrameGraph.Settings

/-!
# Settings files

A file whose name ends in `.json` holds JSON, every other one TOML. What stands at a path is an
`Entry`; `load` and `save` work on it.

* `load`: a missing file gives the defaults.
* `save`: the settings are written as text first, so a failure to do so leaves the file as it was.
-/

namespace FrameGraph.Settings
set_option autoImplicit false
open Data

def appId : String := "dev.camflow"

def fileName : String := "camflow.toml"

/-! ## Formats -/

inductive FileFormat where
  | json
  | toml
deriving DecidableEq, Repr

/-- What comes after the last dot of a file name; a dot in front of the name opens none. -/
def extension? (name : String) : Option String :=
  let reversed := name.toList.reverse
  match reversed.dropWhile (· != '.') with
  | '.' :: _ :: _ => some (String.ofList (reversed.takeWhile (· != '.')).reverse)
  | _ => none

namespace FileFormat

def ofName (name : String) : FileFormat :=
  if extension? name = some "json" then json else toml

/-- Only TOML leaves surplus items of a list aside. -/
def leniency : FileFormat → Leniency
  | json => ⟨false⟩
  | toml => ⟨true⟩

def read? : FileFormat → String → Option Settings
  | json, text => (Json.read? text).bind (codec.read json.leniency)
  | toml, text => (Toml.read? text).bind (codec.read toml.leniency)

def write? : FileFormat → Settings → Option String
  | json, s => some (String.ofList (Json.pretty 0 (codec.write s)))
  | toml, s => Toml.document? (codec.write s)

end FileFormat

/-! ## Files -/

inductive Entry where
  | missing
  | directory
  | file (text : String)
deriving DecidableEq, Repr

def load (format : FileFormat) : Entry → Except Error Settings
  | .missing => .ok {}
  | .directory => .error (.config "Failed to read config file")
  | .file text => match format.read? text with
    | some s => .ok s
    | none => .error (.serialization "Failed to parse config")

/-- The settings of a file, or the defaults where there are none. -/
def loadOrDefault (format : FileFormat) (entry : Entry) : Settings :=
  match load format entry with
  | .ok s => s
  | .error _ => {}

structure Target where
  /-- Whether the directories that lead to it can be made. -/
  reachable : Bool := true
  entry : Entry := .missing
deriving DecidableEq, Repr

/-- Answers what stands at the path afterwards. -/
def save (format : FileFormat) (s : Settings) (target : Target) : Except Error Unit × Entry :=
  if !target.reachable then (.error (.config "Failed to create config directory"), target.entry)
  else match format.write? s with
    | none => (.error (.serialization "Failed to serialize config"), target.entry)
    | some text => match target.entry with
      | .directory => (.error (.config "Failed to write config file"), .directory)
      | _ => (.ok (), .file text)

end FrameGraph.Settings
