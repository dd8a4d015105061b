import FrameGraph.Demo
import FrameGraph.Settings.File

/-!
# The command line

`[settings] [seconds]`: runs the demonstration with the settings of a file for so many seconds, three if
none are given, and writes a line for every set of frames that the host reads.
-/

namespace FrameGraph.Demo
set_option autoImplicit false
open Number

def nameOfPath (path : String) : String :=
  ((path.splitOn "/").filter fun part => !part.isEmpty).getLastD ""

def readEntry (path : String) : IO Settings.Entry := do
  try
    return .file (← IO.FS.readFile path)
  catch
    | .noFileOrDirectory .. => return .missing
    | _ => return .directory

def userSettings : IO Settings := do
  let home := (← IO.getEnv "HOME").map (· ++ "/.config")
  let directory := ((← IO.getEnv "XDG_CONFIG_HOME").filter fun path => path.startsWith "/").or home
  match directory with
  | none => return {}
  | some directory =>
    let path := directory ++ "/" ++ Settings.appId ++ "/" ++ Settings.fileName
    return Settings.loadOrDefault (.ofName Settings.fileName) (← readEntry path)

/-- What went wrong, and the cause of it. -/
def fault (text : String) (cause : Option String) : Halt String :=
  .failed ("Error: " ++ text ++ match cause with
    | some cause => "\n\nCaused by:\n    " ++ cause
    | none => "")

/-- Reads sets until the deadline, in step with the time that passes on the device. -/
partial def follow (deadline sets : Nat) (session : Session) : IO (Except RuntimeError Unit) := do
  if deadline ≤ session.device.now then return .ok ()
  let (result, after) := next session
  IO.sleep ((after.device.now - session.device.now) / nanosPerMilli).toUInt32
  match result with
  | .error e => return .error e
  | .ok none => follow deadline sets after
  | .ok (some set) =>
    IO.println (line (sets + 1) set)
    follow deadline (sets + 1) after

def command (args : List String) : IO (Except (Halt String) Unit) := do
  let settings ← match args[0]? with
    | none => Except.ok <$> userSettings
    | some path => Settings.load (.ofName (nameOfPath path)) <$> readEntry path
  let settings ← match settings with
    | .ok settings => pure settings
    | .error e => return .error (fault ("loading " ++ args.headD "") e.message)
  let length ← match seconds (args[1]?.getD "3") with
    | .ok length => pure length
    | .error e => return .error (fault "run time must be whole seconds" e.message)
  match start settings with
  | .error (.failed e) => return .error (fault e.message none)
  | .error (.panicked p) => return .error (.panicked p)
  | .ok session =>
    match ← follow (session.device.now + length * nanosPerSecond) 0 session with
    | .error e => return .error (fault e.message none)
    | .ok () => return .ok ()

end FrameGraph.Demo

def main (args : List String) : IO UInt32 := do
  match ← FrameGraph.Demo.command args with
  | .ok () => return 0
  | .error (.failed text) =>
    IO.eprintln text
    return 1
  | .error (.panicked _) => return 101
