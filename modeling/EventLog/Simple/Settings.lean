import EventLog.Level
import EventLog.World

/-!
The settings of the simple backend, and where they come from: the defaults, the environment of the
process, or whoever builds the backend.
-/
namespace EventLog

structure Settings where
  directory : Option Path := none
  level : Level := .info
  console : Console := .stderr
  stem : Option String := none
  zone : Zone := {}
  deriving Repr

namespace Settings

def directoryVariable : String := "LOGTIDE_OUTPUT_DIRECTORY"

def levelVariable : String := "LOGTIDE_LEVEL"

/-- The directory that stands for no log files at all. -/
def noDirectory : String := "<none>"

def temporaryVariable : String := "TMPDIR"

/-- The directory for passing files. An empty name counts as one. -/
def temporaryDirectory (lookup : String → Option String) : Path :=
  Path.ofText ((lookup temporaryVariable).getD "/tmp")

/-- The directory that the environment asks for, where nothing or a blank text asks for the
default. -/
def readDirectory (fallback : Path) (given : Option String) : Option Path :=
  match given.map Text.trim with
  | none => some fallback
  | some dir =>
    if dir = noDirectory then none
    else if dir = "" then some fallback
    else some (Path.ofText dir)

def ofEnvironment (fallback : Path) (lookup : String → Option String) : Except Error Settings :=
  let directory := readDirectory fallback (lookup directoryVariable)
  match lookup levelVariable with
  | none => .ok { directory }
  | some text =>
    match Level.read text with
    | .ok level => .ok { directory, level }
    | .error e => .error (e.withContext "variable" levelVariable)

end Settings

end EventLog
