import EventLog.Backend

/-!
A backend that keeps every event and every report in memory, in order, and echoes them.
-/
namespace EventLog

structure Record where
  channel : String
  level : Level
  text : String
  deriving DecidableEq, Repr

structure KeptError where
  channel : String
  kind : ErrorKind
  message : String
  deriving DecidableEq, Repr

/-- What was kept from a threshold on, and what was echoed on the error output. -/
structure Capture where
  threshold : Level := .trace
  records : List Record := []
  errors : List KeptError := []
  echo : String := ""
  deriving DecidableEq, Repr

namespace Capture

def levelLayout : Spec := { side := some .left, width := some 5 }

def log (c : Capture) (channel : String) (level : Level) (text : String) : Capture :=
  { c with
    records := c.records ++ [⟨channel, level, text⟩]
    echo := c.echo ++ level.display levelLayout ++ " " ++ channel ++ ": " ++ text ++ "\n" }

def report (c : Capture) (channel : String) (e : Error) : Capture :=
  { c with
    errors := c.errors ++ [⟨channel, e.kind, e.message⟩]
    echo := c.echo ++ e.display ++ "\n" }

def texts (c : Capture) : List String := c.records.map Record.text

def backend : Backend Capture where
  name := "testing"
  isEnabled c _ level := level.passes c.threshold
  log := log
  report := report

end Capture

end EventLog
