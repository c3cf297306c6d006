import EventLog.Formatter.Basic

/-!
Operations on paths. Each asks the disk in its own way and leaves it as it found it; a refusal by
the system is a sentinel in the text and no error.
-/
namespace EventLog

/-- What stands for a text that the disk did not give. -/
def unavailable : String := "<null>"

namespace Formatter

private def word (b : Bool) : String := String.ofList (Value.flag b)

/-- The operations on a path: each gives the disk as the question left it, and the answer. -/
def pathOperations : List (String × (Disk → Path → Disk × String)) :=
  [ ("canExecute", fun d p => (d, word (d.canExecute p))),
    ("canRead", fun d p => (d, word (d.canRead p))),
    ("canWrite", fun d p => ((d.canWrite p).1, word (d.canWrite p).2)),
    ("content", fun d p => (d, (d.content? p).getD unavailable)),
    ("exists", fun d p => (d, word (d.pathExists p))),
    ("length", fun d p => (d, Text.number (d.length p))),
    ("uri", fun d p => (d, match p.absolute d.workingDirectory with
      | .ok q => q.fileUrl
      | .error _ => unavailable)),
    ("absolutePath", fun d p => (d, match p.absolute d.workingDirectory with
      | .ok q => q.text
      | .error _ => unavailable)),
    ("canonicalPath", fun d p => (d, match d.canonical? p with
      | some q => q.text
      | none => unavailable)) ]

def paths : Formatter := fun disk v operation =>
  match v with
  | .path p => (pathOperations.lookup operation).map fun ask => (ask disk p).2
  | _ => none

end Formatter

end EventLog
