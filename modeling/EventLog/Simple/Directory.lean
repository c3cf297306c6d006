import EventLog.Disk.Files

/-!
The check that log files can go to a directory, which makes the directory if it is missing.
-/
namespace EventLog.Simple

def invalidDirectory (given : Path) (message : String) : Error :=
  { kind := .invalidOutputDirectory, message, context := [("dir", given.text)] }

/-- The absolute path of a directory for log files. It is made if it is missing, and must take a new
file. What was made before a refusal stays. -/
def checkDirectory (d : Disk) (given : Path) : Disk × Except Error Path :=
  let refused (message : String) (fault : Fault) : Except Error Path :=
    .error ((invalidDirectory given message).withSource ⟨fault.text, []⟩)
  match given.absolute d.workingDirectory with
  | .error fault => (d, refused "failed to resolve output directory" fault)
  | .ok dir =>
    match d.makeDirectories dir with
    | (made, .error fault) => (made, refused "failed to create output directory" fault)
    | (made, .ok ()) =>
      match made.find dir with
      | .error fault => (made, refused "failed to read output directory" fault)
      | .ok .directory =>
        match made.probe dir with
        | (probed, .error fault) => (probed, refused "output directory is not writable" fault)
        | (probed, .ok ()) => (probed, .ok dir)
      | .ok _ => (made, .error (invalidDirectory given "output directory is not a directory"))

end EventLog.Simple
