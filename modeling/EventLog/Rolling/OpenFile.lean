import EventLog.Calendar
import EventLog.Disk.Files

/-!
A log file that is being written. What it is handed waits until there is enough of it, and whatever
the disk refuses goes on waiting.
-/
namespace EventLog

/-- An open log file: its number on the disk, the path it was made at, the day of the week of its
first event, and the bytes that are still to go to the disk. -/
structure OpenFile where
  id : Nat
  path : Path
  weekday : Weekday
  waiting : Array UInt8 := #[]
  deriving DecidableEq, Repr

namespace OpenFile

/-- So many bytes can wait. -/
def capacity : Nat := 8192

def drain (d : Disk) (f : OpenFile) : Disk × OpenFile × Except Fault Unit :=
  match d.append f.id f.waiting.toList with
  | .ok after => (after, { f with waiting := #[] }, .ok ())
  | .error fault => (d, f, .error fault)

/-- Takes a piece that fits beside what waits, if need be after sending that away; one that fills
the whole room alone goes straight to the disk. -/
def put (d : Disk) (f : OpenFile) (piece : List UInt8) : Disk × OpenFile × Except Fault Unit :=
  let spare := capacity - f.waiting.size
  let (d, f, cleared) := if piece.length > spare then f.drain d else (d, f, .ok ())
  match cleared with
  | .error fault => (d, f, .error fault)
  | .ok () =>
    if piece.length ≥ capacity then
      match d.append f.id piece with
      | .ok after => (after, f, .ok ())
      | .error fault => (d, f, .error fault)
    else (d, { f with waiting := f.waiting ++ piece }, .ok ())

/-- Takes pieces in order, up to the first that fails. -/
def putAll (d : Disk) (f : OpenFile) : List (List UInt8) → Disk × OpenFile × Except Fault Unit
  | [] => (d, f, .ok ())
  | piece :: rest =>
    match f.put d piece with
    | (d, f, .ok ()) => putAll d f rest
    | (d, f, .error fault) => (d, f, .error fault)

def report (f : OpenFile) (fault : Fault) : Error :=
  (Error.ofFault fault).withContext "path" f.path.text

end OpenFile

end EventLog
