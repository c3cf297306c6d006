import EventLog.Event
import EventLog.Rolling.OpenFile

/-!
A writer that keeps one log file open and starts another when the day of the week changes. A new
file never takes the place of an entry: its name is counted up until it is free.
-/
namespace EventLog

/-- Where new log files go and what their names start with. -/
structure Target where
  dir : Path
  stem : String
  deriving DecidableEq, Repr

structure Rolling where
  target : Target
  zone : Zone := {}
  current : Option OpenFile := none
  deriving DecidableEq, Repr

/-- What an operation of a writer leaves behind: the disk, the writer, the errors that were none of
the operation's own, and its result. -/
structure Rolled where
  disk : Disk
  writer : Rolling
  aside : List Error := []
  result : Except Error Unit := .ok ()

namespace Target

def fileName (t : Target) (date : Date) (suffix : UInt64) : List Char :=
  t.stem.toList ++ '.' :: date.text ++ '.' :: Text.hex16 suffix ++ ".log".toList

def filePath (t : Target) (date : Date) (suffix : UInt64) : Path :=
  t.dir.join ⟨Text.encode (t.fileName date suffix)⟩

/-- Makes the first log file whose path is free, counting up from a suffix. An error tells at which
path it arose. -/
def createFrom (t : Target) (d : Disk) (date : Date) :
    (tries : Nat) → (suffix : UInt64) → Except (Path × Fault) (Nat × Path × Disk)
  | 0, suffix => .error (t.filePath date suffix, .taken)
  | tries + 1, suffix =>
    match d.createFile (t.filePath date suffix) with
    | .ok (id, after) => .ok (id, t.filePath date suffix, after)
    | .error .taken => createFrom t d date tries (suffix + 1)
    | .error fault => .error (t.filePath date suffix, fault)

/-- Makes a log file for an event at `time`, and the directory for it. No more paths can be taken
than the disk has entries. -/
def openFile (t : Target) (d : Disk) (zone : Zone) (time : Instant) :
    Disk × Except Error OpenFile :=
  match d.makeDirectories t.dir with
  | (d, .error fault) => (d, .error ((Error.ofFault fault).withContext "dir" t.dir.text))
  | (d, .ok ()) =>
    match t.createFrom d (time.date zone) (d.entries.size + 1) (UInt64.ofInt time.millis) with
    | .error (path, fault) => (d, .error ((Error.ofFault fault).withContext "path" path.text))
    | .ok (id, path, after) => (after, .ok { id, path, weekday := time.weekday zone })

end Target

namespace Rolling

def needsFile (w : Rolling) (e : Event) : Bool :=
  match w.current with
  | some f => f.weekday ≠ e.time.weekday w.zone
  | none => true

def flush (d : Disk) (w : Rolling) : Rolled :=
  match w.current with
  | none => { disk := d, writer := w }
  | some f =>
    let (after, f, result) := f.drain d
    { disk := after
      writer := { w with current := some f }
      result := result.mapError f.report }

/-- Closes the open file after sending what waits for it. What the disk refuses is lost. -/
def close (d : Disk) (w : Rolling) : Rolled :=
  match w.current with
  | none => { disk := d, writer := w }
  | some f =>
    let (after, f, result) := f.drain d
    { disk := after
      writer := { w with current := none }
      result := result.mapError f.report }

/-- Closes the open file; the next one goes to another target. -/
def redirect (d : Disk) (w : Rolling) (target : Target) : Rolled :=
  { w with target := target }.close d

def writeTo (d : Disk) (w : Rolling) (f : OpenFile) (e : Event) : Rolled :=
  let (after, f, result) := f.putAll d ((e.pieces w.zone).map Text.encode)
  { disk := after
    writer := { w with current := some f }
    result := result.mapError f.report }

/-- Writes an event, to a new file if it needs one. If none can be made the event is lost and the
open file stays. The file before the new one is closed last, and an error of that stands aside. -/
def write (d : Disk) (w : Rolling) (e : Event) : Rolled :=
  match w.current, w.needsFile e with
  | some f, false => w.writeTo d f e
  | previous, _ =>
    match w.target.openFile d w.zone e.time with
    | (d, .error error) => { disk := d, writer := w, result := .error error }
    | (d, .ok f) =>
      let written := w.writeTo d f e
      match previous with
      | none => written
      | some old =>
        let (after, old, closed) := old.drain written.disk
        { written with
          disk := after
          aside := match closed with
            | .error fault => [old.report fault]
            | .ok () => [] }

end Rolling

end EventLog
