import EventLog.Calendar
import EventLog.Disk.Files

/-!
What surrounds a backend: the disk, the clock, the two outputs of the process, the buffers that may
stand in for a console, and the errors that nobody could be told of otherwise.
-/
namespace EventLog

/-- Where console lines go. Buffers are named by number. -/
inductive Console where
  | stdout
  | stderr
  | buffer (id : Nat)
  deriving DecidableEq, Repr

/-- What becomes of a trapped error: it is kept for whoever asks, or printed on the error output. -/
inductive Trap where
  | keep
  | print
  deriving DecidableEq, Repr

/-- A buffer that stands in for a console. It may refuse every write, or every flush. -/
structure Buffer where
  text : String := ""
  refusesWrites : Option Fault := none
  refusesFlushes : Option Fault := none
  deriving DecidableEq, Repr

/-- The surroundings of a backend; `program` and `processId` tell who it runs for. The system may
refuse new threads. -/
structure World where
  disk : Disk := {}
  refusesThreads : Option Fault := none
  now : Instant := {}
  program : String := ""
  processId : Nat := 0
  out : String := ""
  err : String := ""
  buffers : List Buffer := []
  trap : Trap := .keep
  trapped : List Error := []
  deriving Repr

namespace Console

def name : Console → String
  | stdout => "Stdout"
  | stderr => "Stderr"
  | buffer _ => "Writer"

end Console

namespace Buffer

def flush (b : Buffer) : Except Fault Unit :=
  match b.refusesFlushes with
  | some fault => .error fault
  | none => .ok ()

def writeLine (b : Buffer) (line : String) : Buffer × Except Fault Unit :=
  match b.refusesWrites with
  | some fault => (b, .error fault)
  | none =>
    let written := { b with text := b.text ++ line ++ "\n" }
    (written, written.flush)

end Buffer

namespace World

/-- What the names of log files start with if nobody says so. -/
def defaultStem (w : World) : String := w.program ++ "-" ++ Text.number w.processId

def trapError (w : World) (e : Error) : World :=
  match w.trap with
  | .keep => { w with trapped := w.trapped ++ [e] }
  | .print => { w with err := w.err ++ e.display ++ "\n" }

def trapAll (w : World) (errors : List Error) : World := errors.foldl trapError w

def writeLine (w : World) (console : Console) (line : String) : World × Except Fault Unit :=
  match console with
  | .stdout => ({ w with out := w.out ++ line ++ "\n" }, .ok ())
  | .stderr => ({ w with err := w.err ++ line ++ "\n" }, .ok ())
  | .buffer id =>
    match w.buffers[id]? with
    | none => (w, .ok ())
    | some b =>
      let (written, result) := b.writeLine line
      ({ w with buffers := w.buffers.set id written }, result)

def flushConsole (w : World) (console : Console) : Except Fault Unit :=
  match console with
  | .buffer id => match w.buffers[id]? with
    | some b => b.flush
    | none => .ok ()
  | _ => .ok ()

end World

end EventLog
