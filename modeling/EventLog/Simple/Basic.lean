import EventLog.Pipeline.Worker
import EventLog.Simple.Directory
import EventLog.Simple.Settings

/-!
The simple backend: every channel prints on one console and, if there is a directory for log files,
goes through one pipeline. Console, directory and the start of file names can change at any time;
the level never does.
-/
namespace EventLog

/-- A simple backend in its surroundings. `closed` says that it was shut down. -/
structure Simple where
  level : Level
  console : Console
  directory : Option Path
  stem : String
  zone : Zone
  closed : Bool := false
  pipeline : Option Pipeline := none
  world : World
  deriving Repr

namespace Simple

def name : String := "simple"

def threadError (fault : Fault) : Error :=
  (Error.ofFault fault).withContext "thread" "file writer"

/-- A pipeline that writes to a directory, if its worker gets a thread. -/
def startPipeline (w : World) (dir : Path) (stem : String) (zone : Zone) : Except Error Pipeline :=
  match w.refusesThreads with
  | some fault => .error (threadError fault)
  | none => .ok (.start { target := ⟨dir, stem⟩, zone })

/-- A backend with some settings. A refusal comes with what it left behind. -/
def start (w : World) (settings : Settings) : Except (Error × World) Simple :=
  let stem := settings.stem.getD w.defaultStem
  let quiet : Simple :=
    { level := settings.level, console := settings.console, directory := none, stem
      zone := settings.zone, world := w }
  match settings.directory with
  | none => .ok quiet
  | some given =>
    match checkDirectory w.disk given with
    | (disk, .error e) => .error (e, { w with disk })
    | (disk, .ok dir) =>
      match startPipeline w dir stem settings.zone with
      | .error e => .error (e, { w with disk })
      | .ok p =>
        .ok { quiet with directory := some dir, pipeline := some p, world := { w with disk } }

def isEnabled (s : Simple) (level : Level) : Bool := level.passes s.level

def trapError (s : Simple) (e : Error) : Simple := { s with world := s.world.trapError e }

def absorb (s : Simple) (r : Worked) : Simple :=
  { s with
    pipeline := some r.pipeline
    world := { s.world with disk := r.disk }.trapAll r.trapped }

def trapResult (s : Simple) (result : Except Error Unit) : Simple :=
  match result with
  | .ok () => s
  | .error e => s.trapError e

def record (s : Simple) (channel : String) (level : Level) (text : String) : Simple :=
  match s.pipeline with
  | none => s
  | some p =>
    match p.enqueue s.world.now level channel text with
    | .ok (_, queued) => { s with pipeline := some queued }
    | .error e => s.trapError (e.withContext "channel" channel)

def print (s : Simple) (channel text : String) : Simple :=
  let (world, result) := s.world.writeLine s.console text
  { s with world }.trapResult
    (result.mapError fun fault => (Error.ofFault fault).withContext "channel" channel)

/-- Takes an event: it is queued first and printed then. -/
def log (s : Simple) (channel : String) (level : Level) (text : String) : Simple :=
  (s.record channel level text).print channel text

def flushConsole (s : Simple) : Simple :=
  s.trapResult ((s.world.flushConsole s.console).mapError Error.ofFault)

/-- Waits until every queued event is in its file, and flushes the console. -/
def flush (s : Simple) : Simple :=
  let flushed := match s.pipeline with
    | none => s
    | some p =>
      let (r, result) := p.flush s.world.disk
      (s.absorb r).trapResult result
  flushed.flushConsole

def shutdown (s : Simple) : Simple :=
  let shut := match s.pipeline with
    | none => { s with closed := true }
    | some p => { s with closed := true }.absorb (p.shutdown s.world.disk)
  shut.flushConsole

/-- Prints later events on another console. The one before is flushed. -/
def setConsole (s : Simple) (console : Console) : Simple :=
  { s with console }.trapResult ((s.world.flushConsole s.console).mapError Error.ofFault)

def closedError : Error :=
  { kind := .pipelineClosed, message := "the simple backend is shut down" }

/-- The backend with other log files: none, those of a redirected pipeline, or those of a new one,
whose events are numbered from zero. -/
def retarget (s : Simple) (directory : Option Path) (stem : String) : Except Error Simple :=
  match s.pipeline, directory with
  | some p, some dir =>
    match p.redirect ⟨dir, stem⟩ with
    | .ok queued => .ok { s with directory, stem, pipeline := some queued }
    | .error e => .error e
  | none, some dir =>
    match startPipeline s.world dir stem s.zone with
    | .ok p => .ok { s with directory, stem, pipeline := some p }
    | .error e => .error e
  | some p, none =>
    .ok { s.absorb (p.shutdown s.world.disk) with directory, stem, pipeline := none }
  | none, none => .ok { s with directory, stem }

/-- Writes later events to another directory, or to none. A refusal changes no setting. -/
def setDirectory (s : Simple) (given : Option Path) : Simple × Except Error Unit :=
  if s.closed then (s, .error closedError)
  else match given with
    | none => match s.retarget none s.stem with
      | .ok changed => (changed, .ok ())
      | .error e => (s, .error e)
    | some path =>
      match checkDirectory s.world.disk path with
      | (disk, .error e) => ({ s with world := { s.world with disk } }, .error e)
      | (disk, .ok dir) =>
        let checked := { s with world := { s.world with disk } }
        match checked.retarget (some dir) s.stem with
        | .ok changed => (changed, .ok ())
        | .error e => (checked, .error e)

/-- Starts a new log file whose name starts otherwise. -/
def setStem (s : Simple) (stem : String) : Simple × Except Error Unit :=
  if s.closed then (s, .error closedError)
  else match s.pipeline, s.directory with
    | some p, some dir =>
      match p.redirect ⟨dir, stem⟩ with
      | .ok queued => ({ s with stem, pipeline := some queued }, .ok ())
      | .error e => (s, .error e)
    | _, _ => ({ s with stem }, .ok ())

end Simple

end EventLog
