import EventLog.Proofs.Pipeline.Delivery
import EventLog.Simple.Basic

/-! Runs of a simple backend. Events come in and settings change while the worker takes its turns,
and a session keeps what was asked for: every text with the console, and every event with the
directory and the start of file names, that were set when it came in. -/
namespace EventLog.Simple

def work (s : Simple) : Simple :=
  match s.pipeline with
  | none => s
  | some p =>
    match p.step? s.world.disk with
    | none => s
    | some r => s.absorb r

/-- The event that a call asks to be written, if there is a directory. -/
def asked (s : Simple) (number : Nat) (channel : String) (level : Level) (text : String) :
    List Addressed :=
  match s.directory with
  | none => []
  | some dir => [⟨⟨dir, s.stem⟩, ⟨UInt64.ofNat number, level, s.world.now, channel, text⟩⟩]

/-- What may come next before the shutdown. Who logs is known by the channel alone, and the system
may begin to refuse new threads or cease to. -/
inductive Move where
  | log (channel : String) (level : Level) (text : String)
  | setConsole (console : Console)
  | setDirectory (given : Option Path)
  | setStem (stem : String)
  | flush
  | work
  | tick (now : Instant)
  | threads (refuses : Option Fault)

/-- A backend and what was asked of it: the texts to print, and the events to write. Those are kept
by the stretches in which there was a directory, each numbered from zero; `earlier` are the
stretches before the last one. -/
structure Session where
  backend : Simple
  printed : List (Console × String) := []
  earlier : List (List Addressed) := []
  latest : List Addressed := []

namespace Session

def start (backend : Simple) : Session := { backend }

/-- What a change of the directory makes of a session: a stretch begins where there was none. -/
def moved (s : Session) (changed : Simple) : Session :=
  if s.backend.directory.isNone && changed.directory.isSome then
    { s with backend := changed, earlier := s.earlier ++ [s.latest], latest := [] }
  else { s with backend := changed }

def act (s : Session) : Move → Session
  | .log channel level text =>
    { s with
      backend := s.backend.log channel level text
      printed := s.printed ++ [(s.backend.console, text)]
      latest := s.latest ++ s.backend.asked s.latest.length channel level text }
  | .setConsole console => { s with backend := s.backend.setConsole console }
  | .setDirectory given => s.moved (s.backend.setDirectory given).1
  | .setStem stem => { s with backend := (s.backend.setStem stem).1 }
  | .flush => { s with backend := s.backend.flush }
  | .work => { s with backend := s.backend.work }
  | .tick now => { s with backend := { s.backend with world := { s.backend.world with now } } }
  | .threads refusesThreads =>
    { s with backend := { s.backend with world := { s.backend.world with refusesThreads } } }

def run (s : Session) (moves : List Move) : Session := moves.foldl act s

def printedOn (s : Session) (console : Console) : List String :=
  (s.printed.filter (·.1 = console)).map (·.2)

/-- The stretches in which there was a directory. -/
def stretches (s : Session) : List (List Addressed) := s.earlier ++ [s.latest]

/-- The events that were logged while there was a directory. -/
def ledger (s : Session) : List Addressed := s.stretches.flatten

/-- Whether the events that are left get the new files that they need at the shutdown. -/
def shutsWell (s : Session) : Bool :=
  s.backend.pipeline.all fun p => p.stop.settlesWell s.backend.world.disk

/-- Whether the events that the worker comes to during a move get the new files that they need. -/
def isServed (s : Session) : Move → Bool
  | .setDirectory none => s.shutsWell
  | .flush => s.backend.pipeline.all (·.flushesWell s.backend.world.disk)
  | .work => s.backend.pipeline.all (·.getsFile s.backend.world.disk)
  | _ => true

def served : Session → List Move → Bool
  | s, [] => s.shutsWell
  | s, move :: rest => s.isServed move && (s.act move).served rest

end Session

/-- Two backends with the same log files: they differ at most in the console and in what is shown
and trapped. -/
structure SameFiles (s s' : Simple) : Prop where
  directory : s'.directory = s.directory
  stem : s'.stem = s.stem
  zone : s'.zone = s.zone
  closed : s'.closed = s.closed
  pipeline : s'.pipeline = s.pipeline
  disk : s'.world.disk = s.world.disk

theorem SameFiles.refl (s : Simple) : SameFiles s s := ⟨rfl, rfl, rfl, rfl, rfl, rfl⟩

theorem sameFiles_trapError (s : Simple) (e : Error) : SameFiles s (s.trapError e) := by
  refine ⟨rfl, rfl, rfl, rfl, rfl, ?_⟩
  simp only [trapError, World.trapError]
  split <;> rfl

theorem sameFiles_trapResult (s : Simple) (result : Except Error Unit) :
    SameFiles s (s.trapResult result) := by
  cases result with
  | ok => exact .refl s
  | error e => exact sameFiles_trapError s e

theorem sameFiles_flushConsole (s : Simple) : SameFiles s s.flushConsole :=
  sameFiles_trapResult s _

theorem sameFiles_setConsole (s : Simple) (console : Console) :
    SameFiles s (s.setConsole console) := by
  have h := sameFiles_trapResult { s with console }
    ((s.world.flushConsole s.console).mapError Error.ofFault)
  exact ⟨h.directory, h.stem, h.zone, h.closed, h.pipeline, h.disk⟩

private theorem disk_writeLine (w : World) (console : Console) (line : String) :
    (w.writeLine console line).1.disk = w.disk := by
  cases console with
  | stdout => rfl
  | stderr => rfl
  | buffer id =>
    simp only [World.writeLine]
    split <;> rfl

theorem sameFiles_print (s : Simple) (channel text : String) :
    SameFiles s (s.print channel text) := by
  have h := sameFiles_trapResult { s with world := (s.world.writeLine s.console text).1 }
    ((s.world.writeLine s.console text).2.mapError fun fault =>
      (Error.ofFault fault).withContext "channel" channel)
  exact ⟨h.directory, h.stem, h.zone, h.closed, h.pipeline,
    h.disk.trans (disk_writeLine s.world s.console text)⟩

private theorem startPipeline_eq_ok {w : World} {dir : Path} {stem : String} {zone : Zone}
    {p : Pipeline} (h : startPipeline w dir stem zone = .ok p) :
    w.refusesThreads = none ∧ p = .start { target := ⟨dir, stem⟩, zone } := by
  unfold startPipeline at h
  split at h
  · cases h
  · next hthreads =>
    cases h
    exact ⟨hthreads, rfl⟩

/-- What a backend starts as: one without log files, or one with a new pipeline for a directory that
passed the check. -/
theorem start_eq_ok {w : World} {settings : Settings} {s : Simple} (h : start w settings = .ok s) :
    s = { level := settings.level, console := settings.console, directory := none
          stem := settings.stem.getD w.defaultStem, zone := settings.zone, world := w } ∨
      ∃ given disk dir, checkDirectory w.disk given = (disk, .ok dir) ∧
        s = { level := settings.level, console := settings.console, directory := some dir
              stem := settings.stem.getD w.defaultStem, zone := settings.zone
              pipeline := some (.start
                { target := ⟨dir, settings.stem.getD w.defaultStem⟩, zone := settings.zone })
              world := { w with disk } } := by
  unfold start at h
  split at h
  · cases h
    exact .inl rfl
  · split at h
    · cases h
    · next hcheck =>
      simp only at h
      split at h
      · cases h
      · next hstarted =>
        cases h
        obtain ⟨-, rfl⟩ := startPipeline_eq_ok hstarted
        exact .inr ⟨_, _, _, hcheck, rfl⟩

/-- The changes of the log files: a pipeline is redirected, started or shut down, or there is none
before and after. -/
inductive Retargeted (s : Simple) (stem : String) : Option Path → Simple → Prop
  | redirected {p : Pipeline} {dir : Path} (pipeline : s.pipeline = some p)
      (accepts : p.next ≠ none) :
      Retargeted s stem (some dir)
        { s with
          directory := some dir, stem
          pipeline := some { p with queue := p.queue.push (.redirect ⟨dir, stem⟩) } }
  | started {dir : Path} (pipeline : s.pipeline = none) (threads : s.world.refusesThreads = none) :
      Retargeted s stem (some dir)
        { s with
          directory := some dir, stem
          pipeline := some (.start { target := ⟨dir, stem⟩, zone := s.zone }) }
  | ended {p : Pipeline} (pipeline : s.pipeline = some p) :
      Retargeted s stem none
        { s.absorb (p.shutdown s.world.disk) with directory := none, stem, pipeline := none }
  | off (pipeline : s.pipeline = none) : Retargeted s stem none { s with directory := none, stem }

def onDisk (s : Simple) (disk : Disk) : Simple := { s with world := { s.world with disk } }

/-- There is a pipeline just if there is a directory. -/
def Paired (s : Simple) : Prop := s.pipeline.isSome = s.directory.isSome

variable {s : Simple}

theorem retargeted {directory : Option Path} {stem : String} {changed : Simple}
    (h : s.retarget directory stem = .ok changed) : s.Retargeted stem directory changed := by
  unfold retarget at h
  split at h
  · next hp =>
    split at h <;> cases h
    next hqueued =>
    obtain ⟨hnext, rfl⟩ := Pipeline.redirect_eq_ok hqueued
    exact .redirected hp hnext
  · next hp =>
    split at h <;> cases h
    next hstarted =>
    obtain ⟨hthreads, rfl⟩ := startPipeline_eq_ok hstarted
    exact .started hp hthreads
  · next hp =>
    cases h
    exact .ended hp
  · next hp =>
    cases h
    exact .off hp

/-- Only for want of a thread, or too late, is another directory refused. -/
theorem retarget_eq_error {directory : Option Path} {stem : String} {e : Error}
    (h : s.retarget directory stem = .error e) :
    (∃ p, s.pipeline = some p ∧ p.next = none) ∨
      s.pipeline = none ∧ ∃ fault, s.world.refusesThreads = some fault ∧ e = threadError fault := by
  unfold retarget at h
  split at h
  · next p dir hp =>
    cases hnext : p.next with
    | none => exact .inl ⟨p, hp, hnext⟩
    | some n =>
      simp only [Pipeline.redirect, hnext] at h
      cases h
  · next hp =>
    refine .inr ⟨hp, ?_⟩
    cases hthreads : s.world.refusesThreads with
    | none =>
      simp only [startPipeline, hthreads] at h
      cases h
    | some fault =>
      simp only [startPipeline, hthreads] at h
      cases h
      exact ⟨fault, rfl, rfl⟩
  · cases h
  · cases h

/-- What can become of a directory that is asked for. A refusal leaves at most the disk as the check
left it. -/
inductive DirectoryOutcome (s : Simple) : Option Path → Simple × Except Error Unit → Prop
  | late {given : Option Path} (closed : s.closed = true) :
      DirectoryOutcome s given (s, .error closedError)
  | off {changed : Simple} (retarget : s.retarget none s.stem = .ok changed) :
      DirectoryOutcome s none (changed, .ok ())
  | unfit {path : Path} {disk : Disk} {e : Error}
      (check : checkDirectory s.world.disk path = (disk, .error e)) :
      DirectoryOutcome s (some path) (s.onDisk disk, .error e)
  | refused {path dir : Path} {disk : Disk} {e : Error}
      (check : checkDirectory s.world.disk path = (disk, .ok dir))
      (retarget : (s.onDisk disk).retarget (some dir) s.stem = .error e) :
      DirectoryOutcome s (some path) (s.onDisk disk, .error e)
  | taken {path dir : Path} {disk : Disk} {changed : Simple}
      (check : checkDirectory s.world.disk path = (disk, .ok dir))
      (retarget : (s.onDisk disk).retarget (some dir) s.stem = .ok changed) :
      DirectoryOutcome s (some path) (changed, .ok ())

theorem directoryOutcome (s : Simple) (given : Option Path) :
    s.DirectoryOutcome given (s.setDirectory given) := by
  unfold setDirectory
  split
  · next hclosed => exact .late hclosed
  · split
    · split
      · next hchanged => exact .off hchanged
      · next hrefused =>
        cases hp : s.pipeline <;> simp only [retarget, hp] at hrefused <;> cases hrefused
    · split
      · next hcheck => exact .unfit hcheck
      · next hcheck =>
        simp only
        split
        · next hchanged => exact .taken hcheck hchanged
        · next hrefused => exact .refused hcheck hrefused

theorem setStem_of_off (isOpen : s.closed = false) (off : s.pipeline = none ∨ s.directory = none)
    (stem : String) : s.setStem stem = ({ s with stem }, .ok ()) := by
  rw [setStem, if_neg (by simp [isOpen])]
  split
  · next hp hdir =>
    rw [hp, hdir] at off
    obtain off | off := off <;> cases off
  · rfl

theorem setStem_of_on (isOpen : s.closed = false) {p : Pipeline} {dir : Path}
    (pipeline : s.pipeline = some p) (directory : s.directory = some dir) (stem : String) :
    s.setStem stem = match p.redirect ⟨dir, stem⟩ with
      | .ok queued => ({ s with stem, pipeline := some queued }, .ok ())
      | .error e => (s, .error e) := by
  rw [setStem, if_neg (by simp [isOpen])]
  split
  · next hp hdir =>
    cases pipeline.symm.trans hp
    cases directory.symm.trans hdir
    rfl
  · next hnot => exact (hnot p dir pipeline directory).elim

/-- What becomes of the start of file names that is asked for: a pipeline that has a directory is
redirected, and without one the name is only kept. -/
theorem setStem_cases (s : Simple) (stem : String) :
    (∃ e, s.setStem stem = (s, .error e)) ∨
      (s.pipeline = none ∨ s.directory = none) ∧ s.setStem stem = ({ s with stem }, .ok ()) ∨
      ∃ p dir, s.pipeline = some p ∧ s.directory = some dir ∧ s.setStem stem =
        ({ s with stem, pipeline := some { p with queue := p.queue.push (.redirect ⟨dir, stem⟩) } },
          .ok ()) := by
  rcases Bool.eq_false_or_eq_true s.closed with hclosed | isOpen
  · exact .inl ⟨closedError, if_pos hclosed⟩
  rcases Option.eq_none_or_eq_some s.pipeline with hp | ⟨p, hp⟩
  · exact .inr (.inl ⟨.inl hp, setStem_of_off isOpen (.inl hp) stem⟩)
  rcases Option.eq_none_or_eq_some s.directory with hdir | ⟨dir, hdir⟩
  · exact .inr (.inl ⟨.inr hdir, setStem_of_off isOpen (.inr hdir) stem⟩)
  rw [setStem_of_on isOpen hp hdir]
  split
  · next hqueued =>
    obtain ⟨-, rfl⟩ := Pipeline.redirect_eq_ok hqueued
    exact .inr (.inr ⟨p, dir, hp, hdir, rfl⟩)
  · exact .inl ⟨_, rfl⟩

theorem Paired.same {s' : Simple} (h : Paired s) (same : SameFiles s s') : Paired s' := by
  rw [Paired, same.pipeline, same.directory]
  exact h

theorem paired_start {w : World} {settings : Settings} (h : start w settings = .ok s) :
    Paired s := by
  obtain rfl | ⟨_, _, _, -, rfl⟩ := start_eq_ok h <;> rfl

private theorem paired_record (h : Paired s) (channel : String) (level : Level) (text : String) :
    Paired (s.record channel level text) := by
  unfold record
  split
  · exact h
  · next p hp =>
    rw [Paired, hp] at h
    split
    · exact h
    · refine Paired.same ?_ (sameFiles_trapError s _)
      rw [Paired, hp, h]

private theorem paired_absorb {p : Pipeline} (h : Paired s) (hp : s.pipeline = some p)
    (r : Worked) : Paired (s.absorb r) := by
  rw [Paired, hp] at h
  exact h

private theorem paired_work (h : Paired s) : Paired s.work := by
  unfold work
  split
  · exact h
  · next p hp =>
    split
    · exact h
    · exact paired_absorb h hp _

private theorem paired_flush (h : Paired s) : Paired s.flush := by
  unfold flush
  refine Paired.same ?_ (sameFiles_flushConsole _)
  split
  · exact h
  · next p hp => exact (paired_absorb h hp _).same (sameFiles_trapResult _ _)

theorem paired_shutdown (h : Paired s) : Paired s.shutdown := by
  unfold shutdown
  refine Paired.same ?_ (sameFiles_flushConsole _)
  split
  · exact h
  · next p hp => exact paired_absorb (s := { s with closed := true }) h hp _

private theorem paired_retarget {directory : Option Path} {stem : String} {changed : Simple}
    (h : s.retarget directory stem = .ok changed) : Paired changed := by
  cases retargeted h with
  | redirected | started | ended => rfl
  | off pipeline =>
    rw [Paired, pipeline]
    rfl

private theorem paired_setDirectory (h : Paired s) (given : Option Path) :
    Paired (s.setDirectory given).1 := by
  have houtcome := s.directoryOutcome given
  generalize s.setDirectory given = result at houtcome
  cases houtcome with
  | late | unfit | refused => exact h
  | off hchanged | taken _ hchanged => exact paired_retarget hchanged

private theorem paired_setStem (h : Paired s) (stem : String) : Paired (s.setStem stem).1 := by
  obtain ⟨e, hset⟩ | ⟨-, hset⟩ | ⟨p, dir, -, hdir, hset⟩ := s.setStem_cases stem <;> rw [hset]
  · exact h
  · exact h
  · rw [Paired, hdir]
    rfl

namespace Session

theorem backend_moved (s : Session) (changed : Simple) :
    (s.moved changed).backend = changed := by
  unfold moved
  split <;> rfl

private theorem paired_act {s : Session} (h : Paired s.backend) (move : Move) :
    Paired (s.act move).backend := by
  cases move with
  | log channel level text =>
    exact (paired_record h channel level text).same (sameFiles_print _ _ _)
  | setConsole console => exact h.same (sameFiles_setConsole _ console)
  | setDirectory given =>
    rw [act, backend_moved]
    exact paired_setDirectory h given
  | setStem stem => exact paired_setStem h stem
  | flush => exact paired_flush h
  | work => exact paired_work h
  | tick now => exact h
  | threads refuses => exact h

/-- Whatever comes, there is a pipeline just if there is a directory. -/
theorem paired_run {s : Session} (h : Paired s.backend) (moves : List Move) :
    Paired (s.run moves).backend := by
  induction moves generalizing s with
  | nil => exact h
  | cons move rest ih => exact ih (paired_act h move)

end Session

end EventLog.Simple
