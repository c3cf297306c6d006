import EventLog.Proofs.Pipeline.Closing
import EventLog.Proofs.Simple.Notices
import EventLog.Proofs.Simple.Runs
import Mathlib

/-! A simple backend that was shut down. It goes on printing, its log files stay as they are, and of
every event that would have gone to one there is a report. -/
namespace EventLog.Simple

def lateReport (channel : String) : Error := Pipeline.closedError.withContext "channel" channel

def Move.consoleFrom (console : Console) : Move → Console
  | setConsole another => another
  | _ => console

/-- What a move has told after the shutdown. A text is printed; an event or a flush that is meant
for log files as well is reported. -/
def told (filing : Bool) (console : Console) : Move → List Notice
  | .log channel _ text =>
    (if filing then [.trapped (lateReport channel)] else []) ++ [.line console text]
  | .flush => if filing then [.trapped Pipeline.closedError] else []
  | _ => []

/-- What some moves have told after the shutdown, the console being set by them. -/
def due (filing : Bool) : Console → List Move → List Notice
  | _, [] => []
  | console, move :: rest =>
    told filing console move ++ due filing (move.consoleFrom console) rest

def isLate (s : Simple) : Bool := s.pipeline.any Pipeline.isShutdown

/-- A backend that was not shut down: its pipeline, if it has one, accepts events, and no flush is
under way. -/
structure Live (s : Simple) : Prop where
  isOpen : s.closed = false
  pipeline : ∀ p ∈ s.pipeline, p.next ≠ none ∧ p.holders = 0

/-- A backend that was shut down: there is nothing left to do for its pipeline, if it has one. -/
structure Ended (filing : Bool) (s : Simple) : Prop where
  closed : s.closed = true
  filing : s.pipeline.isSome = filing
  pipeline : ∀ p ∈ s.pipeline, p.next = none ∧ p.phase = .finished

variable {s : Simple} {filing : Bool}

theorem SameFiles.trans {s s' s'' : Simple} (h : SameFiles s s') (h' : SameFiles s' s'') :
    SameFiles s s'' :=
  ⟨h'.directory.trans h.directory, h'.stem.trans h.stem, h'.zone.trans h.zone,
    h'.closed.trans h.closed, h'.pipeline.trans h.pipeline, h'.disk.trans h.disk⟩

theorem console_trapResult (s : Simple) (result : Except Error Unit) :
    (s.trapResult result).console = s.console := by
  cases result <;> rfl

private theorem Live.same {s' : Simple} (h : Live s) (same : SameFiles s s') : Live s' :=
  ⟨same.closed.trans h.isOpen, same.pipeline.symm ▸ h.pipeline⟩

private theorem live_of_some {p : Pipeline} (isOpen : s.closed = false) (hp : s.pipeline = some p)
    (h : p.next ≠ none ∧ p.holders = 0) : Live s := by
  refine ⟨isOpen, ?_⟩
  rintro q hq
  cases hp.symm.trans hq
  exact h

theorem live_start {w : World} {settings : Settings} (h : start w settings = .ok s) : Live s := by
  obtain rfl | ⟨_, _, _, -, rfl⟩ := start_eq_ok h
  · exact ⟨rfl, by rintro p ⟨⟩⟩
  · exact live_of_some rfl rfl ⟨by rintro ⟨⟩, rfl⟩

private theorem live_record (h : Live s) (channel : String) (level : Level) (text : String) :
    Live (s.record channel level text) := by
  unfold record
  split
  · exact h
  · next p hp =>
    split
    · next hqueued =>
      obtain ⟨-, rfl⟩ := Pipeline.enqueue_eq_ok hqueued
      exact live_of_some h.isOpen rfl ⟨by rintro ⟨⟩, (h.pipeline p hp).2⟩
    · exact h.same (sameFiles_trapError s _)

private theorem live_absorb {p : Pipeline} {r : Worked} (h : Live s) (hp : s.pipeline = some p)
    (hr : r.pipeline.next = p.next ∧ r.pipeline.holders = p.holders) : Live (s.absorb r) := by
  obtain ⟨hnext, hholders⟩ := h.pipeline p hp
  exact live_of_some h.isOpen rfl ⟨hr.1.symm ▸ hnext, hr.2.trans hholders⟩

private theorem live_work (h : Live s) : Live s.work := by
  unfold work
  split
  · exact h
  · next p hp =>
    split
    · exact h
    · next r hr => exact live_absorb h hp (Pipeline.step?_keeps hr)

private theorem live_flush (h : Live s) : Live s.flush := by
  unfold flush
  refine Live.same ?_ (sameFiles_flushConsole _)
  split
  · exact h
  · next p hp =>
    exact (live_absorb h hp (Pipeline.flush_keeps s.world.disk p)).same (sameFiles_trapResult _ _)

private theorem live_of_retarget (h : Live s) {directory : Option Path} {stem : String}
    {changed : Simple} (hchanged : s.retarget directory stem = .ok changed) : Live changed := by
  cases retargeted hchanged with
  | redirected pipeline accepts =>
    exact live_of_some h.isOpen rfl ⟨accepts, (h.pipeline _ pipeline).2⟩
  | started => exact live_of_some h.isOpen rfl ⟨by rintro ⟨⟩, rfl⟩
  | ended => exact ⟨h.isOpen, by rintro p ⟨⟩⟩
  | off => exact ⟨h.isOpen, h.pipeline⟩

private theorem live_setDirectory (h : Live s) (given : Option Path) :
    Live (s.setDirectory given).1 := by
  have honDisk (disk : Disk) : Live (s.onDisk disk) := ⟨h.isOpen, h.pipeline⟩
  have houtcome := s.directoryOutcome given
  generalize s.setDirectory given = result at houtcome
  cases houtcome with
  | late => exact h
  | off hchanged => exact live_of_retarget h hchanged
  | unfit | refused => exact honDisk _
  | taken _ hchanged => exact live_of_retarget (honDisk _) hchanged

private theorem live_setStem (h : Live s) (stem : String) : Live (s.setStem stem).1 := by
  obtain ⟨e, hset⟩ | ⟨-, hset⟩ | ⟨p, dir, hp, -, hset⟩ := s.setStem_cases stem <;> rw [hset]
  · exact h
  · exact ⟨h.isOpen, h.pipeline⟩
  · exact live_of_some h.isOpen rfl (h.pipeline p hp)

/-- A live backend takes any start of file names. -/
theorem Live.setStem_eq_ok (h : Live s) (stem : String) : (s.setStem stem).2 = .ok () := by
  rw [Simple.setStem, if_neg (by simp [h.isOpen])]
  split
  · next p dir hp _ =>
    obtain ⟨n, hn⟩ := Option.ne_none_iff_exists'.mp (h.pipeline p hp).1
    simp only [Pipeline.redirect, hn]
  · rfl

/-- The pipeline has ended when the shutdown returns. -/
theorem ended_shutdown (h : Live s) : Ended s.pipeline.isSome s.shutdown := by
  have hshut (shut : Simple) (hended : Ended s.pipeline.isSome shut) :
      Ended s.pipeline.isSome shut.flushConsole := by
    have same := sameFiles_flushConsole shut
    refine ⟨same.closed.trans hended.closed, ?_, ?_⟩
    · rw [same.pipeline]
      exact hended.filing
    · rw [same.pipeline]
      exact hended.pipeline
  unfold shutdown
  refine hshut _ ?_
  split
  · next hp =>
    refine ⟨rfl, rfl, fun p hmem => ?_⟩
    cases hp.symm.trans hmem
  · next p hp =>
    refine ⟨rfl, by rw [hp]; rfl, ?_⟩
    rintro _ ⟨⟩
    exact Pipeline.shutdown_ends (h.pipeline p hp).2

theorem Ended.same {s' : Simple} (h : Ended filing s) (same : SameFiles s s') :
    Ended filing s' :=
  ⟨same.closed.trans h.closed, same.pipeline.symm ▸ h.filing, same.pipeline.symm ▸ h.pipeline⟩

private theorem absorb_self {p : Pipeline} (hp : s.pipeline = some p) :
    s.absorb { disk := s.world.disk, pipeline := p } = s := by
  rw [absorb, ← hp]
  rfl

/-- A second shutdown only flushes the console. -/
theorem Ended.shutdown_eq (h : Ended filing s) : s.shutdown = s.flushConsole := by
  have hclosed : { s with closed := true } = s := by rw [← h.closed]
  rw [shutdown, hclosed]
  split
  · rfl
  · next p hp =>
    obtain ⟨hnext, hphase⟩ := h.pipeline p hp
    rw [Pipeline.shutdown_of_finished hnext hphase, absorb_self hp]

private theorem Ended.record_eq (h : Ended filing s) (channel : String) (level : Level)
    (text : String) :
    s.record channel level text = if filing then s.trapError (lateReport channel) else s := by
  rw [← h.filing, record]
  split
  · next hp => rw [hp]; rfl
  · next p hp =>
    rw [hp]
    simp only [Pipeline.enqueue, (h.pipeline p hp).1]
    rfl

private theorem Ended.flush_eq (h : Ended filing s) :
    s.flush = (if filing then s.trapError Pipeline.closedError else s).flushConsole := by
  rw [← h.filing, flush]
  split
  · next hp => rw [hp]; rfl
  · next p hp =>
    rw [Pipeline.flush_of_stopped (h.pipeline p hp).1]
    simp only [hp, absorb_self hp]
    rfl

theorem Ended.setDirectory_eq (h : Ended filing s) (given : Option Path) :
    s.setDirectory given = (s, .error closedError) := if_pos h.closed

theorem Ended.setStem_eq (h : Ended filing s) (stem : String) :
    s.setStem stem = (s, .error closedError) := if_pos h.closed

private theorem Ended.work_eq (h : Ended filing s) : s.work = s := by
  rw [work]
  split
  · rfl
  · next p hp => rw [Pipeline.step?_of_finished (h.pipeline p hp).2]

private theorem Ended.isLate_eq (h : Ended filing s) : s.isLate = filing := by
  rw [← h.filing, isLate]
  cases hp : s.pipeline with
  | none => rfl
  | some p => simp [Pipeline.isShutdown, (h.pipeline p hp).1]

private theorem console_record (s : Simple) (channel : String) (level : Level) (text : String) :
    (s.record channel level text).console = s.console := by
  unfold record
  split
  · rfl
  · split <;> rfl

private theorem console_log (s : Simple) (channel : String) (level : Level) (text : String) :
    (s.log channel level text).console = s.console := by
  rw [log, print, console_trapResult]
  exact console_record s channel level text

private theorem announces_record (s : Simple) (channel : String) (level : Level) (text : String) :
    Announces (if s.isLate then [.trapped (lateReport channel)] else []) s.world
      (s.record channel level text).world := by
  rw [isLate, record]
  cases s.pipeline with
  | none => exact .refl _
  | some p =>
    cases hn : p.next with
    | none =>
      have hlate : (some p).any Pipeline.isShutdown = true := by simp [Pipeline.isShutdown, hn]
      have hkind : (lateReport channel).kind ≠ .io := by rintro ⟨⟩
      simp only [Pipeline.enqueue, hn]
      rw [if_pos hlate]
      exact (tells_trapError s.world _).announces (by simp [Notice.isFault, hkind])
    | some n =>
      have htaken : (some p).any Pipeline.isShutdown ≠ true := by simp [Pipeline.isShutdown, hn]
      simp only [Pipeline.enqueue, hn]
      rw [if_neg htaken]
      exact .refl _

/-- In every state a text is printed on the console that is set. -/
theorem announces_log (s : Simple) (channel : String) (level : Level) (text : String) :
    Announces (told s.isLate s.console (.log channel level text)) s.world
      (s.log channel level text).world := by
  have hprinted := announces_print (s.record channel level text) channel text
  rw [console_record] at hprinted
  exact (announces_record s channel level text).trans hprinted

private theorem announces_if (filing : Bool) (s : Simple) {e : Error} (he : e.kind ≠ .io) :
    Announces (if filing then [.trapped e] else []) s.world
      (if filing then s.trapError e else s).world := by
  cases filing with
  | false => exact .refl _
  | true => exact (tells_trapError s.world e).announces (by simp [Notice.isFault, he])

private theorem sameFiles_if (filing : Bool) (s : Simple) (e : Error) :
    SameFiles s (if filing then s.trapError e else s) := by
  cases filing with
  | false => exact .refl s
  | true => exact sameFiles_trapError s e

namespace Session

variable {s : Session}

private theorem live_act (h : Live s.backend) (move : Move) : Live (s.act move).backend := by
  cases move with
  | log channel level text => exact (live_record h channel level text).same (sameFiles_print _ _ _)
  | setConsole console => exact h.same (sameFiles_setConsole _ console)
  | setDirectory given =>
    rw [act, backend_moved]
    exact live_setDirectory h given
  | setStem stem => exact live_setStem h stem
  | flush => exact live_flush h
  | work => exact live_work h
  | tick now => exact ⟨h.isOpen, h.pipeline⟩
  | threads refuses => exact ⟨h.isOpen, h.pipeline⟩

theorem live_run (h : Live s.backend) (moves : List Move) : Live (s.run moves).backend := by
  induction moves generalizing s with
  | nil => exact h
  | cons move rest ih => exact ih (live_act h move)

/-- What a move does after the shutdown: it leaves the log files alone, and has told what is due. -/
structure Idles (s s' : Simple) (console : Console) (notices : List Notice) : Prop where
  files : SameFiles s s'
  console : s'.console = console
  announces : Announces notices s.world s'.world

private theorem idles_log {b : Simple} (h : Ended filing b) (channel : String) (level : Level)
    (text : String) :
    Idles b (b.log channel level text) b.console
      (told filing b.console (.log channel level text)) := by
  have hannounces := announces_log b channel level text
  rw [h.isLate_eq] at hannounces
  refine ⟨?_, console_log b channel level text, hannounces⟩
  rw [log, h.record_eq]
  exact (sameFiles_if filing b _).trans (sameFiles_print _ channel text)

private theorem idles_flush {b : Simple} (h : Ended filing b) :
    Idles b b.flush b.console (told filing b.console .flush) := by
  rw [h.flush_eq]
  refine ⟨(sameFiles_if filing b _).trans (sameFiles_flushConsole _), ?_, ?_⟩
  · rw [flushConsole, console_trapResult]
    cases filing <;> rfl
  · have htold := (announces_if filing b (e := Pipeline.closedError) (by rintro ⟨⟩)).trans
      (announces_flushConsole _)
    rw [List.append_nil] at htold
    exact htold

private theorem idles_same (b : Simple) : Idles b b b.console [] :=
  ⟨.refl b, rfl, .refl b.world⟩

private theorem idles_act (h : Ended filing s.backend) (move : Move) :
    Idles s.backend (s.act move).backend (move.consoleFrom s.backend.console)
      (told filing s.backend.console move) := by
  cases move with
  | log channel level text => exact idles_log h channel level text
  | setConsole console =>
    exact ⟨sameFiles_setConsole _ console, console_trapResult _ _, announces_setConsole _ console⟩
  | setDirectory given =>
    rw [act, backend_moved, h.setDirectory_eq]
    exact idles_same s.backend
  | setStem stem =>
    rw [act, h.setStem_eq]
    exact idles_same s.backend
  | flush => exact idles_flush h
  | work =>
    rw [act, h.work_eq]
    exact idles_same s.backend
  | tick now =>
    have hquiet : Tells [] s.backend.world (s.act (.tick now)).backend.world :=
      .quiet rfl rfl rfl rfl rfl
    exact ⟨⟨rfl, rfl, rfl, rfl, rfl, rfl⟩, rfl, hquiet.announces (by simp)⟩
  | threads refuses =>
    have hquiet : Tells [] s.backend.world (s.act (.threads refuses)).backend.world :=
      .quiet rfl rfl rfl rfl rfl
    exact ⟨⟨rfl, rfl, rfl, rfl, rfl, rfl⟩, rfl, hquiet.announces (by simp)⟩

theorem idles_run (h : Ended filing s.backend) (later : List Move) :
    SameFiles s.backend (s.run later).backend ∧
      Announces (due filing s.backend.console later) s.backend.world
        (s.run later).backend.world := by
  induction later generalizing s with
  | nil => exact ⟨.refl _, .refl _⟩
  | cons move rest ih =>
    have hmove := idles_act h move
    obtain ⟨hfiles, hannounces⟩ := ih (h.same hmove.files)
    rw [hmove.console] at hannounces
    exact ⟨hmove.files.trans hfiles, hmove.announces.trans hannounces⟩

/-- Once a shutdown was called on a pipeline, every other call is refused and leaves no trace, and
once it has returned, nothing changes any more. A backend whose shutdown has returned leaves its log
files alone for good: every text that is logged is still printed, once, on the console that is set
then, and each event and each flush is reported once if there were log files at the shutdown, and
not at all if there were none. -/
theorem closed_for_good {w : World} {settings : Settings} {b : Simple}
    (h : Simple.start w settings = .ok b) :
    (∀ d writer moves, ((Pipeline.Session.start d writer).run moves).Shut) ∧
      ∀ moves later,
        let s := ((start b).run moves).backend
        let ended := s.shutdown
        let t := ((start ended).run later).backend
        ended.closed = true ∧ (∀ p ∈ ended.pipeline, p.phase = .finished ∧ p.IsClosed) ∧
          SameFiles ended t ∧ t.shutdown = t.flushConsole ∧
          Announces (due s.directory.isSome ended.console later) ended.world t.world := by
  refine ⟨fun d writer moves => ?_, fun moves later => ?_⟩
  · exact Pipeline.Session.shut_of_orderly
      (Pipeline.Session.orderly_run (Pipeline.Session.orderly_start d writer) moves)
  · intro s ended t
    have hended : Ended s.pipeline.isSome ended := ended_shutdown (live_run (live_start h) moves)
    have hpaired : s.pipeline.isSome = s.directory.isSome := paired_run (paired_start h) moves
    rw [hpaired] at hended
    obtain ⟨hfiles, hannounces⟩ := idles_run (s := start ended) hended later
    refine ⟨hended.closed, fun p hp => ?_, hfiles, (hended.same hfiles).shutdown_eq, hannounces⟩
    obtain ⟨hnext, hphase⟩ := hended.pipeline p hp
    exact ⟨hphase, Pipeline.isClosed_of_finished hnext hphase⟩

def plainBackend : Simple :=
  { level := .info, console := .stderr, directory := none, stem := ({} : World).defaultStem
    zone := {}, world := {} }

def movesBeforeClosing : List Move :=
  [.setDirectory (some ⟨Text.encode "logs".toList⟩), .log "svc" .info "a"]

def movesAfterClosing : List Move :=
  [.log "svc" .warn "b", .setDirectory none, .flush, .setConsole .stdout, .log "db" .info "c"]

/-- The backend after both, with its shutdown between them. -/
def closedBackend : Simple :=
  ((start ((start plainBackend).run movesBeforeClosing).backend.shutdown).run
    movesAfterClosing).backend

theorem closed_for_good_after_events :
    Simple.start {} {} = .ok plainBackend ∧
      closedBackend.world.trapped =
        [lateReport "svc", Pipeline.closedError, lateReport "db"] ∧
      closedBackend.world.shown .stderr = "a\nb\n" ∧ closedBackend.world.shown .stdout = "c\n" ∧
      closedBackend.directory.isSome = true := by
  have hstart : Simple.start {} {} = .ok plainBackend := rfl
  obtain ⟨-, hall⟩ := closed_for_good hstart
  obtain ⟨-, -, hfiles, -, notices, htells, -, hnotices⟩ :=
    hall movesBeforeClosing movesAfterClosing
  have hbefore : let s := ((start plainBackend).run movesBeforeClosing).backend
      (s.directory.isSome, s.shutdown.directory.isSome, s.shutdown.console, s.shutdown.world.trap,
        s.shutdown.world.isSound, s.shutdown.world.trapped, s.shutdown.world.shown .stderr,
        s.shutdown.world.shown .stdout) = (true, true, .stderr, .keep, true, [], "a\n", "") := by
    cbv
  simp only [Prod.mk.injEq] at hbefore
  obtain ⟨hon, hdirectory, hconsole, htrap, hsound, htrapped, herr, hout⟩ := hbefore
  rw [hnotices hsound, hon, hconsole] at htells
  refine ⟨hstart, ?_, ?_, ?_, ?_⟩
  · refine htells.trapped.trans ?_
    rw [htrapped, htrap]
    rfl
  · refine (htells.shown .stderr rfl).trans ?_
    rw [herr, htrap]
    rfl
  · refine (htells.shown .stdout rfl).trans ?_
    rw [hout, htrap]
    rfl
  · rw [closedBackend, hfiles.directory]
    exact hdirectory

end Session

end EventLog.Simple
