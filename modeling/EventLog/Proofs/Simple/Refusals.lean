import EventLog.Proofs.Simple.Closing
import EventLog.Proofs.Simple.Overlay

/-! Changes of a backend that are refused. They leave every setting and the whole pipeline as they
were, and of the disk they change at most that directories were made before the refusal. So later
events take the same course; only what the file system makes of it may differ. -/
namespace EventLog.Simple

/-- The lines of a ledger are in the files that a backend left, each event's once, in a file that
stands in its directory under a name that starts as was set. -/
def Stored (w : World) (zone : Zone) (ended : Simple) (ledger : List Addressed) : Prop :=
  ∃ filed : List (List Addressed), filed.length = ended.world.disk.files.length ∧
    filed.flatten = ledger ∧
    (∀ k, (ended.world.disk.body k).bytes = (w.disk.body k).bytes ++
      Text.encode ((filed.getD k []).flatMap (·.event.lines zone))) ∧
    ∀ k, ∀ a ∈ filed.getD k [], ∃ date suffix,
      ended.world.disk.find (a.target.filePath date suffix) = .ok (.file k)

/-- Why a directory is refused before the shutdown: it is no place for log files, or it is one, but
there was none before, and the worker of a new pipeline gets no thread. -/
inductive Refusal (s : Simple) (e : Error) : Prop
  | unfit (kind : e.kind = .invalidOutputDirectory)
  | noThread {fault : Fault} (off : s.pipeline = none)
      (threads : s.world.refusesThreads = some fault) (report : e = threadError fault)

/-- A refusal of a directory comes with its reason, and leaves at most directories that were made
before it. -/
theorem setDirectory_refused {s : Simple} (hlive : Live s) {given : Option Path}
    (he : (s.setDirectory given).2.isOk = false) :
    ∃ made after e, s.world.disk.Added made ∧ made.Unchanged after ∧
      s.setDirectory given = (s.onDisk after, .error e) ∧ Refusal s e := by
  have houtcome := s.directoryOutcome given
  generalize s.setDirectory given = result at houtcome he
  cases houtcome with
  | off | taken => cases he
  | late hclosed =>
    rw [hlive.isOpen] at hclosed
    cases hclosed
  | unfit hcheck =>
    obtain ⟨e, ⟨⟩, hkind, -, hadded⟩ | ⟨_, _, ⟨⟩, -⟩ := checkDirectory_cases hcheck
    exact ⟨_, _, _, hadded, .refl _, rfl, .unfit hkind⟩
  | refused hcheck hrefused =>
    obtain ⟨-, made, hadded, -, -, -, hunchanged⟩ := checkDirectory_eq_ok hcheck
    obtain ⟨p, hp, hnext⟩ | ⟨hoff, fault, hthreads, hreport⟩ := retarget_eq_error hrefused
    · exact absurd hnext (hlive.pipeline p hp).1
    · exact ⟨made, _, _, hadded, hunchanged, rfl, .noThread hoff hthreads hreport⟩

namespace Session

variable {s : Session}

/-- A refusal of a directory leaves the session on another disk, and begins no stretch. -/
theorem act_of_refused {given : Option Path} {after : Disk} {e : Error}
    (h : s.backend.setDirectory given = (s.backend.onDisk after, .error e)) :
    s.act (.setDirectory given) = { s with backend := s.backend.onDisk after } := by
  have hstays : ¬(s.backend.directory.isNone && (s.backend.onDisk after).directory.isSome) = true
      := by
    rw [onDisk]
    cases s.backend.directory <;> simp
  rw [act, h, Session.moved, if_neg hstays]

variable {w : World} {settings : Settings} {b : Simple}

private theorem stored_of_refused (h : Simple.start w settings = .ok b)
    (takes : w.disk.refusesBytes = none) {moves later : List Move} {given : Option Path}
    (hserved : (start b).served (moves ++ .setDirectory given :: later) = true) :
    let refused := ((start b).run moves).act (.setDirectory given)
    Stored w b.zone (refused.run later).backend.shutdown (refused.run later).ledger := by
  obtain ⟨-, hstored⟩ := delivered_shutdown h takes _ hserved
  have hrun : (start b).run (moves ++ .setDirectory given :: later) =
      (((start b).run moves).act (.setDirectory given)).run later := List.foldl_append
  rw [hrun] at hstored
  exact hstored

/-- A refusal of a directory, be it that it is no place for log files or that a new pipeline gets no
thread, leaves every setting and the whole pipeline as they were, and of the disk at most has
directories added. What comes later is printed and queued as it would have been, and its lines go to
files of the directory and start of names that were set. Where without the call everything would
have got the files and directories that it asks for, and no directory that the call left has the
name of a log file, the call makes no other difference. The start of names is refused only after the
shutdown; then both are, whatever is asked for, and nothing changes. The console can be set in every
state. -/
theorem same_course_after_refusal (h : Simple.start w settings = .ok b) :
    (∀ moves given,
      let s := (start b).run moves
      let refused := s.act (.setDirectory given)
      (s.backend.setDirectory given).2.isOk = false →
        ∃ made after e, s.backend.world.disk.Added made ∧ made.Unchanged after ∧
          (s.backend.setDirectory given).2 = .error e ∧ Refusal s.backend e ∧
          refused = { s with backend := s.backend.onDisk after } ∧
          ∀ later, refused.granted later = s.granted later →
            Parallel (s.run later) (refused.run later) ∧
            (w.disk.refusesBytes = none →
              (start b).served (moves ++ .setDirectory given :: later) = true →
              Stored w b.zone (refused.run later).backend.shutdown (s.run later).ledger) ∧
            (s.served later = true → (∀ taken ∈ s.granted later, taken = true) →
              s.backend.world.disk.LeavesLogNames after →
              Matched (s.run later) (refused.run later) ∧
                Simple.Matched (s.run later).backend.shutdown
                  (refused.run later).backend.shutdown)) ∧
      (∀ moves stem, (((start b).run moves).backend.setStem stem).2 = .ok ()) ∧
      (∀ moves later,
        let ended := ((start ((start b).run moves).backend.shutdown).run later).backend
        (∀ given, ended.setDirectory given = (ended, .error closedError)) ∧
          ∀ stem, ended.setStem stem = (ended, .error closedError)) ∧
      ∀ (s : Simple) console,
        (s.setConsole console).console = console ∧ SameFiles s (s.setConsole console) ∧
          Announces [] s.world (s.setConsole console).world ∧
          ∀ channel level text,
            Announces (told s.isLate console (.log channel level text))
              (s.setConsole console).world
              ((s.setConsole console).log channel level text).world := by
  have hlive (moves : List Move) : Live ((start b).run moves).backend :=
    live_run (s := start b) (live_start h) moves
  refine ⟨fun moves given => ?_, fun moves stem => (hlive moves).setStem_eq_ok stem,
    fun moves later => ?_, fun s console => ?_⟩
  · intro s refused he
    obtain ⟨made, after, e, hadded, hunchanged, hset, hreason⟩ :=
      setDirectory_refused (hlive moves) he
    have hrefused : refused = { s with backend := s.backend.onDisk after } := act_of_refused hset
    refine ⟨made, after, e, hadded, hunchanged, by rw [hset], hreason, hrefused,
      fun later hgranted => ?_⟩
    have hbegins : Parallel s refused := by
      rw [hrefused]
      exact ⟨rfl, rfl, rfl, alike_onDisk (hunchanged.here.trans hadded.keeps.here)⟩
    have hparallel := hbegins.run later hgranted
    refine ⟨hparallel, fun takes hserved => ?_, fun hserved htaken hnames => ?_⟩
    · rw [← hparallel.ledger]
      exact stored_of_refused h takes hserved
    · have hover : s.backend.world.disk.Overlaid made := by
        refine hadded.overlaid fun loc hnone hsome => hnames loc hnone ?_
        rw [hunchanged.entry]
        exact hsome
      have hmatched : Matched s refused :=
        ⟨s.backend.onDisk after, hrefused, after, rfl, hover.of_unchanged (.refl _) hunchanged⟩
      have hhoused : s.backend.Housed := housed_run (s := start b) (housed_start h) moves
      exact hmatched.run hhoused hserved htaken hgranted
  · have hended := ended_shutdown (hlive moves)
    obtain ⟨hfiles, -⟩ := idles_run (s := start _) hended later
    have hlater := hended.same hfiles
    exact ⟨hlater.setDirectory_eq, hlater.setStem_eq⟩
  · have hconsole : (s.setConsole console).console = console := console_trapResult _ _
    have same := sameFiles_setConsole s console
    refine ⟨hconsole, same, announces_setConsole s console, fun channel level text => ?_⟩
    have hlogged := announces_log (s.setConsole console) channel level text
    have hlate : (s.setConsole console).isLate = s.isLate := by rw [isLate, same.pipeline]; rfl
    rw [hlate, hconsole] at hlogged
    exact hlogged

/-- A path that cannot be made: its last name is longer than a name may be. -/
def unmakeable (dir : String) : Path := ⟨Text.encodeText dir ++ List.replicate 300 0x78⟩

def movesToDirectory : List Move := [.setDirectory (some (.ofText "logs"))]

def eventAfterRefusal : List Move := [.log "svc" .info "a"]

def addressedAfterRefusal : Addressed :=
  ⟨⟨⟨Text.encode "/logs".toList⟩, "-0"⟩, ⟨0, .info, {}, "svc", "a"⟩⟩

/-- The locations that a disk has more than another, and whether one has the name of a log file. -/
def leftBehind (d after : Disk) : List (Location × Bool) :=
  (after.entries.toList.filter fun (loc, _) => (d.entry? loc).isNone).map fun (loc, _) =>
    (loc, Disk.isLog loc)

set_option maxRecDepth 4000 in
private theorem left_directory :
    let s := (start plainBackend).run movesToDirectory
    let refused := s.act (.setDirectory (some (unmakeable "old/")))
    ((s.backend.setDirectory (some (unmakeable "old/"))).2.isOk,
      leftBehind s.backend.world.disk refused.backend.world.disk,
      s.served eventAfterRefusal,
      (start plainBackend).served
        (movesToDirectory ++ .setDirectory (some (unmakeable "old/")) :: eventAfterRefusal),
      (s.run eventAfterRefusal).ledger) =
      (false, [([Text.encode "old".toList], false)], true, true, [addressedAfterRefusal]) := by
  cbv

def movesWithoutThreads : List Move := [.threads (some (.device "no threads"))]

set_option maxRecDepth 4000 in
private theorem left_directory_without_threads :
    let s := (start plainBackend).run movesWithoutThreads
    let refused := s.act (.setDirectory (some (.ofText "old")))
    ((s.backend.setDirectory (some (.ofText "old"))).2.isOk,
      leftBehind s.backend.world.disk refused.backend.world.disk,
      s.served eventAfterRefusal) = (false, [([Text.encode "old".toList], false)], true) := by
  cbv

private theorem leavesLogNames_of_leftBehind {d after : Disk} {only : Location}
    (h : leftBehind d after = [(only, false)]) : d.LeavesLogNames after := by
  intro loc hnone hsome
  obtain ⟨e, he⟩ := Option.ne_none_iff_exists'.mp hsome
  have hne : loc ≠ [] := by
    rintro rfl
    cases hnone
  obtain ⟨⟨loc, _⟩, hmem, rfl⟩ := List.mem_map.mp (Disk.mem_of_entry? hne he)
  have hleft : (loc, Disk.isLog loc) ∈ leftBehind d after :=
    List.mem_map.mpr ⟨_, List.mem_filter.mpr ⟨hmem, by simp [hnone]⟩, rfl⟩
  rw [h, List.mem_singleton] at hleft
  exact congrArg Prod.snd hleft

/-- Both refusals leave a directory behind: that of a path that cannot be made, and that of a
directory for which there is no thread. The event after the first is in its file as ever, and
nothing else differs after either. -/
theorem same_course_after_left_directory :
    let s := (start plainBackend).run movesToDirectory
    let refused := s.act (.setDirectory (some (unmakeable "old/")))
    let t := (start plainBackend).run movesWithoutThreads
    let threadless := t.act (.setDirectory (some (.ofText "old")))
    Simple.start {} {} = .ok plainBackend ∧
      (s.backend.setDirectory (some (unmakeable "old/"))).2.isOk = false ∧
      leftBehind s.backend.world.disk refused.backend.world.disk =
        [([Text.encode "old".toList], false)] ∧
      Stored {} {} (refused.run eventAfterRefusal).backend.shutdown [addressedAfterRefusal] ∧
      Matched (s.run eventAfterRefusal) (refused.run eventAfterRefusal) ∧
      Simple.Matched (s.run eventAfterRefusal).backend.shutdown
        (refused.run eventAfterRefusal).backend.shutdown ∧
      (∃ e, (t.backend.setDirectory (some (.ofText "old"))).2 = .error e ∧ Refusal t.backend e) ∧
      leftBehind t.backend.world.disk threadless.backend.world.disk =
        [([Text.encode "old".toList], false)] ∧
      Matched (t.run eventAfterRefusal) (threadless.run eventAfterRefusal) := by
  have hstart : Simple.start {} {} = .ok plainBackend := rfl
  obtain ⟨hrefusals, -⟩ := same_course_after_refusal hstart
  have hseen := left_directory
  simp only [Prod.mk.injEq] at hseen
  obtain ⟨hrefused, hleft, hserved, hserved', hledger⟩ := hseen
  obtain ⟨_, after, _, -, -, -, -, hact, hlater⟩ := hrefusals movesToDirectory _ hrefused
  obtain ⟨-, hstored, hmatched⟩ := hlater eventAfterRefusal rfl
  have hseen' := left_directory_without_threads
  simp only [Prod.mk.injEq] at hseen'
  obtain ⟨hthreadless, hleft', hprinted⟩ := hseen'
  obtain ⟨_, after', e, -, -, hanswer, hreason, hact', hlater'⟩ :=
    hrefusals movesWithoutThreads _ hthreadless
  obtain ⟨-, -, hmatched'⟩ := hlater' eventAfterRefusal rfl
  have hnames := leavesLogNames_of_leftBehind (hact ▸ hleft)
  have hnames' := leavesLogNames_of_leftBehind (hact' ▸ hleft')
  obtain ⟨hsame, hended⟩ := hmatched hserved (by rintro _ ⟨⟩) hnames
  obtain ⟨hsame', -⟩ := hmatched' hprinted (by rintro _ ⟨⟩) hnames'
  refine ⟨hstart, hrefused, hleft, ?_, hsame, hended, ⟨e, hanswer, hreason⟩, hleft', hsame'⟩
  rw [← hledger]
  exact hstored rfl hserved'

def filesLeft (s : Session) : List (Path × Nat) := s.backend.shutdown.world.disk.filesBelow []

/-- A backend whose files are to stand in a directory that is not there. -/
def movesToMissing : List Move := [.setDirectory (some (.ofText "logs")), .setStem "sub/app"]

set_option maxRecDepth 4000 in
private theorem made_missing_directory :
    let s := (start plainBackend).run movesToMissing
    ((s.backend.setDirectory (some (unmakeable "logs/sub/"))).2.isOk,
      (s.run eventAfterRefusal).filesLeft.length,
      ((s.act (.setDirectory (some (unmakeable "logs/sub/")))).run
        eventAfterRefusal).filesLeft.length) = (false, 0, 1) := by
  cbv

/-- A directory that a refusal left behind can be the one that a later event lacked. -/
theorem files_differ_after_refusal :
    ¬ ∀ moves given later,
      let s := (start plainBackend).run moves
      (s.backend.setDirectory given).2.isOk = false →
        ((s.act (.setDirectory given)).run later).filesLeft = (s.run later).filesLeft := by
  intro hsame
  have hseen := made_missing_directory
  simp only [Prod.mk.injEq] at hseen
  obtain ⟨hrefused, hwithout, hwith⟩ := hseen
  have hfiles := hsame movesToMissing _ eventAfterRefusal hrefused
  rw [hfiles, hwithout] at hwith
  cases hwith

end Session

end EventLog.Simple
