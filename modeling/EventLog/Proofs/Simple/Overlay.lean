import EventLog.Proofs.Pipeline.Overlay
import EventLog.Proofs.Simple.Courses

/-! A backend on a disk and on the same disk with some directories more. As long as its events get
the files that they need and the directories that are asked for are taken, both times the same is
written to the same files. -/
namespace EventLog

private theorem World.trapError_withDisk (w : World) (disk : Disk) (e : Error) :
    { w with disk }.trapError e = { w.trapError e with disk } := by
  unfold World.trapError
  cases w.trap <;> rfl

private theorem World.trapAll_withDisk (w : World) (disk : Disk) (errors : List Error) :
    { w with disk }.trapAll errors = { w.trapAll errors with disk } := by
  induction errors generalizing w with
  | nil => rfl
  | cons e rest ih =>
    rw [World.trapAll, List.foldl_cons, World.trapError_withDisk]
    exact ih (w.trapError e)

private theorem World.writeLine_withDisk (w : World) (disk : Disk) (console : Console)
    (line : String) : { w with disk }.writeLine console line =
      ({ (w.writeLine console line).1 with disk }, (w.writeLine console line).2) := by
  cases console with
  | stdout | stderr => rfl
  | buffer id =>
    unfold World.writeLine
    simp only
    cases w.buffers[id]? <;> rfl

namespace Simple
open Disk (Overlaid)

/-- Two backends that differ in nothing but some directories that the second has more. -/
def Matched (s s' : Simple) : Prop :=
  ∃ after, s' = s.onDisk after ∧ s.world.disk.Overlaid after

/-- The directories that log files go to, or will go to, are there. -/
structure Housed (s : Simple) : Prop where
  directory : ∀ dir ∈ s.directory, s.world.disk.find dir = .ok .directory
  pipeline : ∀ p ∈ s.pipeline, p.Housed s.world.disk

variable {s s' : Simple}

@[simp] theorem onDisk_pipeline (s : Simple) (disk : Disk) :
    (s.onDisk disk).pipeline = s.pipeline := rfl

@[simp] theorem onDisk_disk (s : Simple) (disk : Disk) : (s.onDisk disk).world.disk = disk := rfl

private theorem trapError_onDisk (s : Simple) (disk : Disk) (e : Error) :
    (s.onDisk disk).trapError e = (s.trapError e).onDisk disk := by
  unfold trapError onDisk
  simp only [World.trapError_withDisk]

private theorem trapResult_onDisk (s : Simple) (disk : Disk) (result : Except Error Unit) :
    (s.onDisk disk).trapResult result = (s.trapResult result).onDisk disk := by
  cases result with
  | ok => rfl
  | error e => exact trapError_onDisk s disk e

private theorem print_onDisk (s : Simple) (disk : Disk) (channel text : String) :
    (s.onDisk disk).print channel text = (s.print channel text).onDisk disk := by
  unfold print
  rw [← trapResult_onDisk]
  simp only [onDisk, World.writeLine_withDisk]

private theorem record_onDisk (s : Simple) (disk : Disk) (channel : String) (level : Level)
    (text : String) :
    (s.onDisk disk).record channel level text = (s.record channel level text).onDisk disk := by
  rw [record, record, onDisk_pipeline, show (s.onDisk disk).world.now = s.world.now from rfl]
  cases s.pipeline with
  | none => rfl
  | some p =>
    simp only
    cases p.enqueue s.world.now level channel text with
    | ok queued => rfl
    | error e => exact trapError_onDisk s disk (e.withContext "channel" channel)

private theorem disk_record (s : Simple) (channel : String) (level : Level) (text : String) :
    (s.record channel level text).world.disk = s.world.disk := by
  unfold record
  split
  · rfl
  · split
    · rfl
    · exact (sameFiles_trapError s _).disk

private theorem absorb_onDisk (s : Simple) (disk after : Disk) (r : Worked) :
    (s.onDisk disk).absorb { r with disk := after } = (s.absorb r).onDisk after := by
  unfold absorb onDisk
  simp only
  rw [← World.trapAll_withDisk]

private theorem disk_absorb (s : Simple) (r : Worked) : (s.absorb r).world.disk = r.disk := by
  unfold absorb
  rw [World.trapAll_withDisk]

private theorem SameFiles.matched {t : Simple} {after : Disk} (same : SameFiles s t)
    (hover : s.world.disk.Overlaid after) : Matched t (t.onDisk after) :=
  ⟨after, rfl, same.disk ▸ hover⟩

private theorem Matched.absorb (h : Matched s s') {r r' : Worked} (hr : Pipeline.Matched r r') :
    Matched (s.absorb r) (s'.absorb r') := by
  obtain ⟨after, rfl, -⟩ := h
  obtain ⟨hsame, hover⟩ := hr
  refine ⟨r'.disk, ?_, ?_⟩
  · rw [hsame]
    exact absorb_onDisk s after r'.disk r
  · rw [disk_absorb]
    exact hover

private theorem Matched.trapResult (h : Matched s s') (result : Except Error Unit) :
    Matched (s.trapResult result) (s'.trapResult result) := by
  obtain ⟨after, rfl, hover⟩ := h
  rw [trapResult_onDisk]
  exact (sameFiles_trapResult s result).matched hover

private theorem Matched.flushConsole (h : Matched s s') :
    Matched s.flushConsole s'.flushConsole := by
  obtain ⟨after, rfl, hover⟩ := h
  exact Matched.trapResult ⟨after, rfl, hover⟩ _

private theorem Matched.setConsole (h : Matched s s') (console : Console) :
    Matched (s.setConsole console) (s'.setConsole console) := by
  obtain ⟨after, rfl, hover⟩ := h
  exact Matched.trapResult (s := { s with console }) ⟨after, rfl, hover⟩ _

private theorem Matched.log (h : Matched s s') (channel : String) (level : Level) (text : String) :
    Matched (s.log channel level text) (s'.log channel level text) := by
  obtain ⟨after, rfl, hover⟩ := h
  rw [Simple.log, Simple.log, record_onDisk, print_onDisk]
  refine (sameFiles_print _ channel text).matched ?_
  rw [disk_record]
  exact hover

private theorem Matched.work (h : Matched s s') (hhoused : s.Housed)
    (hgets : s.pipeline.all (·.getsFile s.world.disk) = true) : Matched s.work s'.work := by
  obtain ⟨after, rfl, hover⟩ := h
  have hmatched : Matched s (s.onDisk after) := ⟨after, rfl, hover⟩
  rw [Simple.work, Simple.work, onDisk_pipeline, onDisk_disk]
  cases hp : s.pipeline with
  | none => exact hmatched
  | some p =>
    rw [hp] at hgets
    have hstep := Pipeline.step?_matched hover (hhoused.pipeline p hp) hgets
    simp only
    cases hr : p.step? s.world.disk <;> cases hr' : p.step? after <;> rw [hr, hr'] at hstep <;>
      cases hstep
    · exact hmatched
    · next hdone => exact hmatched.absorb hdone

private theorem Matched.flush (h : Matched s s') (hhoused : s.Housed)
    (hgets : s.pipeline.all (·.flushesWell s.world.disk) = true) :
    Matched s.flush s'.flush := by
  obtain ⟨after, rfl, hover⟩ := h
  have hmatched : Matched s (s.onDisk after) := ⟨after, rfl, hover⟩
  rw [Simple.flush, Simple.flush, onDisk_pipeline, onDisk_disk]
  refine Matched.flushConsole ?_
  cases hp : s.pipeline with
  | none => exact hmatched
  | some p =>
    rw [hp] at hgets
    have hanswer : (p.flush after).2 = (p.flush s.world.disk).2 :=
      (Pipeline.Twins.flush ⟨p.writer.current, rfl⟩ _ _).2
    simp only [hanswer]
    exact (hmatched.absorb
      (Pipeline.flush_matched hover (hhoused.pipeline p hp) hgets)).trapResult _

private theorem Matched.absorb_shutdown (h : Matched s s') {p : Pipeline}
    (hhoused : p.Housed s.world.disk) (hgets : p.stop.settlesWell s.world.disk = true) :
    Matched (s.absorb (p.shutdown s.world.disk)) (s'.absorb (p.shutdown s'.world.disk)) := by
  obtain ⟨after, rfl, hover⟩ := h
  exact Matched.absorb ⟨after, rfl, hover⟩ (Pipeline.shutdown_matched hover hhoused hgets)

private theorem Matched.shutdown (h : Matched s s') (hhoused : s.Housed)
    (hgets : s.pipeline.all (·.stop.settlesWell s.world.disk) = true) :
    Matched s.shutdown s'.shutdown := by
  obtain ⟨after, rfl, hover⟩ := h
  have hclosed : Matched { s with closed := true } { s.onDisk after with closed := true } :=
    ⟨after, rfl, hover⟩
  rcases Option.eq_none_or_eq_some s.pipeline with hp | ⟨p, hp⟩
  · have hshut (t : Simple) (ht : t.pipeline = none) :
        t.shutdown = { t with closed := true }.flushConsole := by
      simp only [Simple.shutdown, ht]
    rw [hshut s hp, hshut (s.onDisk after) hp]
    exact hclosed.flushConsole
  · have hshut (t : Simple) (ht : t.pipeline = some p) :
        t.shutdown =
          ({ t with closed := true }.absorb (p.shutdown t.world.disk)).flushConsole := by
      simp only [Simple.shutdown, ht]
    rw [hp] at hgets
    rw [hshut s hp, hshut (s.onDisk after) hp]
    exact (hclosed.absorb_shutdown (hhoused.pipeline p hp) hgets).flushConsole

/-- The same change of the log files is made of both. -/
theorem Matched.retarget (h : Matched s s') (hhoused : s.Housed) {directory : Option Path}
    {stem : String} {changed : Simple}
    (hgets : directory = none → s.pipeline.all (·.stop.settlesWell s.world.disk) = true)
    (hc : s.retarget directory stem = .ok changed) :
    ∃ changed', s'.retarget directory stem = .ok changed' ∧ Matched changed changed' := by
  obtain ⟨after, rfl, hover⟩ := h
  cases hp : s.pipeline with
  | none =>
    cases directory with
    | none =>
      simp only [Simple.retarget, onDisk_pipeline, hp] at hc ⊢
      cases hc
      exact ⟨_, rfl, after, rfl, hover⟩
    | some dir =>
      have hstarted : startPipeline (s.onDisk after).world dir stem (s.onDisk after).zone =
          startPipeline s.world dir stem s.zone := rfl
      simp only [Simple.retarget, onDisk_pipeline, hp, hstarted] at hc ⊢
      split at hc <;> cases hc
      exact ⟨_, rfl, after, rfl, hover⟩
  | some p =>
    cases directory with
    | none =>
      simp only [Simple.retarget, onDisk_pipeline, onDisk_disk, hp] at hc ⊢
      cases hc
      have hgets' := hgets rfl
      rw [hp] at hgets'
      obtain ⟨after', hsame, hover'⟩ := Matched.absorb_shutdown (s := s) ⟨after, rfl, hover⟩
        (hhoused.pipeline p hp) hgets'
      refine ⟨_, rfl, after', ?_, hover'⟩
      rw [onDisk_disk] at hsame
      rw [hsame]
      rfl
    | some dir =>
      simp only [Simple.retarget, onDisk_pipeline, hp] at hc ⊢
      split at hc <;> cases hc
      exact ⟨_, rfl, after, rfl, hover⟩

theorem Housed.same (h : Housed s) (same : SameFiles s s') : Housed s' := by
  refine ⟨fun dir hdir => ?_, fun p hp => ?_⟩
  · rw [same.disk]
    exact h.directory dir (same.directory ▸ hdir)
  · rw [same.disk]
    exact h.pipeline p (same.pipeline ▸ hp)

private theorem Housed.absorb (h : Housed s) {r : Worked} (hkeeps : s.world.disk.Keeps r.disk)
    (hr : r.pipeline.Housed r.disk) : Housed (s.absorb r) := by
  refine ⟨fun dir hdir => ?_, ?_⟩
  · rw [disk_absorb]
    exact Disk.find_of_keeps hkeeps (h.directory dir hdir)
  · rintro p ⟨⟩
    rw [disk_absorb]
    exact hr

private theorem Housed.record (h : Housed s) (channel : String) (level : Level) (text : String) :
    Housed (s.record channel level text) := by
  unfold Simple.record
  split
  · exact h
  · next p hp =>
    split
    · next n queued henqueue =>
      refine ⟨h.directory, ?_⟩
      rintro _ ⟨⟩
      unfold Pipeline.enqueue at henqueue
      split at henqueue
      · cases henqueue
      · cases henqueue
        exact (h.pipeline p hp).push (by rintro t ⟨⟩) _
    · exact h.same (sameFiles_trapError s _)

private theorem Housed.work (h : Housed s) : Housed s.work := by
  unfold Simple.work
  split
  · exact h
  · next p hp =>
    split
    · exact h
    · next r hr => exact h.absorb (Pipeline.keeps_step? hr) ((h.pipeline p hp).step? hr)

private theorem Housed.flush (h : Housed s) : Housed s.flush := by
  unfold Simple.flush
  refine Housed.same ?_ (sameFiles_flushConsole _)
  split
  · exact h
  · next p hp =>
    exact (h.absorb (Pipeline.keeps_flush _ p) (h.pipeline p hp).flush).same
      (sameFiles_trapResult _ _)

private theorem Housed.retarget (h : Housed s) {directory : Option Path} {stem : String}
    (hthere : ∀ dir ∈ directory, s.world.disk.find dir = .ok .directory) {changed : Simple}
    (hc : s.retarget directory stem = .ok changed) : Housed changed := by
  cases retargeted hc with
  | redirected hp =>
    refine ⟨hthere, ?_⟩
    rintro _ ⟨⟩
    refine (h.pipeline _ hp).push ?_ _
    rintro t ⟨⟩
    exact hthere _ rfl
  | started =>
    refine ⟨hthere, ?_⟩
    rintro _ ⟨⟩
    exact Pipeline.housed_start (hthere _ rfl)
  | ended => exact ⟨by rintro dir ⟨⟩, by rintro p ⟨⟩⟩
  | off => exact ⟨by rintro dir ⟨⟩, h.pipeline⟩

/-- A directory that passes the check on both disks makes no difference between them. -/
theorem checkDirectory_overlaid {d d' after after' : Disk} {given dir dir' : Path}
    (h : d.Overlaid d') (hcheck : checkDirectory d given = (after, .ok dir))
    (hcheck' : checkDirectory d' given = (after', .ok dir')) :
    dir' = dir ∧ after.Overlaid after' := by
  obtain rfl := checkDirectory_unique h.keeps.here hcheck hcheck'
  obtain ⟨habsolute, made, -, hmade, -, -, hunchanged⟩ := checkDirectory_eq_ok hcheck
  obtain ⟨-, made', -, hmade', -, -, hunchanged'⟩ := checkDirectory_eq_ok hcheck'
  obtain ⟨_, hboth, hover⟩ :=
    Disk.makeDirectories_overlaid h (Path.isAbsolute_of_absolute habsolute) hmade
  cases hboth.symm.trans hmade'
  exact ⟨rfl, hover.of_unchanged hunchanged hunchanged'⟩

theorem housed_start {w : World} {settings : Settings} (h : start w settings = .ok s) :
    Housed s := by
  obtain rfl | ⟨_, _, _, hcheck, rfl⟩ := start_eq_ok h
  · exact ⟨by rintro dir ⟨⟩, by rintro p ⟨⟩⟩
  · have hthere := find_of_checkDirectory hcheck
    refine ⟨?_, ?_⟩
    · rintro _ ⟨⟩
      exact hthere
    · rintro _ ⟨⟩
      exact Pipeline.housed_start hthere

private theorem Housed.checked (h : Housed s) {path : Path} {disk : Disk}
    {result : Except Error Path} (hcheck : checkDirectory s.world.disk path = (disk, result)) :
    Housed (s.onDisk disk) := by
  obtain ⟨hkeeps, -⟩ := keeps_checkDirectory hcheck
  refine ⟨fun dir hdir => Disk.find_of_keeps hkeeps (h.directory dir hdir), fun p hp => ?_⟩
  exact (h.pipeline p hp).of_subset (List.Subset.refl _) hkeeps

private theorem Housed.setDirectory (h : Housed s) (given : Option Path) :
    Housed (s.setDirectory given).1 := by
  have houtcome := s.directoryOutcome given
  generalize s.setDirectory given = result at houtcome
  cases houtcome with
  | late => exact h
  | off hc => exact h.retarget (by rintro dir ⟨⟩) hc
  | unfit hcheck | refused hcheck => exact h.checked hcheck
  | taken hcheck hc =>
    refine (h.checked hcheck).retarget ?_ hc
    rintro _ ⟨⟩
    exact find_of_checkDirectory hcheck

private theorem Housed.setStem (h : Housed s) (stem : String) : Housed (s.setStem stem).1 := by
  obtain ⟨e, hset⟩ | ⟨-, hset⟩ | ⟨p, dir, hp, hdir, hset⟩ := s.setStem_cases stem <;> rw [hset]
  · exact h
  · exact ⟨h.directory, h.pipeline⟩
  · refine ⟨h.directory, ?_⟩
    rintro _ ⟨⟩
    refine (h.pipeline p hp).push ?_ _
    rintro t ⟨⟩
    exact h.directory dir hdir

/-- A directory that is taken by both leaves no more than directories between them. -/
theorem Matched.setDirectory (h : Matched s s') (hhoused : s.Housed) {given : Option Path}
    (hgets : given = none → s.pipeline.all (·.stop.settlesWell s.world.disk) = true)
    (hok : (s.setDirectory given).2.isOk = true) (hok' : (s'.setDirectory given).2.isOk = true) :
    Matched (s.setDirectory given).1 (s'.setDirectory given).1 := by
  have houtcome := s.directoryOutcome given
  have houtcome' := s'.directoryOutcome given
  generalize s.setDirectory given = result at houtcome hok
  generalize s'.setDirectory given = result' at houtcome' hok'
  cases houtcome with
  | late | unfit | refused => cases hok
  | off hc =>
    cases houtcome' with
    | late => cases hok'
    | off hc' =>
      obtain ⟨_, hmade, hmatched⟩ := h.retarget hhoused hgets hc
      obtain ⟨after, rfl, -⟩ := h
      cases hmade.symm.trans hc'
      exact hmatched
  | @taken _ _ disk _ hcheck hc =>
    cases houtcome' with
    | late | unfit | refused => cases hok'
    | @taken _ _ disk' _ hcheck' hc' =>
      obtain ⟨after, rfl, hover⟩ := h
      obtain ⟨rfl, hover'⟩ := checkDirectory_overlaid hover hcheck hcheck'
      have hchecked : Matched (s.onDisk disk) (s.onDisk disk') := ⟨disk', rfl, hover'⟩
      obtain ⟨_, hmade, hmatched⟩ :=
        hchecked.retarget (hhoused.checked hcheck) (by rintro ⟨⟩) hc
      cases hmade.symm.trans hc'
      exact hmatched

private theorem setStem_onDisk (s : Simple) (disk : Disk) (stem : String) :
    ((s.onDisk disk).setStem stem).1 = (s.setStem stem).1.onDisk disk := by
  unfold Simple.setStem
  rw [onDisk_pipeline, show (s.onDisk disk).closed = s.closed from rfl,
    show (s.onDisk disk).directory = s.directory from rfl]
  split
  · rfl
  · split
    · split <;> rfl
    · rfl

private theorem Matched.setStem (h : Matched s s') (stem : String) :
    Matched (s.setStem stem).1 (s'.setStem stem).1 := by
  obtain ⟨after, rfl, hover⟩ := h
  have hdisk : (s.setStem stem).1.world.disk = s.world.disk := by
    obtain ⟨e, hset⟩ | ⟨-, hset⟩ | ⟨p, dir, -, -, hset⟩ := s.setStem_cases stem <;> rw [hset]
  refine ⟨after, setStem_onDisk s after stem, ?_⟩
  rw [hdisk]
  exact hover

namespace Session

variable {s s' : Session}

/-- Two sessions that differ in nothing but some directories that the disk of the second has
more. -/
def Matched (s s' : Session) : Prop :=
  ∃ changed, s' = { s with backend := changed } ∧ Simple.Matched s.backend changed

private theorem housed_act (h : s.backend.Housed) (move : Move) :
    (s.act move).backend.Housed := by
  cases move with
  | log channel level text => exact (h.record channel level text).same (sameFiles_print _ _ _)
  | setConsole console => exact h.same (sameFiles_setConsole _ console)
  | setDirectory given =>
    rw [act, backend_moved]
    exact h.setDirectory given
  | setStem stem => exact h.setStem stem
  | flush => exact h.flush
  | work => exact h.work
  | tick now => exact ⟨h.directory, h.pipeline⟩
  | threads refuses => exact ⟨h.directory, h.pipeline⟩

/-- Whatever comes, the directories that log files go to are there. -/
theorem housed_run (h : s.backend.Housed) (moves : List Move) :
    (s.run moves).backend.Housed := by
  induction moves generalizing s with
  | nil => exact h
  | cons move rest ih => exact ih (housed_act h move)

private theorem Matched.moved (h : Matched s s') {changed changed' : Simple}
    (hmatched : Simple.Matched changed changed') :
    Matched (s.moved changed) (s'.moved changed') := by
  obtain ⟨_, rfl, ⟨after, rfl, -⟩⟩ := h
  obtain ⟨after', rfl, hover⟩ := hmatched
  refine ⟨changed.onDisk after', ?_, ?_⟩
  · by_cases hbegins : (s.backend.directory.isNone && changed.directory.isSome) = true
    · simp only [Session.moved, onDisk, hbegins, if_true]
    · simp only [Session.moved, onDisk, hbegins, if_false, Bool.false_eq_true]
  · rw [backend_moved]
    exact ⟨after', rfl, hover⟩

/-- A move that gets the files that it needs makes the same of both, if a directory that it asks for
is taken in both. -/
theorem Matched.act (h : Matched s s') (hhoused : s.backend.Housed) {move : Move}
    (hserved : s.isServed move = true)
    (htaken : ∀ given, move = .setDirectory given →
      (s.backend.setDirectory given).2.isOk = true ∧
        (s'.backend.setDirectory given).2.isOk = true) :
    Matched (s.act move) (s'.act move) := by
  cases move with
  | setDirectory given =>
    obtain ⟨hok, hok'⟩ := htaken given rfl
    have hbackend : Simple.Matched s.backend s'.backend := by
      obtain ⟨changed, rfl, hmatched⟩ := h
      exact hmatched
    refine h.moved (hbackend.setDirectory hhoused ?_ hok hok')
    rintro rfl
    exact hserved
  | log channel level text =>
    obtain ⟨_, rfl, ⟨after, rfl, hover⟩⟩ := h
    exact ⟨_, rfl, Simple.Matched.log ⟨after, rfl, hover⟩ channel level text⟩
  | setConsole console =>
    obtain ⟨changed, rfl, hmatched⟩ := h
    exact ⟨_, rfl, hmatched.setConsole console⟩
  | setStem stem =>
    obtain ⟨changed, rfl, hmatched⟩ := h
    exact ⟨_, rfl, hmatched.setStem stem⟩
  | flush =>
    obtain ⟨changed, rfl, hmatched⟩ := h
    exact ⟨_, rfl, hmatched.flush hhoused hserved⟩
  | work =>
    obtain ⟨changed, rfl, hmatched⟩ := h
    exact ⟨_, rfl, hmatched.work hhoused hserved⟩
  | tick now | threads refuses =>
    obtain ⟨_, rfl, ⟨after, rfl, hover⟩⟩ := h
    exact ⟨_, rfl, after, rfl, hover⟩

/-- Where everything that comes later gets the files and directories that it asks for, all of it
makes the same of both sessions, up to the shutdown and through it. -/
theorem Matched.run (h : Matched s s') (hhoused : s.backend.Housed) {later : List Move}
    (hserved : s.served later = true) (htaken : ∀ taken ∈ s.granted later, taken = true)
    (hgranted : s'.granted later = s.granted later) :
    Matched (s.run later) (s'.run later) ∧
      Simple.Matched (s.run later).backend.shutdown (s'.run later).backend.shutdown := by
  induction later generalizing s s' with
  | nil =>
    obtain ⟨changed, rfl, hmatched⟩ := h
    exact ⟨⟨changed, rfl, hmatched⟩, hmatched.shutdown hhoused hserved⟩
  | cons move rest ih =>
    obtain ⟨hmove, hrest⟩ := Bool.and_eq_true_iff.mp hserved
    have hsplit : (∀ given, move = .setDirectory given →
          (s.backend.setDirectory given).2.isOk = true ∧
            (s'.backend.setDirectory given).2.isOk = true) ∧
        (∀ taken ∈ (s.act move).granted rest, taken = true) ∧
        (s'.act move).granted rest = (s.act move).granted rest := by
      cases move with
      | setDirectory given =>
        obtain ⟨hfirst, hmore⟩ := List.cons.inj hgranted
        have hok := htaken _ List.mem_cons_self
        refine ⟨?_, fun taken hmem => htaken taken (List.mem_cons_of_mem _ hmem), hmore⟩
        rintro _ ⟨⟩
        exact ⟨hok, hfirst.trans hok⟩
      | _ => exact ⟨by rintro _ ⟨⟩, htaken, hgranted⟩
    obtain ⟨hanswers, htaken', hgranted'⟩ := hsplit
    exact ih (h.act hhoused hmove hanswers) (housed_act hhoused move) hrest htaken' hgranted'

end Session

end Simple

end EventLog
