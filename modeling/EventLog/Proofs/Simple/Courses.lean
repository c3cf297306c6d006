import EventLog.Proofs.Pipeline.Twins
import EventLog.Proofs.Simple.Reconfiguration

/-! Backends that treat later events alike. What a disk refuses shows neither in the settings nor in
what is queued, so two sessions in which the same is asked for take the same course on different
disks, as long as directories that are asked for are taken or refused in both. -/
namespace EventLog.Simple
open Pipeline (Twins twins_iff)

/-- Two backends that treat later events alike: they differ at most in the disk, in the file that is
open, and in what was shown and trapped. -/
structure Alike (s s' : Simple) : Prop where
  level : s'.level = s.level
  console : s'.console = s.console
  directory : s'.directory = s.directory
  stem : s'.stem = s.stem
  zone : s'.zone = s.zone
  closed : s'.closed = s.closed
  now : s'.world.now = s.world.now
  here : s'.world.disk.here = s.world.disk.here
  pipeline : s'.pipeline.map Pipeline.outline = s.pipeline.map Pipeline.outline

variable {s s' : Simple}

theorem Alike.refl (s : Simple) : Alike s s := ⟨rfl, rfl, rfl, rfl, rfl, rfl, rfl, rfl, rfl⟩

theorem Alike.symm (h : Alike s s') : Alike s' s :=
  ⟨h.level.symm, h.console.symm, h.directory.symm, h.stem.symm, h.zone.symm, h.closed.symm,
    h.now.symm, h.here.symm, h.pipeline.symm⟩

theorem Alike.trans {s'' : Simple} (h : Alike s s') (h' : Alike s' s'') : Alike s s'' :=
  ⟨h'.level.trans h.level, h'.console.trans h.console, h'.directory.trans h.directory,
    h'.stem.trans h.stem, h'.zone.trans h.zone, h'.closed.trans h.closed, h'.now.trans h.now,
    h'.here.trans h.here, h'.pipeline.trans h.pipeline⟩

/-- What happens to both beside their course leaves them alike. -/
theorem Alike.beside {t t' : Simple} (h : Alike s s') (ht : Alike s t) (ht' : Alike s' t') :
    Alike t t' := ht.symm.trans (h.trans ht')

theorem alike_onDisk {disk : Disk} (h : disk.here = s.world.disk.here) : Alike s (s.onDisk disk) :=
  ⟨rfl, rfl, rfl, rfl, rfl, rfl, rfl, h, rfl⟩

private theorem Alike.withWorld (h : Alike s s') {w w' : World} (hnow : w'.now = w.now)
    (hhere : w'.disk.here = w.disk.here) :
    Alike { s with world := w } { s' with world := w' } :=
  ⟨h.level, h.console, h.directory, h.stem, h.zone, h.closed, hnow, hhere, h.pipeline⟩

/-- Both have a pipeline or neither has, and what there is are twins. -/
theorem Alike.pipelines (h : Alike s s') :
    (s.pipeline = none ∧ s'.pipeline = none) ∨
      ∃ p p', s.pipeline = some p ∧ s'.pipeline = some p' ∧ Twins p p' := by
  have hpipeline := h.pipeline
  cases hp : s.pipeline <;> cases hp' : s'.pipeline <;> rw [hp, hp'] at hpipeline
  · exact .inl ⟨rfl, rfl⟩
  · cases hpipeline
  · cases hpipeline
  · exact .inr ⟨_, _, rfl, rfl, twins_iff.mpr (Option.some.inj hpipeline)⟩

private theorem alike_trapError (s : Simple) (e : Error) : Alike s (s.trapError e) := by
  have same := sameFiles_trapError s e
  refine ⟨rfl, rfl, rfl, rfl, rfl, rfl, ?_, congrArg Disk.here same.disk, rfl⟩
  simp only [trapError, World.trapError]
  split <;> rfl

private theorem alike_trapResult (s : Simple) (result : Except Error Unit) :
    Alike s (s.trapResult result) := by
  cases result with
  | ok => exact .refl s
  | error e => exact alike_trapError s e

private theorem alike_print (s : Simple) (channel text : String) :
    Alike s (s.print channel text) := by
  refine Alike.trans ?_
    (alike_trapResult { s with world := (s.world.writeLine s.console text).1 } _)
  have hworld : (s.world.writeLine s.console text).1.now = s.world.now ∧
      (s.world.writeLine s.console text).1.disk = s.world.disk := by
    cases s.console with
    | stdout | stderr => exact ⟨rfl, rfl⟩
    | buffer id =>
      rw [World.writeLine]
      split <;> exact ⟨rfl, rfl⟩
  exact ⟨rfl, rfl, rfl, rfl, rfl, rfl, hworld.1, congrArg Disk.here hworld.2, rfl⟩

private theorem Alike.setConsole (h : Alike s s') (console : Console) :
    Alike (s.setConsole console) (s'.setConsole console) := by
  have hset : Alike { s with console } { s' with console } :=
    ⟨h.level, rfl, h.directory, h.stem, h.zone, h.closed, h.now, h.here, h.pipeline⟩
  exact hset.beside (alike_trapResult _ _) (alike_trapResult _ _)

private theorem Alike.queued (h : Alike s s') {p p' : Pipeline} (htwins : Twins p p') :
    Alike { s with pipeline := some p } { s' with pipeline := some p' } :=
  ⟨h.level, h.console, h.directory, h.stem, h.zone, h.closed, h.now, h.here,
    congrArg some (twins_iff.mp htwins)⟩

private theorem Alike.record (h : Alike s s') (channel : String) (level : Level) (text : String) :
    Alike (s.record channel level text) (s'.record channel level text) := by
  rw [Simple.record, Simple.record]
  rcases h.pipelines with ⟨hp, hp'⟩ | ⟨p, p', hp, hp', current, rfl⟩
  · rw [hp, hp']
    exact h
  · rw [hp, hp', h.now]
    cases hn : p.next with
    | none =>
      simp only [Pipeline.enqueue, hn]
      exact h.beside (alike_trapError _ _) (alike_trapError _ _)
    | some n =>
      simp only [Pipeline.enqueue, hn]
      exact h.queued ⟨current, rfl⟩

private theorem Alike.log (h : Alike s s') (channel : String) (level : Level) (text : String) :
    Alike (s.log channel level text) (s'.log channel level text) :=
  (h.record channel level text).beside (alike_print _ _ _) (alike_print _ _ _)

private theorem alike_trapAll (s : Simple) (errors : List Error) :
    Alike s { s with world := s.world.trapAll errors } := by
  induction errors generalizing s with
  | nil => exact .refl s
  | cons e rest ih => exact (alike_trapError s e).trans (ih (s.trapError e))

private theorem alike_absorb {r : Worked} (hkeeps : s.world.disk.Keeps r.disk) :
    Alike { s with pipeline := some r.pipeline } (s.absorb r) :=
  let queued : Simple := { s with pipeline := some r.pipeline }
  (alike_onDisk (s := queued) hkeeps.here).trans (alike_trapAll (queued.onDisk r.disk) r.trapped)

private theorem Alike.absorb (h : Alike s s') {r r' : Worked}
    (htwins : Twins r.pipeline r'.pipeline)
    (hkeeps : s.world.disk.Keeps r.disk) (hkeeps' : s'.world.disk.Keeps r'.disk) :
    Alike (s.absorb r) (s'.absorb r') :=
  (h.queued htwins).beside (alike_absorb hkeeps) (alike_absorb hkeeps')

private theorem Alike.work (h : Alike s s') : Alike s.work s'.work := by
  rw [Simple.work, Simple.work]
  rcases h.pipelines with ⟨hp, hp'⟩ | ⟨p, p', hp, hp', htwins⟩
  · rw [hp, hp']
    exact h
  · have hstep := htwins.step? s.world.disk s'.world.disk
    simp only [hp, hp']
    cases hr : p.step? s.world.disk <;> cases hr' : p'.step? s'.world.disk <;>
      rw [hr, hr'] at hstep <;> cases hstep
    · exact h
    · next hdone => exact h.absorb hdone (Pipeline.keeps_step? hr) (Pipeline.keeps_step? hr')

private theorem Alike.flush (h : Alike s s') : Alike s.flush s'.flush := by
  rw [Simple.flush, Simple.flush]
  refine Alike.beside ?_ (alike_trapResult _ _) (alike_trapResult _ _)
  rcases h.pipelines with ⟨hp, hp'⟩ | ⟨p, p', hp, hp', htwins⟩
  · rw [hp, hp']
    exact h
  · obtain ⟨hdone, -⟩ := htwins.flush s.world.disk s'.world.disk
    rw [hp, hp']
    exact (h.absorb hdone (Pipeline.keeps_flush _ p) (Pipeline.keeps_flush _ p')).beside
      (alike_trapResult _ _) (alike_trapResult _ _)

/-- The same change of the log files leaves both alike, if it is made of both. -/
theorem Alike.retarget (h : Alike s s') {directory : Option Path} {stem : String}
    {changed changed' : Simple} (hc : s.retarget directory stem = .ok changed)
    (hc' : s'.retarget directory stem = .ok changed') : Alike changed changed' := by
  rcases h.pipelines with ⟨hp, hp'⟩ | ⟨p, p', hp, hp', htwins⟩
  · cases retargeted hc with
    | redirected hsome | ended hsome => cases hp.symm.trans hsome
    | started =>
      cases retargeted hc' with
      | redirected hsome => cases hp'.symm.trans hsome
      | started =>
        exact ⟨h.level, h.console, rfl, rfl, h.zone, h.closed, h.now, h.here, by rw [h.zone]⟩
    | off =>
      cases retargeted hc' with
      | ended hsome => cases hp'.symm.trans hsome
      | off =>
        exact ⟨h.level, h.console, rfl, rfl, h.zone, h.closed, h.now, h.here, h.pipeline⟩
  · cases retargeted hc with
    | started hnone | off hnone => cases hp.symm.trans hnone
    | redirected hsame =>
      cases hp.symm.trans hsame
      cases retargeted hc' with
      | started hnone => cases hp'.symm.trans hnone
      | redirected hsame' =>
        cases hp'.symm.trans hsame'
        obtain ⟨current, rfl⟩ := htwins
        exact ⟨h.level, h.console, rfl, rfl, h.zone, h.closed, h.now, h.here, rfl⟩
    | ended hsame =>
      cases hp.symm.trans hsame
      cases retargeted hc' with
      | off hnone => cases hp'.symm.trans hnone
      | ended hsame' =>
        cases hp'.symm.trans hsame'
        have hdone := h.absorb (htwins.shutdown s.world.disk s'.world.disk)
          (Pipeline.keeps_shutdown _ p) (Pipeline.keeps_shutdown _ p')
        exact ⟨hdone.level, hdone.console, rfl, rfl, hdone.zone, hdone.closed, hdone.now,
          hdone.here, rfl⟩

private theorem alike_of_checked {path : Path} {disk : Disk} {result : Except Error Path}
    (h : checkDirectory s.world.disk path = (disk, result)) : Alike s (s.onDisk disk) :=
  alike_onDisk (keeps_checkDirectory h).1.here

/-- A directory that is refused leaves a backend alike, wherever the refusal came from. -/
theorem alike_of_refused {given : Option Path} (h : (s.setDirectory given).2.isOk = false) :
    Alike s (s.setDirectory given).1 := by
  have houtcome := s.directoryOutcome given
  generalize s.setDirectory given = result at houtcome h
  cases houtcome with
  | late => exact .refl s
  | unfit hcheck | refused hcheck => exact alike_of_checked hcheck
  | off | taken => cases h

/-- The same directory leaves both alike, if it is taken or refused by both. -/
theorem Alike.setDirectory (h : Alike s s') (given : Option Path)
    (hanswers : (s'.setDirectory given).2.isOk = (s.setDirectory given).2.isOk) :
    Alike (s.setDirectory given).1 (s'.setDirectory given).1 := by
  cases hok : (s.setDirectory given).2.isOk with
  | false => exact h.beside (alike_of_refused hok) (alike_of_refused (hanswers.trans hok))
  | true =>
    have hok' := hanswers.trans hok
    have houtcome := s.directoryOutcome given
    have houtcome' := s'.directoryOutcome given
    generalize s.setDirectory given = result at houtcome hok
    generalize s'.setDirectory given = result' at houtcome' hok'
    cases houtcome with
    | late | unfit | refused => cases hok
    | off hc =>
      cases houtcome' with
      | late => cases hok'
      | off hc' => exact h.retarget hc (h.stem ▸ hc')
    | taken hcheck hc =>
      cases houtcome' with
      | late | unfit | refused => cases hok'
      | taken hcheck' hc' =>
        obtain rfl := checkDirectory_unique h.here hcheck hcheck'
        rw [h.stem] at hc'
        exact (h.beside (alike_of_checked hcheck) (alike_of_checked hcheck')).retarget hc hc'

private theorem Alike.setStem (h : Alike s s') (stem : String) :
    Alike (s.setStem stem).1 (s'.setStem stem).1 := by
  have hnamed : Alike { s with stem } { s' with stem } :=
    ⟨h.level, h.console, h.directory, rfl, h.zone, h.closed, h.now, h.here, h.pipeline⟩
  cases hclosed : s.closed with
  | true =>
    rw [show s.setStem stem = _ from if_pos hclosed,
      show s'.setStem stem = _ from if_pos (h.closed.trans hclosed)]
    exact h
  | false =>
    have hclosed' := h.closed.trans hclosed
    rcases h.pipelines with ⟨hp, hp'⟩ | ⟨p, p', hp, hp', current, rfl⟩
    · rw [setStem_of_off hclosed (.inl hp), setStem_of_off hclosed' (.inl hp')]
      exact hnamed
    · cases hdir : s.directory with
      | none =>
        rw [setStem_of_off hclosed (.inr hdir),
          setStem_of_off hclosed' (.inr (h.directory.trans hdir))]
        exact hnamed
      | some dir =>
        rw [setStem_of_on hclosed hp hdir, setStem_of_on hclosed' hp' (h.directory.trans hdir)]
        cases hn : p.next with
        | none =>
          simp only [Pipeline.redirect, hn]
          exact h
        | some n =>
          simp only [Pipeline.redirect, hn]
          exact hnamed.queued ⟨current, rfl⟩

namespace Session

variable {s s' : Session}

/-- Whether the directories that some moves ask for are taken. -/
def granted : Session → List Move → List Bool
  | _, [] => []
  | s, .setDirectory given :: rest =>
    (s.backend.setDirectory given).2.isOk :: (s.act (.setDirectory given)).granted rest
  | s, move :: rest => (s.act move).granted rest

/-- Two sessions in which the same was asked for, of backends that treat later events alike. -/
structure Parallel (s s' : Session) : Prop where
  printed : s'.printed = s.printed
  earlier : s'.earlier = s.earlier
  latest : s'.latest = s.latest
  alike : Alike s.backend s'.backend

theorem Parallel.ledger (h : Parallel s s') : s'.ledger = s.ledger := by
  rw [Session.ledger, stretches, h.earlier, h.latest]
  rfl

private theorem Parallel.moved (h : Parallel s s') {changed changed' : Simple}
    (halike : Alike changed changed') : Parallel (s.moved changed) (s'.moved changed') := by
  rw [Session.moved, Session.moved, h.alike.directory, halike.directory]
  split
  · exact ⟨h.printed, by rw [h.earlier, h.latest], rfl, halike⟩
  · exact ⟨h.printed, h.earlier, h.latest, halike⟩

/-- A move keeps both sessions parallel, if a directory that it asks for is taken or refused in
both. -/
theorem Parallel.act (h : Parallel s s') (move : Move)
    (hanswers : ∀ given, move = .setDirectory given →
      (s'.backend.setDirectory given).2.isOk = (s.backend.setDirectory given).2.isOk) :
    Parallel (s.act move) (s'.act move) := by
  cases move with
  | log channel level text =>
    refine ⟨?_, h.earlier, ?_, h.alike.log channel level text⟩
    · rw [Session.act, Session.act, h.printed, h.alike.console]
    · rw [Session.act, Session.act, h.latest, asked, asked, h.alike.directory, h.alike.stem,
        h.alike.now]
  | setConsole console => exact ⟨h.printed, h.earlier, h.latest, h.alike.setConsole console⟩
  | setDirectory given => exact h.moved (h.alike.setDirectory given (hanswers given rfl))
  | setStem stem => exact ⟨h.printed, h.earlier, h.latest, h.alike.setStem stem⟩
  | flush => exact ⟨h.printed, h.earlier, h.latest, h.alike.flush⟩
  | work => exact ⟨h.printed, h.earlier, h.latest, h.alike.work⟩
  | tick now => exact ⟨h.printed, h.earlier, h.latest, h.alike.withWorld rfl h.alike.here⟩
  | threads refuses =>
    exact ⟨h.printed, h.earlier, h.latest, h.alike.withWorld h.alike.now h.alike.here⟩

theorem Parallel.run (h : Parallel s s') (later : List Move)
    (hgranted : s'.granted later = s.granted later) :
    Parallel (s.run later) (s'.run later) := by
  induction later generalizing s s' with
  | nil => exact h
  | cons move rest ih =>
    have hsplit : (∀ given, move = .setDirectory given →
          (s'.backend.setDirectory given).2.isOk = (s.backend.setDirectory given).2.isOk) ∧
        (s'.act move).granted rest = (s.act move).granted rest := by
      cases move with
      | setDirectory given =>
        obtain ⟨hfirst, hrest⟩ := List.cons.inj hgranted
        refine ⟨?_, hrest⟩
        rintro _ ⟨⟩
        exact hfirst
      | _ => exact ⟨by rintro _ ⟨⟩, hgranted⟩
    exact ih (h.act move hsplit.1) hsplit.2

end Session

end EventLog.Simple
