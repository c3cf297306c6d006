import EventLog.Proofs.Simple.Checks
import EventLog.Proofs.Simple.Consoles
import EventLog.Proofs.Simple.Runs

/-! Where the events of a simple backend end up. The settings, the pipeline and the target of its
writer stay in step through every change of them, so each event gets to a file of the directory and
the start of names that were set when it came in, however late the worker comes to it. -/
namespace EventLog.Simple
open Rolling (Ready Delivered)
open Pipeline (Carries)

def unopened (zone : Zone) : Rolling := { target := ⟨⟨[]⟩, ""⟩, zone }

/-- From `w` on, where the events of a ledger are while there is no directory, and while there is
one. The next event of a pipeline has the given number. -/
inductive Filed (w : World) (s : Simple) (ledger : List Addressed) (number : Nat) : Prop
  | off {writer : Rolling} {filed : List (List Addressed)} (pipeline : s.pipeline = none)
      (directory : s.directory = none)
      (delivered : Delivered w.disk (unopened s.zone) s.world.disk writer filed)
      (unused : writer.current = none) (all : filed.flatten = ledger)
  | on {p : Pipeline} {dir : Path} (pipeline : s.pipeline = some p)
      (directory : s.directory = some dir)
      (carries : Carries w.disk (unopened s.zone) s.world.disk p ⟨dir, s.stem⟩ ledger)
      (next : p.next = some (UInt64.ofNat number)) (holders : p.holders = 0)

/-- What a change keeps that is no business of the consoles. -/
structure Quiet (s s' : Simple) : Prop where
  zone : s'.zone = s.zone
  closed : s'.closed = s.closed
  spoken : Says (fun _ => []) s.world s'.world

theorem Quiet.refl (s : Simple) : Quiet s s := ⟨rfl, rfl, .refl _⟩

theorem Quiet.trans {s s' s'' : Simple} (h : Quiet s s') (h' : Quiet s' s'') : Quiet s s'' :=
  ⟨h'.zone.trans h.zone, h'.closed.trans h.closed, h.spoken.trans_quiet h'.spoken⟩

theorem SameFiles.quiet {s s' : Simple} (h : SameFiles s s')
    (spoken : Says (fun _ => []) s.world s'.world) : Quiet s s' := ⟨h.zone, h.closed, spoken⟩

variable {w : World} {s : Simple} {ledger : List Addressed} {number : Nat}

theorem Filed.same {s' : Simple} (h : Filed w s ledger number) (same : SameFiles s s') :
    Filed w s' ledger number := by
  cases h with
  | off pipeline directory delivered unused all =>
    refine .off (same.pipeline.trans pipeline) (same.directory.trans directory) ?_ unused all
    rw [same.zone, same.disk]
    exact delivered
  | on pipeline directory carries next holders =>
    refine .on (same.pipeline.trans pipeline) (same.directory.trans directory) ?_ next holders
    rw [same.zone, same.disk, same.stem]
    exact carries

private theorem absorb_eq {r : Worked} (h : r.trapped = []) (s : Simple) :
    s.absorb r =
      { s with pipeline := some r.pipeline, world := { s.world with disk := r.disk } } := by
  rw [absorb, h]
  rfl

private theorem quiet_absorb {r : Worked} (h : r.trapped = []) (s : Simple) :
    Quiet s (s.absorb r) := by
  rw [absorb_eq h]
  exact ⟨rfl, rfl, .quiet rfl rfl rfl rfl⟩

private theorem Filed.absorb {p : Pipeline} {dir : Path} {r : Worked}
    (directory : s.directory = some dir)
    (carries : Carries w.disk (unopened s.zone) r.disk r.pipeline ⟨dir, s.stem⟩ ledger)
    (next : p.next = some (UInt64.ofNat number)) (holders : p.holders = 0)
    (trapped : r.trapped = []) (sameNext : r.pipeline.next = p.next)
    (sameHolders : r.pipeline.holders = p.holders) :
    Filed w (s.absorb r) ledger number := by
  rw [absorb_eq trapped]
  exact .on rfl directory carries (sameNext.trans next) (sameHolders.trans holders)

theorem filed_record (h : Filed w s ledger number) (channel : String) (level : Level)
    (text : String) :
    Filed w (s.record channel level text) (ledger ++ s.asked number channel level text)
        (number + (s.asked number channel level text).length) ∧
      Quiet s (s.record channel level text) ∧
      (s.record channel level text).console = s.console := by
  cases h with
  | off pipeline directory delivered unused all =>
    rw [record, pipeline, asked, directory]
    refine ⟨.off pipeline directory delivered unused ?_, .refl s, rfl⟩
    exact all.trans (List.append_nil _).symm
  | @on p dir pipeline directory carries next holders =>
    obtain ⟨queued, hqueued, hcarries, hnext, hholders⟩ :=
      carries.enqueue next s.world.now level channel text
    have hrecord : s.record channel level text = { s with pipeline := some queued } := by
      simp only [record, pipeline, hqueued]
    have hasked : s.asked number channel level text =
        [⟨⟨dir, s.stem⟩, ⟨UInt64.ofNat number, level, s.world.now, channel, text⟩⟩] := by
      simp only [asked, directory]
    rw [hrecord, hasked]
    refine ⟨.on rfl directory hcarries ?_ (hholders.trans holders), ⟨rfl, rfl, .refl _⟩, rfl⟩
    rw [hnext, List.length_singleton, UInt64.ofNat_add]
    rfl

theorem filed_work (h : Filed w s ledger number)
    (hgets : s.pipeline.all (·.getsFile s.world.disk) = true) :
    Filed w s.work ledger number ∧ Quiet s s.work := by
  cases h with
  | off pipeline directory delivered unused all =>
    rw [work, pipeline]
    exact ⟨.off pipeline directory delivered unused all, .refl s⟩
  | @on p dir pipeline directory carries next holders =>
    rw [pipeline] at hgets
    rw [work, pipeline]
    cases hr : p.step? s.world.disk with
    | none =>
      simp only [hr]
      exact ⟨.on pipeline directory carries next holders, .refl s⟩
    | some r =>
      simp only [hr]
      obtain ⟨hcarries, htrapped, hnext, hholders⟩ := carries.step hgets hr
      exact ⟨.absorb directory hcarries next holders htrapped hnext hholders,
        quiet_absorb htrapped s⟩

theorem filed_flush (h : Filed w s ledger number)
    (hgets : s.pipeline.all (·.flushesWell s.world.disk) = true) :
    Filed w s.flush ledger number ∧ Quiet s s.flush := by
  cases h with
  | off pipeline directory delivered unused all =>
    rw [flush, pipeline]
    have hsame := sameFiles_flushConsole s
    exact ⟨Filed.same (.off pipeline directory delivered unused all) hsame,
      hsame.quiet (says_flushConsole s)⟩
  | @on p dir pipeline directory carries next holders =>
    rw [pipeline] at hgets
    obtain ⟨hresult, hcarries, htrapped, hnext, hholders⟩ := carries.flush next hgets
    have hflush : s.flush = (s.absorb (p.flush s.world.disk).1).flushConsole := by
      rw [flush, pipeline]
      simp only [hresult]
      rfl
    have hfiled : Filed w (s.absorb (p.flush s.world.disk).1) ledger number :=
      .absorb directory hcarries next holders htrapped hnext hholders
    have hsame := sameFiles_flushConsole (s.absorb (p.flush s.world.disk).1)
    rw [hflush]
    exact ⟨hfiled.same hsame, (quiet_absorb htrapped s).trans (hsame.quiet (says_flushConsole _))⟩

/-- A change of the directory or of the start of file names. Where a directory comes after none, the
numbers start again. -/
theorem filed_retarget (h : Filed w s ledger number) {directory : Option Path} {stem : String}
    {changed : Simple} (hc : s.retarget directory stem = .ok changed)
    (hgets : directory = none → s.pipeline.all (·.stop.settlesWell s.world.disk) = true) :
    Filed w changed ledger (if s.directory.isNone && directory.isSome then 0 else number) ∧
      Quiet s changed ∧ changed.directory = directory := by
  cases h with
  | off pipeline without delivered unused all =>
    rw [without]
    cases retargeted hc with
    | redirected within | ended within =>
      rw [pipeline] at within
      cases within
    | off => exact ⟨.off pipeline rfl delivered unused all, ⟨rfl, rfl, .refl _⟩, rfl⟩
    | @started dir =>
      -- The new pipeline takes over the files as they are, but its counter is a new one.
      have hcarries := Carries.start delivered unused ⟨dir, stem⟩
      rw [delivered.shared.zone, all] at hcarries
      exact ⟨.on rfl rfl hcarries rfl rfl, ⟨rfl, rfl, .refl _⟩, rfl⟩
  | @on p old pipeline within carries next holders =>
    rw [within]
    cases retargeted hc with
    | started without | off without =>
      rw [pipeline] at without
      cases without
    | ended same =>
      cases pipeline.symm.trans same
      have hwell := hgets rfl
      rw [pipeline] at hwell
      obtain ⟨⟨filed, hdelivered, hall⟩, hunused, htrapped⟩ := carries.shutdown holders hwell
      rw [absorb_eq htrapped]
      exact ⟨.off rfl rfl hdelivered hunused hall, ⟨rfl, rfl, .quiet rfl rfl rfl rfl⟩, rfl⟩
    | @redirected _ dir same =>
      cases pipeline.symm.trans same
      obtain ⟨queued, hqueued, hcarries, hnext, hholders⟩ := carries.redirect next ⟨dir, stem⟩
      obtain ⟨-, rfl⟩ := Pipeline.redirect_eq_ok hqueued
      exact ⟨.on rfl rfl hcarries (hnext.trans next) (hholders.trans holders),
        ⟨rfl, rfl, .refl _⟩, rfl⟩

private theorem Filed.grown {after : Disk} (h : Filed w s ledger number)
    (keeps : s.world.disk.Keeps after) (files : after.files = s.world.disk.files) :
    Filed w (s.onDisk after) ledger number := by
  cases h with
  | off pipeline directory delivered unused all =>
    exact .off pipeline directory (delivered.grown keeps files) unused all
  | on pipeline directory carries next holders =>
    exact .on pipeline directory (carries.grown keeps files) next holders

theorem filed_setDirectory (h : Filed w s ledger number) (given : Option Path)
    (hgets : given = none → s.pipeline.all (·.stop.settlesWell s.world.disk) = true) :
    Filed w (s.setDirectory given).1 ledger
        (if s.directory.isNone && (s.setDirectory given).1.directory.isSome then 0 else number) ∧
      Quiet s (s.setDirectory given).1 := by
  have hstays (t : Simple) (ht : t.directory = s.directory) :
      (if s.directory.isNone && t.directory.isSome then 0 else number) = number := by
    rw [ht]
    cases s.directory <;> rfl
  have hchecked {path : Path} {disk : Disk} {result : Except Error Path}
      (hcheck : checkDirectory s.world.disk path = (disk, result)) :
      Filed w (s.onDisk disk) ledger number ∧ Quiet s (s.onDisk disk) := by
    obtain ⟨hkeeps, hfiles⟩ := keeps_checkDirectory hcheck
    exact ⟨h.grown hkeeps hfiles, rfl, rfl, .quiet rfl rfl rfl rfl⟩
  have houtcome := s.directoryOutcome given
  generalize s.setDirectory given = result at houtcome
  cases houtcome with
  | late =>
    rw [hstays s rfl]
    exact ⟨h, .refl s⟩
  | off hchanged =>
    obtain ⟨hfiled, hquiet, hdirectory⟩ := filed_retarget h hchanged hgets
    rw [hdirectory]
    exact ⟨hfiled, hquiet⟩
  | @unfit _ disk _ hcheck | @refused _ _ disk _ hcheck =>
    rw [hstays (s.onDisk disk) rfl]
    exact hchecked hcheck
  | taken hcheck hchanged =>
    obtain ⟨hgrown, hquiet⟩ := hchecked hcheck
    obtain ⟨hfiled, hquiet', hdirectory⟩ :=
      filed_retarget hgrown hchanged fun hnone => by cases hnone
    rw [hdirectory]
    exact ⟨hfiled, hquiet.trans hquiet'⟩

theorem filed_setStem (h : Filed w s ledger number) (stem : String) :
    Filed w (s.setStem stem).1 ledger number ∧ Quiet s (s.setStem stem).1 := by
  obtain ⟨e, hset⟩ | ⟨hoff, hset⟩ | ⟨p, dir, hp, hdir, hset⟩ := s.setStem_cases stem <;> rw [hset]
  · exact ⟨h, .refl s⟩
  · refine ⟨?_, rfl, rfl, .refl _⟩
    cases h with
    | off pipeline directory delivered unused all =>
      exact .off pipeline directory delivered unused all
    | on pipeline directory =>
      rw [pipeline, directory] at hoff
      obtain hoff | hoff := hoff <;> cases hoff
  · refine ⟨?_, rfl, rfl, .refl _⟩
    cases h with
    | off pipeline =>
      rw [pipeline] at hp
      cases hp
    | on pipeline directory carries next holders =>
      cases pipeline.symm.trans hp
      cases directory.symm.trans hdir
      obtain ⟨queued, hqueued, hcarries, hnext, hholders⟩ := carries.redirect next ⟨dir, stem⟩
      obtain ⟨-, rfl⟩ := Pipeline.redirect_eq_ok hqueued
      exact .on rfl hdir hcarries (hnext.trans next) (hholders.trans holders)

/-- At the shutdown every event gets to its file, and no file stays open. -/
theorem filed_shutdown (h : Filed w s ledger number)
    (hgets : s.pipeline.all (·.stop.settlesWell s.world.disk) = true) :
    ∃ writer filed, Delivered w.disk (unopened s.zone) s.shutdown.world.disk writer filed ∧
      writer.current = none ∧ filed.flatten = ledger ∧
      Says (fun _ => []) s.world s.shutdown.world := by
  cases h with
  | @off writer filed pipeline directory delivered unused all =>
    have hshut : s.shutdown = { s with closed := true }.flushConsole := by
      simp only [shutdown, pipeline]
    have hdisk := (sameFiles_flushConsole { s with closed := true }).disk
    rw [hshut]
    refine ⟨writer, filed, ?_, unused, all, says_flushConsole { s with closed := true }⟩
    rw [hdisk]
    exact delivered
  | @on p dir pipeline directory carries next holders =>
    rw [pipeline] at hgets
    obtain ⟨⟨filed, hdelivered, hall⟩, hunused, htrapped⟩ := carries.shutdown holders hgets
    have hshut : s.shutdown =
        ({ s with closed := true }.absorb (p.shutdown s.world.disk)).flushConsole := by
      simp only [shutdown, pipeline]
    have hdisk :=
      (sameFiles_flushConsole ({ s with closed := true }.absorb (p.shutdown s.world.disk))).disk
    have hquiet := quiet_absorb htrapped { s with closed := true }
    rw [hshut]
    refine ⟨_, filed, ?_, hunused, hall, hquiet.spoken.trans_quiet (says_flushConsole _)⟩
    rw [hdisk, absorb_eq htrapped]
    exact hdelivered

end EventLog.Simple
