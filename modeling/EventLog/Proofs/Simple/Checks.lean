import EventLog.Proofs.Disk.AbsolutePaths
import EventLog.Proofs.Disk.Questions
import EventLog.Simple.Directory
import Mathlib

/-! The check of a directory for log files. It makes directories and nothing else, whatever comes of
it, and a directory that it answers passes it once more. -/
namespace EventLog.Simple

variable {d after : Disk} {given dir : Path}

/-- What comes of a check: a refusal, before which at most directories were made, or a directory
that is there and takes a new file. -/
theorem checkDirectory_cases {result : Except Error Path}
    (h : checkDirectory d given = (after, result)) :
    (∃ e, result = .error e ∧ e.kind = .invalidOutputDirectory ∧
        e.context = [("dir", given.text)] ∧ d.Added after) ∨
      ∃ dir made, result = .ok dir ∧ given.absolute d.workingDirectory = .ok dir ∧ d.Added made ∧
        d.makeDirectories dir = (made, .ok ()) ∧ made.find dir = .ok .directory ∧
        made.probe dir = (after, .ok ()) := by
  unfold checkDirectory at h
  split at h
  · cases h
    exact .inl ⟨_, rfl, rfl, rfl, .refl d⟩
  · next dir habsolute =>
    have hadded := Disk.added_makeDirectories d dir
    split at h
    · next hmade =>
      rw [hmade] at hadded
      cases h
      exact .inl ⟨_, rfl, rfl, rfl, hadded⟩
    · next made hmade =>
      rw [hmade] at hadded
      split at h
      · cases h
        exact .inl ⟨_, rfl, rfl, rfl, hadded⟩
      · next hfind =>
        split at h
        · next hprobe =>
          cases h
          rw [Disk.probe_eq_error hprobe]
          exact .inl ⟨_, rfl, rfl, rfl, hadded⟩
        · next hprobe =>
          cases h
          exact .inr ⟨dir, made, rfl, habsolute, hadded, hmade, hfind, hprobe⟩
      · cases h
        exact .inl ⟨_, rfl, rfl, rfl, hadded⟩

/-- Whatever comes of a check, at most directories were made. -/
theorem unchanged_checkDirectory (d : Disk) (given : Path) :
    ∃ made, d.Added made ∧ made.Unchanged (checkDirectory d given).1 := by
  obtain ⟨e, -, -, -, hadded⟩ | ⟨dir, made, -, -, hadded, -, -, hprobe⟩ :=
    checkDirectory_cases (d := d) rfl
  · exact ⟨_, hadded, .refl _⟩
  · have hunchanged := made.unchanged_probe dir
    rw [hprobe] at hunchanged
    exact ⟨made, hadded, hunchanged⟩

/-- The check of a directory keeps every entry, and the files are the same. -/
theorem keeps_checkDirectory {result : Except Error Path}
    (h : checkDirectory d given = (after, result)) : d.Keeps after ∧ after.files = d.files := by
  obtain ⟨made, hadded, hunchanged⟩ := unchanged_checkDirectory d given
  rw [h] at hunchanged
  exact ⟨hadded.keeps.trans hunchanged.keeps, hunchanged.files.trans hadded.files⟩

/-- A check that succeeds made what was missing and tried the directory. -/
theorem checkDirectory_eq_ok (h : checkDirectory d given = (after, .ok dir)) :
    given.absolute d.workingDirectory = .ok dir ∧ ∃ made, d.Added made ∧
      d.makeDirectories dir = (made, .ok ()) ∧ made.find dir = .ok .directory ∧
      made.probe dir = (after, .ok ()) ∧ made.Unchanged after := by
  obtain ⟨e, ⟨⟩, -⟩ | ⟨dir, made, ⟨⟩, habsolute, hadded, hmade, hfind, hprobe⟩ :=
    checkDirectory_cases h
  have hunchanged := made.unchanged_probe dir
  rw [hprobe] at hunchanged
  exact ⟨habsolute, made, hadded, hmade, hfind, hprobe, hunchanged⟩

/-- A directory that is there needs nothing made. -/
theorem checkDirectory_of_find (habsolute : given.absolute d.workingDirectory = .ok dir)
    (hfind : d.find dir = .ok .directory) (hprobe : d.probe dir = (after, .ok ())) :
    checkDirectory d given = (after, .ok dir) := by
  simp only [checkDirectory, habsolute, Disk.makeDirectories_of_find hfind, hfind, hprobe]

/-- The directory that a check finds does not depend on what else is on the disk. -/
theorem absolute_of_checkDirectory (h : checkDirectory d given = (after, .ok dir)) :
    given.absolute (.ok d.here) = .ok dir := by
  refine Path.absolute_of_absolute_ok (fun other hother => ?_) (checkDirectory_eq_ok h).1
  unfold Disk.workingDirectory at hother
  split at hother <;> cases hother
  rfl

theorem checkDirectory_unique {d' after' : Disk} {dir' : Path} (hhere : d'.here = d.here)
    (h : checkDirectory d given = (after, .ok dir))
    (h' : checkDirectory d' given = (after', .ok dir')) : dir' = dir := by
  have hdir := absolute_of_checkDirectory h'
  rw [hhere, absolute_of_checkDirectory h] at hdir
  exact (Except.ok.inj hdir).symm

/-- A directory that passed the check is there. -/
theorem find_of_checkDirectory (h : checkDirectory d given = (after, .ok dir)) :
    after.find dir = .ok .directory := by
  obtain ⟨-, made, -, -, hfind, -, hunchanged⟩ := checkDirectory_eq_ok h
  exact Disk.find_of_keeps hunchanged.keeps hfind

/-- A directory that passed the check passes it again, and that changes nothing. -/
theorem checkDirectory_again (hhere : ∀ name ∈ d.here, Path.IsName name ∧ name ≠ Path.self)
    (h : checkDirectory d given = (after, .ok dir)) :
    ∃ again, checkDirectory after dir = (again, .ok dir) ∧ after.Unchanged again := by
  obtain ⟨-, made, -, -, -, hprobe, hunchanged⟩ := checkDirectory_eq_ok h
  obtain ⟨again, hagain⟩ := hunchanged.probe_succeeds hprobe
  have hself := Path.absolute_of_absolute hhere (absolute_of_checkDirectory h)
  have hunchanged' := after.unchanged_probe dir
  rw [hagain] at hunchanged'
  exact ⟨again, checkDirectory_of_find (hself _) (find_of_checkDirectory h) hagain, hunchanged'⟩

/-- A relative path has no absolute form while the working directory is gone. -/
theorem absolute_of_homeless (hrelative : ¬given.isAbsolute = true)
    (hgone : d.entry? d.here ≠ some .directory) :
    ∃ fault, given.absolute d.workingDirectory = .error fault := by
  unfold Path.absolute
  split
  · exact ⟨_, rfl⟩
  · rw [Path.absoluteStart, if_neg hrelative, Disk.workingDirectory, if_neg hgone]
    exact ⟨_, rfl⟩

/-- Without an absolute form nothing is made. -/
theorem checkDirectory_of_absolute {fault : Fault}
    (h : given.absolute d.workingDirectory = .error fault) : (checkDirectory d given).1 = d := by
  simp only [checkDirectory, h]

/-- Paths that are no directory's: an empty one, one with a NUL, a relative one while the working
directory is gone, and one where something that is no directory stands, at the path itself or on the
way to it. -/
inductive Unfit (d : Disk) (given : Path) : Prop
  | empty (h : given.bytes = [])
  | nul (h : 0 ∈ given.bytes)
  | homeless (relative : ¬given.isAbsolute = true) (gone : d.entry? d.here ≠ some .directory)
  | blocked {dir : Path} {front : List Name} {e : Entry}
      (absolute : given.absolute d.workingDirectory = .ok dir)
      (way : front <+: dir.names) (stands : d.find (.through [Path.slash] front) = .ok e)
      (other : e ≠ .directory)

private theorem nul_mem_absolute {here : Except Fault Location} (h : given.absolute here = .ok dir)
    (hnul : 0 ∈ given.bytes) : 0 ∈ dir.bytes := by
  have hslash : (0 : UInt8) ≠ Path.slash := by decide
  obtain ⟨name, hname, hmem⟩ := (Path.mem_bytes_iff hslash).mp hnul
  have hself : name ≠ Path.self := by
    rintro rfl
    simp [Path.self] at hmem
  refine (Path.mem_bytes_iff hslash).mpr ⟨name, (Path.names_of_absolute h).subset ?_, hmem⟩
  exact List.mem_filter.mpr ⟨hname, by simpa using hself⟩

private theorem not_unfit_of_checkDirectory (h : checkDirectory d given = (after, .ok dir)) :
    ¬Unfit d given := by
  obtain ⟨habsolute, made, hadded, -, hfind, -⟩ := checkDirectory_eq_ok h
  intro hunfit
  cases hunfit with
  | empty hempty =>
    rw [Path.absolute, if_pos hempty] at habsolute
    cases habsolute
  | nul hnul =>
    obtain ⟨hrefused, -⟩ := Disk.find_eq_ok_iff.mp hfind
    have hmem := nul_mem_absolute habsolute hnul
    simp [Disk.refusedPath?, hmem] at hrefused
  | homeless hrelative hgone =>
    obtain ⟨fault, hfault⟩ := absolute_of_homeless hrelative hgone
    rw [hfault] at habsolute
    cases habsolute
  | blocked habsolute' hfront hthere hother =>
    obtain rfl := Except.ok.inj (habsolute'.symm.trans habsolute)
    exact hother (Disk.find_front (Path.isAbsolute_of_absolute habsolute) hfind hfront
      (Disk.find_of_keeps hadded.keeps hthere))

/-- `after` has the files of `d` and no others, with what they hold, and all else that `d` has. -/
structure Spares (d after : Disk) : Prop where
  keeps : d.Keeps after
  file : ∀ loc id, after.entry? loc = some (.file id) ↔ d.entry? loc = some (.file id)
  body : ∀ id, after.body id = d.body id

private theorem Spares.of_added (h : d.Added after) : Spares d after :=
  ⟨h.keeps, fun _ _ => h.entry?_eq_file_iff, fun id => by rw [Disk.body, h.files, Disk.body]⟩

private theorem Spares.trans_unchanged {made : Disk} (h : Spares d made)
    (h' : made.Unchanged after) : Spares d after :=
  ⟨h.keeps.trans h'.keeps, fun loc id => by rw [h'.entry, h.file], fun id => by
    rw [Disk.body, h'.files, ← Disk.body, h.body]⟩

/-- No check disturbs a file, whatever comes of it. -/
theorem spares_checkDirectory (d : Disk) (given : Path) :
    Spares d (checkDirectory d given).1 := by
  obtain ⟨made, hadded, hunchanged⟩ := unchanged_checkDirectory d given
  exact (Spares.of_added hadded).trans_unchanged hunchanged

/-- A check answers the absolute path of a directory that is there by then and would be answered
again with nothing changed, or refuses the path as it was given; no unfit path passes. Of what was
on the disk nothing is lost, and what it has more is no file. A refusal for want of an absolute
form, as of a relative path while the working directory is gone, comes before anything is made. The
location of the working directory is told by names as the system tells it, none of which is `.`. -/
theorem checkDirectory_outcome (d : Disk) (given : Path)
    (hhere : ∀ name ∈ d.here, Path.IsName name ∧ name ≠ Path.self) :
    ∃ after, Spares d after ∧
      ((∃ dir again, checkDirectory d given = (after, .ok dir) ∧ ¬Unfit d given ∧
          dir.isAbsolute = true ∧ after.find dir = .ok .directory ∧
          checkDirectory after dir = (again, .ok dir) ∧ after.Unchanged again) ∨
        ∃ e, checkDirectory d given = (after, .error e) ∧ e.kind = .invalidOutputDirectory ∧
          e.context = [("dir", given.text)] ∧
          (∀ fault, given.absolute d.workingDirectory = .error fault → after = d)) := by
  refine ⟨(checkDirectory d given).1, spares_checkDirectory d given, ?_⟩
  cases hcheck : checkDirectory d given with
  | mk after result =>
    cases result with
    | ok dir =>
      obtain ⟨again, hagain, hunchanged⟩ := checkDirectory_again hhere hcheck
      exact .inl ⟨dir, again, rfl, not_unfit_of_checkDirectory hcheck,
        Path.isAbsolute_of_absolute (absolute_of_checkDirectory hcheck),
        find_of_checkDirectory hcheck, hagain, hunchanged⟩
    | error e =>
      obtain ⟨_, ⟨⟩, hkind, hcontext, -⟩ | ⟨_, _, ⟨⟩, -⟩ := checkDirectory_cases hcheck
      refine .inr ⟨e, rfl, hkind, hcontext, fun fault hfault => ?_⟩
      rw [← checkDirectory_of_absolute hfault, hcheck]

/-- In the directory `/w` with a file `f`, the directory `a` is made, and `f/x` is refused. Once the
working directory is gone, `a` is refused as well, and nothing is made. -/
theorem checkDirectory_outcome_of_three :
    let d : Disk :=
      { entries := .node [0x77] (some .directory) (.node [0x66] (some (.file 0)) .nil .nil) .nil
        files := [{ pieces := [[0x69], [0x68]] }]
        here := [[0x77]] }
    let gone : Disk := { here := [[0x77]] }
    let dir : Path := ⟨[0x2F, 0x77, 0x2F, 0x61]⟩
    (∀ name ∈ d.here, Path.IsName name ∧ name ≠ Path.self) ∧
      (∃ after again, Spares d after ∧ d.find dir = .error .missing ∧
        checkDirectory d ⟨[0x61]⟩ = (after, .ok dir) ∧ after.find dir = .ok .directory ∧
        checkDirectory after dir = (again, .ok dir) ∧ after.Unchanged again) ∧
      Unfit d ⟨[0x66, 0x2F, 0x78]⟩ ∧
      (∃ after e, Spares d after ∧ checkDirectory d ⟨[0x66, 0x2F, 0x78]⟩ = (after, .error e) ∧
        e.kind = .invalidOutputDirectory ∧ e.context = [("dir", "f/x")]) ∧
      Unfit gone ⟨[0x61]⟩ ∧
      ∃ e, checkDirectory gone ⟨[0x61]⟩ = (gone, .error e) ∧
        e.kind = .invalidOutputDirectory ∧ e.context = [("dir", "a")] := by
  intro d gone dir
  have hhere : ∀ name ∈ d.here, Path.IsName name ∧ name ≠ Path.self := by
    intro name hname
    obtain rfl := List.mem_singleton.mp hname
    exact ⟨⟨by decide, by decide⟩, by decide⟩
  have hunfit : Unfit d ⟨[0x66, 0x2F, 0x78]⟩ := by
    have hfile : d.find ⟨[0x2F, 0x77, 0x2F, 0x66]⟩ = .ok (.file 0) := by cbv
    have habsolute : (⟨[0x66, 0x2F, 0x78]⟩ : Path).absolute d.workingDirectory =
        .ok ⟨[0x2F, 0x77, 0x2F, 0x66, 0x2F, 0x78]⟩ := by cbv
    have hway : [[0x77], [0x66]] <+: Path.names ⟨[0x2F, 0x77, 0x2F, 0x66, 0x2F, 0x78]⟩ :=
      ⟨[[0x78]], by cbv⟩
    exact .blocked habsolute hway hfile Entry.noConfusion
  have hhomeless : ¬Path.isAbsolute ⟨[0x61]⟩ = true ∧ gone.entry? gone.here ≠ some .directory :=
    ⟨by decide, by decide⟩
  have hmade : (checkDirectory d ⟨[0x61]⟩).2 = .ok dir := by cbv
  refine ⟨hhere, ?_, hunfit, ?_, .homeless hhomeless.1 hhomeless.2, ?_⟩
  · obtain ⟨after, hspares, ⟨dir', again, hcheck, -, -, hfind, hagain⟩ | ⟨e, hcheck, -⟩⟩ :=
      checkDirectory_outcome d ⟨[0x61]⟩ hhere
    · rw [hcheck] at hmade
      obtain rfl := Except.ok.inj hmade
      exact ⟨after, again, hspares, by cbv, hcheck, hfind, hagain⟩
    · rw [hcheck] at hmade
      cases hmade
  · obtain ⟨after, hspares, ⟨_, _, _, hfit, -⟩ | ⟨e, hcheck, hkind, hcontext, -⟩⟩ :=
      checkDirectory_outcome d ⟨[0x66, 0x2F, 0x78]⟩ hhere
    · exact absurd hunfit hfit
    · exact ⟨after, e, hspares, hcheck, hkind, hcontext.trans (by cbv)⟩
  · obtain ⟨after, -, ⟨_, _, _, hfit, -⟩ | ⟨e, hcheck, hkind, hcontext, hnothing⟩⟩ :=
      checkDirectory_outcome gone ⟨[0x61]⟩ hhere
    · exact absurd (.homeless hhomeless.1 hhomeless.2) hfit
    · obtain ⟨fault, hfault⟩ := absolute_of_homeless hhomeless.1 hhomeless.2
      obtain rfl := hnothing fault hfault
      exact ⟨e, hcheck, hkind, hcontext.trans (by cbv)⟩

end EventLog.Simple
