import EventLog.Proofs.Disk.Occupied
import EventLog.Proofs.Disk.Paths
import Mathlib.Data.List.Perm.Subperm
import Mathlib.Data.List.Nodup
import Mathlib.Data.List.Range

/-! Trying whether a directory takes a file. What the trial removes is the file that it made, where
nothing stood before, so it leaves no trace. -/
namespace EventLog

namespace Disk

private theorem passingName_injective : Function.Injective passingName := by
  intro m n h
  exact Text.paddedDecimal_injective 6 (List.append_cancel_left (Text.encode_injective h))

theorem mem_of_entry? {d : Disk} {loc : Location} (hne : loc ≠ []) {e : Entry}
    (h : d.entry? loc = some e) : loc ∈ d.entries.toList.map (·.1) := by
  obtain ⟨name, rest, rfl⟩ := List.exists_cons_of_ne_nil hne
  exact List.mem_map_of_mem
    (Entries.mem_toList_of_get? (h : d.entries.get? (name :: rest) = some e))

private theorem exists_passingName_free (d : Disk) (loc : Location) :
    ∃ n < d.entries.size + 1, d.entry? (loc ++ [passingName n]) = none := by
  -- There are more names to choose from than entries.
  by_contra htaken
  push Not at htaken
  have hnodup : ((List.range (d.entries.size + 1)).map fun n => loc ++ [passingName n]).Nodup := by
    refine List.nodup_range.map fun m n h => ?_
    exact passingName_injective (List.singleton_inj.mp (List.append_cancel_left h))
  have hsub : ((List.range (d.entries.size + 1)).map fun n => loc ++ [passingName n]) ⊆
      d.entries.toList.map (·.1) := by
    intro name hname
    obtain ⟨n, hn, rfl⟩ := List.mem_map.mp hname
    obtain ⟨e, he⟩ := Option.ne_none_iff_exists'.mp (htaken n (List.mem_range.mp hn))
    exact mem_of_entry? (by simp) he
  have hlength := (hnodup.subperm hsub).length_le
  simp only [List.length_map, List.length_range, Entries.length_toList] at hlength
  omega

/-- The name that is tried is the first that nothing has. -/
theorem unusedName_eq (d : Disk) (loc : Location) : ∃ n, d.unusedName loc = passingName n ∧
    d.entry? (loc ++ [passingName n]) = none ∧
    ∀ m < n, d.entry? (loc ++ [passingName m]) ≠ none := by
  unfold unusedName
  rw [List.find?_map]
  cases hfind : (List.range (d.entries.size + 1)).find?
      ((fun name => (d.entry? (loc ++ [name])).isNone) ∘ passingName) with
  | none =>
    obtain ⟨n, hn, hfree⟩ := exists_passingName_free d loc
    have htaken := List.find?_eq_none.mp hfind n (List.mem_range.mpr hn)
    simp [hfree] at htaken
  | some n =>
    obtain ⟨hfree, -, hbefore⟩ := List.find?_range_eq_some.mp hfind
    refine ⟨n, rfl, by simpa using hfree, fun m hm => Option.isSome_iff_ne_none.mp ?_⟩
    simpa using hbefore m hm

/-- The name that is tried depends on nothing but what stands where. -/
theorem unusedName_congr {d after : Disk} (h : ∀ loc, after.entry? loc = d.entry? loc)
    (loc : Location) : after.unusedName loc = d.unusedName loc := by
  obtain ⟨n, hname, hfree, hbefore⟩ := d.unusedName_eq loc
  obtain ⟨n', hname', hfree', hbefore'⟩ := after.unusedName_eq loc
  rw [h] at hfree'
  have hle : n ≤ n' := Nat.le_of_not_lt fun hlt => hbefore n' hlt hfree'
  have hge : n' ≤ n := Nat.le_of_not_lt fun hlt => hbefore' n hlt ((h _).trans hfree)
  rw [hname, hname', Nat.le_antisymm hle hge]

private theorem isName_unusedName (d : Disk) (loc : Location) : Path.IsName (d.unusedName loc) := by
  have hpassing (n : Nat) : Path.IsName (passingName n) := by
    refine ⟨fun hslash => ?_, by simp [passingName, Text.encode]⟩
    have hmem := slash_mem_encode hslash
    simp [Text.notMem_paddedDecimal (show '/'.isDigit = false from rfl)] at hmem
  obtain ⟨n, hname, -⟩ := d.unusedName_eq loc
  rw [hname]
  exact hpassing n

private theorem removeFile_of_createFile {d : Disk} {p : Path} {created : Nat × Disk}
    (h : d.createFile p = .ok created) (hend : p.endsInSlash = false) :
    ∃ removed, created.2.removeFile p = .ok removed ∧
      d.Unchanged { removed with files := d.files } := by
  obtain ⟨id, made⟩ := created
  obtain ⟨-, -, hkeeps, -⟩ := createFile_eq_ok h
  obtain ⟨loc, hfree, -, -, hmade⟩ := createFile_eq_place h
  obtain ⟨hname, hnone, hne⟩ := freeLocation_eq_ok hfree
  have hplaced (other : Location) :
      made.entry? other = if other = loc then some (.file id) else d.entry? other := by
    rw [hmade]
    exact entry?_place d hne (.file id) other
  refine ⟨made.unlink loc, ?_, { hkeeps.toSameSettings with }, rfl, fun other => ?_⟩
  · simp [removeFile, nameLocation_of_keeps hkeeps hname, hplaced, hend]
  · refine (entry?_unlink made hne other).trans ?_
    rw [hplaced]
    split
    · next hother => rw [hother, hnone]
    · rfl

private theorem probe_of_createFile {d : Disk} {dir : Path} {loc : Location} {created : Nat × Disk}
    (hresolve : d.resolve dir = .ok loc)
    (hcreate : d.createFile (((Path.ofLocation d.here).join dir).join ⟨d.unusedName loc⟩) =
      .ok created) :
    ∃ probed, d.probe dir = (probed, .ok ()) ∧ d.Unchanged probed := by
  obtain ⟨hslash, hne⟩ := isName_unusedName d loc
  have hend :
      (((Path.ofLocation d.here).join dir).join ⟨d.unusedName loc⟩).endsInSlash = false := by
    refine (Path.endsInSlash_join _ ⟨d.unusedName loc⟩ hne).trans (beq_false_of_ne fun hlast => ?_)
    exact hslash (List.mem_of_getLast? hlast)
  obtain ⟨removed, hremoved, hunchanged⟩ := removeFile_of_createFile hcreate hend
  exact ⟨_, by simp only [probe, hresolve, hcreate, hremoved], hunchanged⟩

/-- All that a trial can be. -/
theorem probe_cases (d : Disk) (dir : Path) :
    (∃ fault, d.probe dir = (d, .error fault)) ∨
      ∃ loc created probed, d.resolve dir = .ok loc ∧
        d.createFile (((Path.ofLocation d.here).join dir).join ⟨d.unusedName loc⟩) = .ok created ∧
        d.probe dir = (probed, .ok ()) ∧ d.Unchanged probed := by
  cases hresolve : d.resolve dir with
  | error fault => exact .inl ⟨fault, by simp only [probe, hresolve]⟩
  | ok loc =>
    cases hcreate : d.createFile (((Path.ofLocation d.here).join dir).join ⟨d.unusedName loc⟩) with
    | error fault => exact .inl ⟨fault, by simp only [probe, hresolve, hcreate]⟩
    | ok created =>
      obtain ⟨probed, hprobe, hunchanged⟩ := probe_of_createFile hresolve hcreate
      exact .inr ⟨loc, created, probed, rfl, hcreate, hprobe, hunchanged⟩

/-- A trial that fails has made nothing. -/
theorem probe_eq_error {d after : Disk} {dir : Path} {fault : Fault}
    (h : d.probe dir = (after, .error fault)) : after = d := by
  obtain ⟨_, hprobe⟩ | ⟨_, _, _, -, -, hprobe, -⟩ := d.probe_cases dir <;> rw [h] at hprobe <;>
    cases hprobe
  rfl

/-- A trial leaves no trace, whether it succeeds or not. -/
theorem unchanged_probe (d : Disk) (dir : Path) : d.Unchanged (d.probe dir).1 := by
  obtain ⟨fault, hprobe⟩ | ⟨_, _, _, -, -, hprobe, hunchanged⟩ := d.probe_cases dir
  · rw [hprobe]
    exact .refl d
  · rw [hprobe]
    exact hunchanged

private theorem Unchanged.createFile {d after : Disk} (h : d.Unchanged after) {p : Path}
    {created : Nat × Disk} (hcreate : d.createFile p = .ok created) :
    ∃ created', after.createFile p = .ok created' := by
  obtain ⟨id, made⟩ := created
  obtain ⟨loc, hfree, htakes, -⟩ := createFile_eq_place hcreate
  obtain ⟨hname, hnone, -⟩ := freeLocation_eq_ok hfree
  have hfree' : after.freeLocation p = .ok loc := by
    rw [Disk.freeLocation, nameLocation_of_keeps h.keeps hname]
    simp [h.entry, hnone]
  simp only [Disk.createFile, hfree', h.refusesFiles, htakes]
  exact ⟨_, rfl⟩

/-- A trial that succeeds would succeed again. -/
theorem Unchanged.probe_succeeds {d after probed : Disk} (h : d.Unchanged after) {dir : Path}
    (hprobe : d.probe dir = (probed, .ok ())) : ∃ again, after.probe dir = (again, .ok ()) := by
  obtain ⟨_, hfailed⟩ | ⟨loc, created, _, hresolve, hcreate, -⟩ := d.probe_cases dir
  · rw [hprobe] at hfailed
    cases hfailed
  · obtain ⟨created', hcreate'⟩ := h.createFile hcreate
    rw [← h.here, ← unusedName_congr h.entry] at hcreate'
    obtain ⟨again, hagain, -⟩ := probe_of_createFile (resolve_of_keeps h.keeps hresolve) hcreate'
    exact ⟨again, hagain⟩

end Disk

end EventLog
