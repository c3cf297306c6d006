import EventLog.Proofs.Disk.Growth
import Mathlib.Tactic.SplitIfs

/-! Paths that something stands at. A file is refused its path as taken just if that is so, and what
stands at a path stays there as a disk grows. -/
namespace EventLog.Disk

/-- Whether something stands at a path: an entry of any kind under its last name, a link included,
or the directory that a last name like `..` only points at. -/
def Occupied (d : Disk) (p : Path) : Prop :=
  d.nameLocation p = .ok none ∨
    ∃ loc e, d.nameLocation p = .ok (some loc) ∧ d.entry? loc = some e

variable {d after : Disk} {p : Path}

private theorem walk_ne_taken (d : Disk) (how : Lookup) (links : Nat) (loc : Location)
    (names : List Name) : d.walk how links loc names ≠ .error .taken := by
  fun_induction walk d how links loc names <;> simp_all

private theorem nameLocation_ne_taken (d : Disk) (p : Path) :
    d.nameLocation p ≠ .error .taken := by
  unfold nameLocation
  split
  · next fault hr =>
    rintro ⟨⟩
    unfold refusedPath? at hr
    split_ifs at hr <;> cases hr
  · split
    · simp
    · split
      · next fault hw =>
        rintro ⟨⟩
        exact walk_ne_taken _ _ _ _ _ hw
      · split_ifs <;> simp

/-- A new file is refused its path as taken just if something stands there. -/
theorem createFile_eq_taken_iff (h : d.refusesFiles ≠ some .taken) :
    d.createFile p = .error .taken ↔ d.Occupied p := by
  unfold createFile freeLocation Occupied
  cases hn : d.nameLocation p with
  | error fault =>
    have hfault : fault ≠ .taken := by
      rintro rfl
      exact nameLocation_ne_taken d p hn
    simp [hfault]
  | ok place =>
    cases place with
    | none => simp
    | some loc =>
      cases he : d.entry? loc with
      | some e => simp [he]
      | none =>
        simp only [he]
        cases hr : d.refusesFiles with
        | none => simp [he]
        | some fault =>
          rw [hr] at h
          simpa [he] using h

theorem not_occupied_of_createFile {made : Nat × Disk} (h : d.createFile p = .ok made) :
    d.refusesFiles = none ∧ ¬ d.Occupied p := by
  obtain ⟨id, after⟩ := made
  obtain ⟨_, -, hrefuses, -⟩ := createFile_eq_place h
  refine ⟨hrefuses, fun hoccupied => ?_⟩
  have htaken := (createFile_eq_taken_iff (by simp [hrefuses])).mpr hoccupied
  rw [htaken] at h
  cases h

theorem nameLocation_of_retains (hk : d.Retains after) {place : Option Location}
    (h : d.nameLocation p = .ok place) : after.nameLocation p = .ok place := by
  have horigin : after.origin p = d.origin p := by simp [origin, hk.here]
  unfold nameLocation at h ⊢
  rw [horigin]
  split at h
  · cases h
  · split at h
    · exact h
    · split at h
      · cases h
      · next loc hw =>
        rw [walk_eq_ok_iff.mpr ((walk_eq_ok_iff.mp hw).of_retains hk)]
        split_ifs at h with hdir hdots hlong
        all_goals
          have hkept := hk.entry (Decidable.not_not.mp hdir)
          simp_all

theorem nameLocation_of_keeps (hk : d.Keeps after) {place : Option Location}
    (h : d.nameLocation p = .ok place) : after.nameLocation p = .ok place :=
  nameLocation_of_retains hk.retains h

/-- What stands at a path stays there. -/
theorem Occupied.of_keeps (hk : d.Keeps after) (h : d.Occupied p) : after.Occupied p := by
  rcases h with hn | ⟨loc, e, hn, he⟩
  · exact .inl (nameLocation_of_keeps hk hn)
  · exact .inr ⟨loc, e, nameLocation_of_keeps hk hn, hk.entry he⟩

/-- A last name that does not only point at a directory has a location, if the path leads
anywhere. -/
theorem nameLocation_ne_none {name : Name} (hlast : p.names.getLast? = some name)
    (hname : ¬(name = Path.self ∨ name = Path.above)) : d.nameLocation p ≠ .ok none := by
  intro hn
  unfold nameLocation at hn
  split at hn
  · cases hn
  · rw [hlast] at hn
    simp only [hname, if_false] at hn
    split at hn
    · cases hn
    · split_ifs at hn
      cases hn

/-- What stands under a name of its own has an entry. -/
theorem Occupied.entry {name : Name} (h : d.Occupied p) (hlast : p.names.getLast? = some name)
    (hname : ¬(name = Path.self ∨ name = Path.above)) :
    ∃ loc e, loc.getLast? = some name ∧ loc ≠ [] ∧ d.entry? loc = some e := by
  rcases h with hn | ⟨loc, e, hn, he⟩
  · exact absurd hn (nameLocation_ne_none hlast hname)
  · obtain ⟨last, parent, -, hlast', rfl, -⟩ := nameLocation_eq_some hn
    rw [hlast] at hlast'
    cases hlast'
    exact ⟨_, e, by simp, by simp, he⟩

end EventLog.Disk
