import EventLog.Proofs.Disk.Directories

/-! Questions about paths. None leaves a trace on the disk; and where the working directory is
there, a path that leads to nothing has no canonical form either. -/
namespace EventLog.Disk

/-- The working directory is there with all that it lies in, and its location is told by names that
lead down. -/
structure Housed (d : Disk) : Prop where
  named : ∀ name ∈ d.here, Path.IsName name ∧ ¬(name = Path.self ∨ name = Path.above)
  stands : d.Stands d.here

variable {d : Disk} {p : Path}

theorem Housed.of_root (h : d.here = []) : d.Housed :=
  ⟨by simp [h], by rw [h]; exact .root d⟩

theorem Housed.workingDirectory (h : d.Housed) : d.workingDirectory = .ok d.here :=
  if_pos (h.stands d.here (List.prefix_refl d.here))

private theorem Housed.origin (h : d.Housed) (p : Path) : d.Stands (d.origin p) := by
  unfold Disk.origin
  split
  · exact .root d
  · exact h.stands

theorem unchanged_canWrite (d : Disk) (p : Path) : d.Unchanged (d.canWrite p).1 := by
  unfold canWrite
  split
  · exact d.unchanged_probe p
  · exact .refl d
  · exact .refl d

/-- A path of ordinary length that leads to nothing has no canonical form. -/
theorem Housed.canonical?_eq_none (h : d.Housed) {fault : Fault} (hfind : d.find p = .error fault)
    (hshort : p.bytes.length < pathLimit) : d.canonical? p = none := by
  unfold canonical?
  split
  · rfl
  · next hbytes =>
    push Not at hbytes
    split
    · next target hwalk =>
      have hleads := leads_of_walk rfl hwalk
      obtain ⟨e, he⟩ := Option.isSome_iff_exists.mp (hleads.isSome (h.origin p))
      have hrefused : refusedPath? p = none := by
        rw [refusedPath?, if_neg hbytes.2, if_neg hbytes.1, if_neg (Nat.not_le.mpr hshort)]
      rw [find_eq_ok_iff.mpr ⟨hrefused, target, hleads, he⟩] at hfind
      cases hfind
    · rfl

theorem pathExists_eq_false_iff : d.pathExists p = false ↔ ∃ fault, d.find p = .error fault := by
  unfold pathExists
  cases d.find p <;> simp [Except.isOk, Except.toBool]

end EventLog.Disk
