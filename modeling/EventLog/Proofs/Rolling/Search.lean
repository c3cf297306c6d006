import EventLog.Proofs.Disk.Occupied
import EventLog.Proofs.Disk.Probe
import EventLog.Proofs.Rolling.Contents
import Mathlib.Data.Nat.Find

/-! The search for a free path. It stops at the first free one, and it comes to one unless each of
the suffixes that a word can spell is taken. -/
namespace EventLog.Target

/-- So many steps from a suffix the first path is free. -/
structure FirstFree (t : Target) (d : Disk) (date : Date) (start : UInt64) (n : Nat) : Prop where
  taken : ∀ m < n, d.Occupied (t.filePath date (start + UInt64.ofNat m))
  free : ¬ d.Occupied (t.filePath date (start + UInt64.ofNat n))

def createAt (t : Target) (d : Disk) (date : Date) (suffix : UInt64) :
    Except (Path × Fault) (Nat × Path × Disk) :=
  match d.createFile (t.filePath date suffix) with
  | .ok (id, after) => .ok (id, t.filePath date suffix, after)
  | .error fault => .error (t.filePath date suffix, fault)

variable {t : Target} {d : Disk} {date : Date} {start : UInt64} {n : Nat}

private theorem path_of_createAt {suffix : UInt64} {id : Nat} {path : Path} {after : Disk}
    (h : t.createAt d date suffix = .ok (id, path, after)) : path = t.filePath date suffix := by
  unfold createAt at h
  split at h
  · simp only [Except.ok.injEq, Prod.mk.injEq] at h
    exact h.2.1.symm
  · cases h

/-- Files whose suffixes differ have entries of their own. -/
theorem length_le_size {suffixes : List UInt64} (hnodup : suffixes.Nodup)
    (h : ∀ suffix ∈ suffixes, d.Occupied (t.filePath date suffix)) :
    suffixes.length ≤ d.entries.size := by
  have hinj : Function.Injective fun suffix => some (logName t.stem date suffix) :=
    fun _ _ hab => logName_injective t.stem date (Option.some.inj hab)
  have hsub : suffixes.map (fun suffix => some (logName t.stem date suffix)) ⊆
      d.entries.toList.map (·.1.getLast?) := by
    intro ended hended
    obtain ⟨suffix, hmem, rfl⟩ := List.mem_map.mp hended
    obtain ⟨loc, e, hloc, hne, he⟩ :=
      (h suffix hmem).entry (getLast?_names_filePath t date suffix) (logName_ne_dots _ _ _)
    obtain ⟨place, hplace, rfl⟩ := List.mem_map.mp (Disk.mem_of_entry? hne he)
    exact List.mem_map.mpr ⟨place, hplace, hloc⟩
  have hlength := ((hnodup.map hinj).subperm hsub).length_le
  simpa [Entries.length_toList] using hlength

theorem nodup_counted (start : UInt64) (h : n ≤ UInt64.size) :
    ((List.range n).map (start + UInt64.ofNat ·)).Nodup := by
  refine List.nodup_range.map_on fun a ha b hb hab => ?_
  have hlt {m : Nat} (hm : m ∈ List.range n) : m < UInt64.size :=
    Nat.lt_of_lt_of_le (List.mem_range.mp hm) h
  have hsame := congrArg UInt64.toNat ((UInt64.add_right_inj start).mp hab)
  rwa [UInt64.toNat_ofNat_of_lt' (hlt ha), UInt64.toNat_ofNat_of_lt' (hlt hb)] at hsame

/-- Less than all suffixes can be taken by less than as many entries. -/
theorem counted_le_size (h : ∀ m < n, d.Occupied (t.filePath date (start + UInt64.ofNat m)))
    (hn : n ≤ UInt64.size) : n ≤ d.entries.size := by
  have hlength := length_le_size (nodup_counted start hn) (fun suffix hsuffix => by
    obtain ⟨m, hm, rfl⟩ := List.mem_map.mp hsuffix
    exact h m (List.mem_range.mp hm))
  simpa using hlength

private theorem eq_start_add (start suffix : UInt64) :
    suffix = start + UInt64.ofNat (suffix - start).toNat := by
  rw [UInt64.ofNat_toNat, UInt64.add_comm, UInt64.sub_add_cancel]

/-- If any path is free, counting up comes to a free one within as many steps as there are
entries. -/
theorem exists_firstFree (start : UInt64) {suffix : UInt64}
    (h : ¬ d.Occupied (t.filePath date suffix)) :
    ∃ n ≤ d.entries.size, t.FirstFree d date start n := by
  classical
  rw [eq_start_add start suffix] at h
  have hsome : ∃ n, ¬ d.Occupied (t.filePath date (start + UInt64.ofNat n)) := ⟨_, h⟩
  have htaken : ∀ m < Nat.find hsome, d.Occupied (t.filePath date (start + UInt64.ofNat m)) :=
    fun m hm => not_not.mp (Nat.find_min hsome hm)
  have hbound : Nat.find hsome ≤ UInt64.size :=
    (Nat.find_min' hsome h).trans (suffix - start).toNat_lt.le
  exact ⟨Nat.find hsome, counted_le_size htaken hbound, htaken, Nat.find_spec hsome⟩

theorem size_of_all_taken (h : ∀ suffix, d.Occupied (t.filePath date suffix)) :
    UInt64.size ≤ d.entries.size := by
  have hcounted : ∀ m < UInt64.size, d.Occupied (t.filePath date (0 + UInt64.ofNat m)) :=
    fun _ _ => h _
  exact counted_le_size hcounted le_rfl

/-- The search stops at the first free path, with what comes of it. -/
theorem createFrom_of_firstFree (hsystem : d.refusesFiles ≠ some .taken) {tries : Nat}
    (h : t.FirstFree d date start n) (hn : n < tries) :
    t.createFrom d date tries start = t.createAt d date (start + UInt64.ofNat n) := by
  have hiff (suffix : UInt64) := Disk.createFile_eq_taken_iff (p := t.filePath date suffix) hsystem
  induction n generalizing start tries with
  | zero =>
    obtain ⟨tries, rfl⟩ := Nat.exists_eq_succ_of_ne_zero (by omega : tries ≠ 0)
    have hzero : start + UInt64.ofNat 0 = start := by simp
    have hfree := mt (hiff start).mp (hzero ▸ h.free)
    rw [hzero, createFrom, createAt]
    split <;> simp_all
  | succ n ih =>
    obtain ⟨tries, rfl⟩ := Nat.exists_eq_succ_of_ne_zero (by omega : tries ≠ 0)
    have hstep (m : Nat) : start + UInt64.ofNat (m + 1) = start + 1 + UInt64.ofNat m := by
      rw [UInt64.ofNat_add, UInt64.add_comm (UInt64.ofNat m), ← UInt64.add_assoc]
      rfl
    have hzero : start + UInt64.ofNat 0 = start := by simp
    have htaken := (hiff start).mpr (hzero ▸ h.taken 0 (by omega))
    have hrest : t.FirstFree d date (start + 1) n :=
      ⟨fun m hm => hstep m ▸ h.taken (m + 1) (by omega), hstep n ▸ h.free⟩
    rw [createFrom, htaken, hstep]
    exact ih hrest (by omega)

/-- A file that was made stands at the first free path. -/
theorem firstFree_of_createFrom {id : Nat} {path : Path} {after : Disk}
    (h : t.createFrom d date (d.entries.size + 1) start = .ok (id, path, after)) :
    ∃ n, t.FirstFree d date start n ∧ path = t.filePath date (start + UInt64.ofNat n) := by
  obtain ⟨chosen, hchosen, hmade⟩ := createFrom_eq_ok h
  obtain ⟨hrefuses, hfree⟩ := Disk.not_occupied_of_createFile hmade
  obtain ⟨n, hn, hfirst⟩ := exists_firstFree start (hchosen ▸ hfree)
  rw [createFrom_of_firstFree (by simp [hrefuses]) hfirst (by omega)] at h
  exact ⟨n, hfirst, path_of_createAt h⟩

/-- What comes of the first free path comes of opening a log file, once the directory is there. -/
theorem openFile_of_firstFree {made : Disk} {zone : Zone} {time : Instant}
    (hmade : d.makeDirectories t.dir = (made, .ok ())) (hsystem : made.refusesFiles ≠ some .taken)
    (hn : n ≤ made.entries.size)
    (h : t.FirstFree made (time.date zone) (UInt64.ofInt time.millis) n) {path : Path}
    (hpath : path = t.filePath (time.date zone) (UInt64.ofInt time.millis + UInt64.ofNat n)) :
    (∃ id after, made.createFile path = .ok (id, after) ∧
        t.openFile d zone time = (after, .ok { id, path, weekday := time.weekday zone })) ∨
      ∃ fault, fault ≠ .taken ∧ made.createFile path = .error fault ∧
        t.openFile d zone time =
          (made, .error ((Error.ofFault fault).withContext "path" path.text)) := by
  have hsearch := createFrom_of_firstFree hsystem h (Nat.lt_succ_of_le hn)
  rw [createAt, ← hpath] at hsearch
  cases hc : made.createFile path with
  | ok created =>
    obtain ⟨id, after⟩ := created
    rw [hc] at hsearch
    exact .inl ⟨id, after, rfl, by simp only [openFile, hmade, hsearch]⟩
  | error fault =>
    rw [hc] at hsearch
    refine .inr ⟨fault, ?_, rfl, by simp only [openFile, hmade, hsearch]⟩
    rintro rfl
    exact h.free (hpath ▸ (Disk.createFile_eq_taken_iff hsystem).mp hc)

/-- A log file that was opened stands at the first path that was free once the directory was there,
and nothing stood there before that either. -/
theorem firstFree_of_openFile {zone : Zone} {time : Instant} {after : Disk} {f : OpenFile}
    (h : t.openFile d zone time = (after, .ok f)) :
    ¬ d.Occupied f.path ∧
      ∃ n, t.FirstFree (d.makeDirectories t.dir).1 (time.date zone) (UInt64.ofInt time.millis) n ∧
        f.path =
          t.filePath (time.date zone) (UInt64.ofInt time.millis + UInt64.ofNat n) := by
  have hkeeps := (Disk.keeps_makeDirectories d t.dir).1
  unfold openFile at h
  split at h
  · cases h
  · next made hmade =>
    rw [hmade] at hkeeps ⊢
    split at h
    · cases h
    · next id path _ hcreate =>
      obtain ⟨n, hfirst, hpath⟩ := firstFree_of_createFrom hcreate
      simp only [Prod.mk.injEq, Except.ok.injEq] at h
      obtain ⟨-, rfl⟩ := h
      exact ⟨hpath ▸ mt (Disk.Occupied.of_keeps hkeeps) hfirst.free, n, hfirst, hpath⟩

end EventLog.Target
