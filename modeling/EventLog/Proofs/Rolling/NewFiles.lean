import EventLog.Proofs.Rolling.History
import EventLog.Proofs.Rolling.Search
import Mathlib

/-! The files that a writer leaves alone and those it makes, on a disk that may refuse anything at
any time. Bytes only go to the open file, and a file is only opened where nothing stands. -/
namespace EventLog

namespace Disk

/-- `after` has all that is on `d`, and those of its files that are not `used` are as they were. -/
structure Spares (used : Nat → Prop) (d after : Disk) : Prop where
  keeps : d.Keeps after
  length : d.files.length ≤ after.files.length
  body : ∀ k < d.files.length, ¬ used k → after.body k = d.body k

variable {used used' : Nat → Prop} {d d' d'' : Disk}

theorem Spares.refl (used : Nat → Prop) (d : Disk) : Spares used d d :=
  ⟨.refl d, le_rfl, fun _ _ _ => rfl⟩

theorem Spares.trans (h : Spares used d d') (h' : Spares used d' d'') : Spares used d d'' :=
  ⟨h.keeps.trans h'.keeps, h.length.trans h'.length, fun k hk hused =>
    (h'.body k (hk.trans_le h.length) hused).trans (h.body k hk hused)⟩

/-- What is used is of no account beyond the files that are there. -/
theorem Spares.mono (h : Spares used d d')
    (hsub : ∀ k < d.files.length, used k → used' k) : Spares used' d d' :=
  ⟨h.keeps, h.length, fun k hk hused => h.body k hk (mt (hsub k hk) hused)⟩

theorem Spares.of_files (keeps : d.Keeps d') (added : List FileBody)
    (files : d'.files = d.files ++ added) : Spares used d d' := by
  refine ⟨keeps, by simp [files], fun k hk _ => ?_⟩
  simp [Disk.body, files, List.getD_eq_getElem?_getD, List.getElem?_append_left hk]

private theorem spares_append {id : Nat} {bytes : List UInt8} (h : d.append id bytes = .ok d') :
    Spares (· = id) d d' := by
  unfold append at h
  split at h
  · cases h
    exact .refl _ d
  · split at h
    · cases h
    · cases h
      refine ⟨⟨⟨rfl, rfl, rfl, rfl⟩, fun he => he⟩, by simp, fun k _ hk => ?_⟩
      simp [body, List.getD_eq_getElem?_getD, Ne.symm hk]

end Disk

namespace OpenFile
open Disk (Spares spares_append)

variable {d : Disk} {f : OpenFile}

/-- Whatever a file takes or sends, it stays the same file, and no other changes. -/
structure Served (f : OpenFile) (d : Disk) (r : Disk × OpenFile × Except Fault Unit) : Prop where
  spares : Spares (· = f.id) d r.1
  same : ∃ waiting, r.2.1 = { f with waiting }

private theorem Served.same_id {r : Disk × OpenFile × Except Fault Unit} (h : Served f d r) :
    r.2.1.id = f.id := by
  obtain ⟨waiting, hsame⟩ := h.same
  rw [hsame]

private theorem Served.trans {r r' : Disk × OpenFile × Except Fault Unit} (h : Served f d r)
    (h' : Served r.2.1 r.1 r') : Served f d r' := by
  obtain ⟨waiting, hsame⟩ := h.same
  obtain ⟨waiting', hsame'⟩ := h'.same
  have hspares := h'.spares
  rw [h.same_id] at hspares
  exact ⟨h.spares.trans hspares, waiting', by rw [hsame', hsame]⟩

private theorem served_self (f : OpenFile) (d : Disk) (result : Except Fault Unit) :
    Served f d (d, f, result) := ⟨.refl _ d, f.waiting, rfl⟩

theorem served_drain (f : OpenFile) (d : Disk) : Served f d (f.drain d) := by
  unfold drain
  split
  · next after heq => exact ⟨spares_append heq, #[], rfl⟩
  · exact served_self f d _

private theorem served_put (f : OpenFile) (d : Disk) (piece : List UInt8) :
    Served f d (f.put d piece) := by
  have hcleared : Served f d
      (if piece.length > capacity - f.waiting.size then f.drain d else (d, f, .ok ())) := by
    split
    · exact served_drain f d
    · exact served_self f d _
  unfold put
  simp only
  generalize (if piece.length > capacity - f.waiting.size then f.drain d else (d, f, .ok ())) = r
    at hcleared
  obtain ⟨d₁, g, cleared⟩ := r
  cases cleared with
  | error fault => exact hcleared
  | ok _ =>
    refine hcleared.trans ?_
    simp only
    split
    · split
      · next after heq => exact ⟨spares_append heq, g.waiting, rfl⟩
      · exact served_self g d₁ _
    · exact ⟨.refl _ d₁, _, rfl⟩

theorem served_putAll (f : OpenFile) (d : Disk) (pieces : List (List UInt8)) :
    Served f d (f.putAll d pieces) := by
  induction pieces generalizing d f with
  | nil => exact served_self f d _
  | cons piece rest ih =>
    have hput := served_put f d piece
    unfold putAll
    split
    · next d₁ g heq =>
      rw [heq] at hput
      exact hput.trans (ih g d₁)
    · next heq =>
      rw [heq] at hput
      exact hput

end OpenFile

namespace Rolling
open Disk (Spares)
open OpenFile (served_drain served_putAll)

def Holds (w : Rolling) (k : Nat) : Prop := ∃ f, w.current = some f ∧ f.id = k

/-- What may be said of the disk and the writer after a call, wherever it fails: only the file that
was open before has changed, and the one that is open then is the same or a new one. -/
structure Careful (d : Disk) (w : Rolling) (after : Disk) (w' : Rolling) : Prop where
  spares : Spares w.Holds d after
  holds : ∀ k, w'.Holds k → w.Holds k ∨ d.files.length ≤ k ∧ k < after.files.length
  zone : w'.zone = w.zone

variable {d d' d'' : Disk} {w w' w'' : Rolling} {e : Event} {f : OpenFile}

theorem Careful.trans (h : Careful d w d' w') (h' : Careful d' w' d'' w'') :
    Careful d w d'' w'' := by
  refine ⟨⟨h.spares.keeps.trans h'.spares.keeps, h.spares.length.trans h'.spares.length, ?_⟩, ?_,
    h'.zone.trans h.zone⟩
  · intro k hk hheld
    have hlater : ¬ w'.Holds k := by
      intro hw'
      rcases h.holds k hw' with hw | ⟨hnew, -⟩
      · exact hheld hw
      · omega
    exact (h'.spares.body k (hk.trans_le h.spares.length) hlater).trans (h.spares.body k hk hheld)
  · intro k hk
    have hlength := h'.spares.length
    rcases h'.holds k hk with hw' | ⟨hnew, hlt⟩
    · rcases h.holds k hw' with hw | ⟨hnew, hlt⟩
      · exact .inl hw
      · exact .inr ⟨hnew, by omega⟩
    · exact .inr ⟨h.spares.length.trans hnew, hlt⟩

theorem careful_flush (d : Disk) (w : Rolling) :
    Careful d w (w.flush d).disk (w.flush d).writer := by
  unfold flush
  split
  · exact ⟨.refl _ d, fun _ hk => .inl hk, rfl⟩
  · next f hf =>
    have hdrain := served_drain f d
    refine ⟨hdrain.spares.mono fun k _ hk => ⟨f, hf, hk.symm⟩, ?_, rfl⟩
    rintro k ⟨g, hg, rfl⟩
    cases hg
    exact .inl ⟨f, hf, hdrain.same_id.symm⟩

theorem careful_close (d : Disk) (w : Rolling) :
    Careful d w (w.close d).disk (w.close d).writer := by
  unfold close
  split
  · exact ⟨.refl _ d, fun _ hk => .inl hk, rfl⟩
  · next f hf =>
    refine ⟨(served_drain f d).spares.mono fun k _ hk => ⟨f, hf, hk.symm⟩, ?_, rfl⟩
    rintro k ⟨g, hg, -⟩
    cases hg

theorem careful_redirect (d : Disk) (w : Rolling) (target : Target) :
    Careful d w (w.redirect d target).disk (w.redirect d target).writer :=
  have h := careful_close d { w with target }
  ⟨h.spares, h.holds, h.zone⟩

/-- An event that needs no file goes to the open one. -/
theorem write_of_kept (h : w.needsFile e = false) :
    ∃ f, w.current = some f ∧ f.weekday = e.time.weekday w.zone ∧
      ∀ d, w.write d e = w.writeTo d f e := by
  cases hf : w.current with
  | none => simp [needsFile, hf] at h
  | some f =>
    refine ⟨f, rfl, by simpa [needsFile, hf] using h, fun d => ?_⟩
    unfold write
    rw [hf, h]

/-- All that can become of an event, wherever it fails: the open file stays open, or a new one is
opened, or none could be. -/
theorem write_shape (d : Disk) (w : Rolling) (e : Event) :
    (∃ f waiting, w.current = some f ∧ w.needsFile e = false ∧
        (w.write d e).writer = { w with current := some { f with waiting } } ∧
        Spares (· = f.id) d (w.write d e).disk) ∨
      (∃ d₁ f waiting, w.target.openFile d w.zone e.time = (d₁, .ok f) ∧
        (w.write d e).writer = { w with current := some { f with waiting } } ∧
        Spares (fun k => k = f.id ∨ w.Holds k) d₁ (w.write d e).disk) ∨
      ∃ d₁ error, w.target.openFile d w.zone e.time = (d₁, .error error) ∧
        w.write d e = ⟨d₁, w, [], .error error⟩ := by
  unfold write
  split
  · next f hf hkept =>
    have hput := served_putAll f d ((e.pieces w.zone).map Text.encode)
    obtain ⟨waiting, hsame⟩ := hput.same
    exact .inl ⟨f, waiting, hf, hkept, by simp [writeTo, hsame], hput.spares⟩
  · split
    · next d₁ error ho => exact .inr (.inr ⟨d₁, error, ho, rfl⟩)
    · next previous _ _ d₁ f ho =>
      have hput := served_putAll f d₁ ((e.pieces w.zone).map Text.encode)
      obtain ⟨waiting, hsame⟩ := hput.same
      have hlines : Spares (fun k => k = f.id ∨ w.Holds k) d₁ (w.writeTo d₁ f e).disk :=
        hput.spares.mono fun _ _ hk => .inl hk
      split
      · exact .inr (.inl ⟨d₁, f, waiting, ho, by simp [writeTo, hsame], hlines⟩)
      · next old hold =>
        refine .inr (.inl ⟨d₁, f, waiting, ho, by simp [writeTo, hsame], hlines.trans ?_⟩)
        exact (served_drain old _).spares.mono fun _ _ hk => .inr ⟨old, hold, hk.symm⟩

theorem careful_write (d : Disk) (w : Rolling) (e : Event) :
    Careful d w (w.write d e).disk (w.write d e).writer := by
  rcases write_shape d w e with ⟨f, waiting, hf, -, hwriter, hspares⟩ |
    ⟨d₁, f, waiting, ho, hwriter, hspares⟩ | ⟨d₁, error, ho, hrun⟩
  · refine ⟨hspares.mono fun k _ hk => ⟨f, hf, hk.symm⟩, ?_, by rw [hwriter]⟩
    rintro k ⟨g, hg, rfl⟩
    rw [hwriter] at hg
    cases hg
    exact .inl ⟨f, hf, rfl⟩
  · obtain ⟨hkeeps, hfiles, ⟨suffix, hnew⟩, -⟩ := Target.openFile_eq_ok ho
    have hid : f.id = d.files.length := by rw [hnew]
    have hall := (Spares.of_files hkeeps _ hfiles).trans hspares
    refine ⟨hall.mono fun k hk hused => ?_, ?_, by rw [hwriter]⟩
    · rcases hused with rfl | hheld
      · omega
      · exact hheld
    · rintro k ⟨g, hg, rfl⟩
      rw [hwriter] at hg
      cases hg
      have hlength := hspares.length
      simp only [hfiles, List.length_append, List.length_singleton] at hlength
      exact .inr ⟨hid.ge, by simp only; omega⟩
  · obtain ⟨hkeeps, hfiles⟩ := Target.openFile_eq_error ho
    rw [hrun]
    exact ⟨.of_files hkeeps [] (by simp [hfiles]), fun _ hk => .inl hk, rfl⟩

theorem careful_call (d : Disk) (w : Rolling) (c : Call) :
    Careful d w (c.run d w).disk (c.run d w).writer := by
  cases c with
  | write e => exact careful_write d w e
  | flush => exact careful_flush d w
  | close => exact careful_close d w
  | redirect target => exact careful_redirect d w target

private theorem careful_course (d : Disk) (w : Rolling) (calls : List Call) :
    Careful d w (course d w calls).disk (course d w calls).writer := by
  induction calls generalizing d w with
  | nil => exact ⟨.refl _ d, fun _ hk => .inl hk, rfl⟩
  | cons c rest ih => exact (careful_call d w c).trans (ih _ _)

private theorem firstFree_of_write (hheld : ∀ k, w.Holds k → k < d.files.length)
    (hf : (w.write d e).writer.current = some f) (hid : d.files.length ≤ f.id) :
    ¬ d.Occupied f.path ∧
      ∃ n, w.target.FirstFree (d.makeDirectories w.target.dir).1 (e.time.date w.zone)
          (UInt64.ofInt e.time.millis) n ∧
        f.path = w.target.filePath (e.time.date w.zone)
          (UInt64.ofInt e.time.millis + UInt64.ofNat n) := by
  rcases write_shape d w e with ⟨g, waiting, hg, -, hwriter, -⟩ |
    ⟨d₁, g, waiting, ho, hwriter, -⟩ | ⟨d₁, error, -, hrun⟩
  · have hlt := hheld g.id ⟨g, hg, rfl⟩
    rw [hwriter] at hf
    cases hf
    exact absurd hlt (Nat.not_lt.mpr hid)
  · rw [hwriter] at hf
    cases hf
    exact Target.firstFree_of_openFile (f := g) ho
  · rw [hrun] at hf
    exact absurd (hheld f.id ⟨f, hf, rfl⟩) (Nat.not_lt.mpr hid)

/-- What a write comes to that has found its path: a new file there is the open one, or the fault
that arose there is reported. -/
def Settles (made : Disk) (path : Path) (r : Rolled) : Prop :=
  (∃ f after, made.createFile path = .ok (f.id, after) ∧ r.writer.current = some f ∧
      f.path = path) ∨
    ∃ fault, fault ≠ .taken ∧ made.createFile path = .error fault ∧
      r.result = .error ((Error.ofFault fault).withContext "path" path.text)

private theorem settles_write {made : Disk} {n : Nat} (hneeds : w.needsFile e = true)
    (hmade : d.makeDirectories w.target.dir = (made, .ok ()))
    (hsystem : made.refusesFiles ≠ some .taken) (hn : n ≤ made.entries.size)
    (h : w.target.FirstFree made (e.time.date w.zone) (UInt64.ofInt e.time.millis) n) :
    Settles made (w.target.filePath (e.time.date w.zone)
      (UInt64.ofInt e.time.millis + UInt64.ofNat n)) (w.write d e) := by
  have hfound := Target.openFile_of_firstFree hmade hsystem hn h rfl
  rcases write_shape d w e with ⟨g, waiting, -, hkept, -⟩ | ⟨d₁, g, waiting, ho, hwriter, -⟩ |
    ⟨d₁, error, ho, hrun⟩
  · rw [hneeds] at hkept
    cases hkept
  · rw [ho] at hfound
    rcases hfound with ⟨id, after, hcreate, hopened⟩ | ⟨fault, -, -, hopened⟩
    · simp only [Prod.mk.injEq, Except.ok.injEq] at hopened
      obtain ⟨-, rfl⟩ := hopened
      exact .inl ⟨_, after, hcreate, congrArg current hwriter, rfl⟩
    · cases hopened
  · rw [ho] at hfound
    rcases hfound with ⟨id, after, -, hopened⟩ | ⟨fault, hfault, hcreate, hopened⟩
    · cases hopened
    · simp only [Prod.mk.injEq, Except.error.injEq] at hopened
      exact .inr ⟨fault, hfault, hcreate, by rw [hrun, hopened.2]⟩

/-- After any calls every file that was there before them is as it was and found as it was, and this
is what an event that comes then can expect. If it opens a file, nothing stood at the path of that,
which is the first free one in the order of counting up from the milliseconds of the event. If it
needs a file and the directory for it is there or could be made, the search stops at that path,
after no more steps than there are entries, unless each of the paths that suffixes spell is
taken. -/
theorem no_file_overwritten (d : Disk) (target : Target) (zone : Zone) (calls : List Call)
    (e : Event) (hsystem : d.refusesFiles ≠ some .taken) :
    let c := course d { target, zone } calls
    let t := c.writer.target
    let made := (c.disk.makeDirectories t.dir).1
    let start := UInt64.ofInt e.time.millis
    (∀ k < d.files.length, (c.disk.body k).bytes = (d.body k).bytes) ∧
      (∀ p entry, d.find p = .ok entry → c.disk.find p = .ok entry) ∧
      (∀ f, (c.writer.write c.disk e).writer.current = some f → c.disk.files.length ≤ f.id →
        ¬ c.disk.Occupied f.path ∧ ∃ n, t.FirstFree made (e.time.date zone) start n ∧
          f.path = t.filePath (e.time.date zone) (start + UInt64.ofNat n)) ∧
      (c.writer.needsFile e = true → (c.disk.makeDirectories t.dir).2 = .ok () →
        (∃ n ≤ made.entries.size, t.FirstFree made (e.time.date zone) start n ∧
          Settles made (t.filePath (e.time.date zone) (start + UInt64.ofNat n))
            (c.writer.write c.disk e)) ∨
        (∀ suffix, made.Occupied (t.filePath (e.time.date zone) suffix)) ∧
          UInt64.size ≤ made.entries.size) := by
  intro c t made start
  have hcareful : Careful d { target, zone } c.disk c.writer := careful_course d _ calls
  have hkeeps := hcareful.spares.keeps
  have hzone : c.writer.zone = zone := hcareful.zone
  refine ⟨fun k hk => ?_, fun p entry hfind => Disk.find_of_keeps hkeeps hfind, ?_, ?_⟩
  · rw [hcareful.spares.body k hk (fun ⟨f, hf, _⟩ => by cases hf)]
  · intro f hf hid
    have hheld : ∀ k, c.writer.Holds k → k < c.disk.files.length := by
      intro k hk
      rcases hcareful.holds k hk with ⟨g, hg, -⟩ | ⟨-, hlt⟩
      · cases hg
      · exact hlt
    have hnew := firstFree_of_write hheld hf hid
    rw [hzone] at hnew
    exact hnew
  · intro hneeds hdirectories
    by_cases hfree : ∃ suffix, ¬ made.Occupied (t.filePath (e.time.date zone) suffix)
    · obtain ⟨suffix, hfree⟩ := hfree
      obtain ⟨n, hn, hfirst⟩ := Target.exists_firstFree start hfree
      have hmade := (Disk.keeps_makeDirectories c.disk t.dir).1
      have hrefuses : made.refusesFiles ≠ some .taken := by
        rw [hmade.refusesFiles, hkeeps.refusesFiles]
        exact hsystem
      have hsettled := settles_write hneeds (Prod.ext rfl hdirectories) hrefuses hn (hzone ▸ hfirst)
      rw [hzone] at hsettled
      exact .inl ⟨n, hn, hfirst, hsettled⟩
    · simp only [not_exists, not_not] at hfree
      exact .inr ⟨hfree, Target.size_of_all_taken hfree⟩

private def service : Target := ⟨⟨Text.encode "logs".toList⟩, "app"⟩

private def started : Event := ⟨0, .info, ⟨1704103200000000000⟩, "svc", "up"⟩

private def leftover : Disk :=
  let name : Name := Text.encode (service.fileName ⟨2024, 1, 1⟩ 0x18CC4774500)
  (({ files := [⟨[[0x6F]], false⟩] } : Disk).place [service.dir.bytes] .directory).place
    [service.dir.bytes, name] (.file 0)

private def onceClosed : Course := course leftover { target := service } [.write started, .close]

private theorem opened_third :
    (onceClosed.writer.write onceClosed.disk started).writer.current.map (fun f => (f.id, f.path)) =
      some (2, service.filePath ⟨2024, 1, 1⟩ 0x18CC4774502) := by cbv

/-- Of two files that are opened in the millisecond the second gets the third name. -/
theorem no_file_overwritten_at_third_name :
    leftover.refusesFiles ≠ some .taken ∧ (onceClosed.disk.body 0).bytes = [0x6F] ∧
      ¬ onceClosed.disk.Occupied (service.filePath ⟨2024, 1, 1⟩ 0x18CC4774502) := by
  have hsystem : leftover.refusesFiles ≠ some .taken := by decide
  obtain ⟨hbytes, -, hopened, -⟩ :=
    no_file_overwritten leftover service {} [.write started, .close] started hsystem
  obtain ⟨f, hf, hshown⟩ := Option.map_eq_some_iff.mp opened_third
  obtain ⟨hid, hpath⟩ := Prod.mk.inj hshown
  have hlength : onceClosed.disk.files.length = 2 := by cbv
  refine ⟨hsystem, hbytes 0 (by decide), ?_⟩
  rw [← hpath]
  exact (hopened f hf (by rw [hid]; exact hlength.le)).1

end Rolling

end EventLog
