import EventLog.Proofs.Disk.Growth
import EventLog.Proofs.Rolling.FileNames

/-! What a writer has taken for every file: the bytes on the disk and those that still wait. On a
disk that takes bytes, writing an event adds its lines to one file, and nothing else adds any. -/
namespace EventLog

namespace Disk

/-- `after` is `d` with some more bytes in one file. -/
structure Appended (id : Nat) (bytes : List UInt8) (d after : Disk) : Prop
    extends SameSettings d after where
  entries : after.entries = d.entries
  length : after.files.length = d.files.length
  body : ∀ k, (after.body k).bytes = (d.body k).bytes ++ if k = id then bytes else []

theorem Appended.refl (id : Nat) (d : Disk) : Appended id [] d d :=
  ⟨.refl d, rfl, rfl, by simp⟩

theorem Appended.trans {id : Nat} {bytes more : List UInt8} {d d' d'' : Disk}
    (h : Appended id bytes d d') (h' : Appended id more d' d'') :
    Appended id (bytes ++ more) d d'' where
  toSameSettings := h.toSameSettings.trans h'.toSameSettings
  entries := h'.entries.trans h.entries
  length := h'.length.trans h.length
  body k := by
    rw [h'.body, h.body]
    split <;> simp

private theorem Appended.keeps {id : Nat} {bytes : List UInt8} {d after : Disk}
    (h : Appended id bytes d after) : d.Keeps after := by
  refine ⟨h.toSameSettings, fun {loc e} he => ?_⟩
  cases loc with
  | nil => exact he
  | cons name rest =>
    simp only [Disk.entry?, h.entries] at he ⊢
    exact he

private theorem append_ok {d : Disk} (h : d.refusesBytes = none) {id : Nat}
    (hid : id < d.files.length) (bytes : List UInt8) :
    ∃ after, d.append id bytes = .ok after ∧ Appended id bytes d after := by
  by_cases hb : bytes = []
  · subst hb
    exact ⟨d, if_pos rfl, .refl id d⟩
  · refine ⟨{ d with files := d.files.modify id fun f => f.append bytes }, by simp [append, hb, h],
      ⟨rfl, rfl, rfl, rfl⟩, rfl, by simp, fun k => ?_⟩
    by_cases hk : k = id
    · subst hk
      simp [body, List.getD_eq_getElem?_getD, List.getElem?_eq_getElem hid]
    · simp [body, List.getD_eq_getElem?_getD, hk, Ne.symm hk]

/-- A new file has no bytes yet. -/
theorem bytes_of_files_append {d after : Disk} (h : after.files = d.files ++ [({} : FileBody)])
    (k : Nat) : (after.body k).bytes = (d.body k).bytes := by
  rcases Nat.lt_trichotomy k d.files.length with hk | hk | hk
  · simp [body, h, List.getD_eq_getElem?_getD, List.getElem?_append_left hk]
  · simp [body, h, List.getD_eq_getElem?_getD, hk]
  · have hlen : (d.files ++ [({} : FileBody)]).length ≤ k := by simp; omega
    simp [body, h, List.getD_eq_getElem?_getD, List.getElem?_eq_none hlen,
      List.getElem?_eq_none (Nat.le_of_lt hk)]

end Disk

namespace OpenFile
open Disk (Appended)

variable {d : Disk} {f : OpenFile}

private theorem drain_ok (h : d.refusesBytes = none) (hid : f.id < d.files.length) :
    ∃ after, f.drain d = (after, { f with waiting := #[] }, .ok ()) ∧
      Appended f.id f.waiting.toList d after := by
  obtain ⟨after, heq, happ⟩ := Disk.append_ok h hid f.waiting.toList
  exact ⟨after, by simp [drain, heq], happ⟩

/-- A piece is taken whole: part of all that waited goes to the disk, and the rest waits. -/
theorem put_ok (h : d.refusesBytes = none) (hid : f.id < d.files.length) (piece : List UInt8) :
    ∃ after sent waiting, f.put d piece = (after, { f with waiting }, .ok ()) ∧
      Appended f.id sent d after ∧ sent ++ waiting.toList = f.waiting.toList ++ piece := by
  by_cases hfull : piece.length > capacity - f.waiting.size
  · obtain ⟨d₁, heq₁, happ₁⟩ := drain_ok h hid
    by_cases hbig : piece.length ≥ capacity
    · obtain ⟨d₂, heq₂, happ₂⟩ := Disk.append_ok (happ₁.refusesBytes.trans h)
        (by rw [happ₁.length]; exact hid) piece
      refine ⟨d₂, _, #[], ?_, happ₁.trans happ₂, by simp⟩
      simp [put, hfull, heq₁, hbig, heq₂]
    · refine ⟨d₁, _, piece.toArray, ?_, happ₁, by simp⟩
      simp [put, hfull, heq₁, hbig]
  · by_cases hbig : piece.length ≥ capacity
    · have hempty : f.waiting.size = 0 := by
        simp only [capacity] at hfull hbig
        omega
      obtain ⟨d₂, heq₂, happ₂⟩ := Disk.append_ok h hid piece
      refine ⟨d₂, piece, f.waiting, ?_, happ₂, ?_⟩
      · simp [put, hfull, hbig, heq₂]
      · simp [Array.eq_empty_of_size_eq_zero hempty]
    · refine ⟨d, [], f.waiting ++ piece, ?_, .refl _ d, by simp⟩
      simp [put, hfull, hbig]

private theorem putAll_ok (h : d.refusesBytes = none) (hid : f.id < d.files.length)
    (pieces : List (List UInt8)) :
    ∃ after sent waiting, f.putAll d pieces = (after, { f with waiting }, .ok ()) ∧
      Appended f.id sent d after ∧ sent ++ waiting.toList = f.waiting.toList ++ pieces.flatten := by
  induction pieces generalizing d f with
  | nil => exact ⟨d, [], f.waiting, rfl, .refl _ d, by simp⟩
  | cons piece rest ih =>
    obtain ⟨d₁, sent₁, waiting₁, heq₁, happ₁, hsum₁⟩ := put_ok h hid piece
    obtain ⟨d₂, sent₂, waiting₂, heq₂, happ₂, hsum₂⟩ :=
      ih (d := d₁) (f := { f with waiting := waiting₁ }) (happ₁.refusesBytes.trans h)
        (by rw [happ₁.length]; exact hid)
    refine ⟨d₂, sent₁ ++ sent₂, waiting₂, by rw [putAll, heq₁]; exact heq₂, happ₁.trans happ₂, ?_⟩
    rw [List.append_assoc, hsum₂, ← List.append_assoc, hsum₁]
    simp

end OpenFile

namespace Target

variable {t : Target} {d : Disk} {zone : Zone} {time : Instant}

theorem createFrom_eq_ok {date : Date} {tries : Nat} {suffix : UInt64} {id : Nat}
    {path : Path} {after : Disk} (h : t.createFrom d date tries suffix = .ok (id, path, after)) :
    ∃ chosen, path = t.filePath date chosen ∧ d.createFile path = .ok (id, after) := by
  fun_induction createFrom t d date tries suffix with
  | case1 => cases h
  | case2 tries suffix id after hc => cases h; exact ⟨suffix, rfl, hc⟩
  | case3 tries suffix _ ih => exact ih h
  | case4 => cases h

/-- A log file that was opened is a new one, with the next number, and stands at its path. -/
theorem openFile_eq_ok {after : Disk} {f : OpenFile}
    (h : t.openFile d zone time = (after, .ok f)) :
    d.Keeps after ∧ after.files = d.files ++ [({} : FileBody)] ∧
      (∃ suffix, f = ⟨d.files.length, t.filePath (time.date zone) suffix, time.weekday zone, #[]⟩) ∧
      after.find f.path = .ok (.file f.id) := by
  have hmake := Disk.keeps_makeDirectories d t.dir
  unfold openFile at h
  split at h
  · cases h
  · next d₁ heq =>
    rw [heq] at hmake
    split at h
    · cases h
    · next id path d₂ hcreate =>
      cases h
      obtain ⟨suffix, rfl, hfile⟩ := createFrom_eq_ok hcreate
      obtain ⟨rfl, hfiles, hkeeps, -⟩ := Disk.createFile_eq_ok hfile
      refine ⟨hmake.1.trans hkeeps, by rw [hfiles, hmake.2], ⟨suffix, by rw [hmake.2]⟩, ?_⟩
      exact Disk.find_of_createFile hfile (endsInSlash_filePath _ _ _)

/-- A log file that could not be opened leaves at most directories behind. -/
theorem openFile_eq_error {after : Disk} {error : Error}
    (h : t.openFile d zone time = (after, .error error)) :
    d.Keeps after ∧ after.files = d.files := by
  have hmake := Disk.keeps_makeDirectories d t.dir
  unfold openFile at h
  split at h
  · next d₁ fault heq =>
    cases h
    rwa [heq] at hmake
  · next d₁ heq =>
    rw [heq] at hmake
    split at h
    · cases h
      exact hmake
    · cases h

end Target

namespace Rolling

def waitingFor (w : Rolling) (k : Nat) : List UInt8 :=
  match w.current with
  | some f => if k = f.id then f.waiting.toList else []
  | none => []

/-- The bytes that a file has or is to get. -/
def contents (d : Disk) (w : Rolling) (k : Nat) : List UInt8 := (d.body k).bytes ++ w.waitingFor k

/-- A disk that takes bytes, with the open file on it. -/
structure Ready (d : Disk) (w : Rolling) : Prop where
  takesBytes : d.refusesBytes = none
  isOpen : ∀ f, w.current = some f → f.id < d.files.length

theorem Ready.of_files {d d' : Disk} {w : Rolling} (h : Ready d w) (files : d'.files = d.files)
    (takes : d'.refusesBytes = d.refusesBytes) : Ready d' w := by
  refine ⟨takes.trans h.takesBytes, ?_⟩
  rw [files]
  exact h.isOpen

theorem contents_of_files {d d' : Disk} (files : d'.files = d.files) (w : Rolling) (k : Nat) :
    contents d' w k = contents d w k := by
  rw [contents, contents, Disk.body, Disk.body, files]

/-- An operation that went well and added nothing to any file. -/
structure Settled (d : Disk) (w : Rolling) (r : Rolled) : Prop where
  result : r.result = .ok ()
  aside : r.aside = []
  ready : Ready r.disk r.writer
  keeps : d.Keeps r.disk
  length : r.disk.files.length = d.files.length
  contents : ∀ k, contents r.disk r.writer k = contents d w k

/-- An operation that went well and added the lines of an event to the file that is open then. -/
structure Took (d : Disk) (w : Rolling) (e : Event) (r : Rolled) (f : OpenFile) : Prop where
  result : r.result = .ok ()
  aside : r.aside = []
  writer : r.writer = { w with current := some f }
  ready : Ready r.disk r.writer
  keeps : d.Keeps r.disk
  weekday : f.weekday = e.time.weekday w.zone
  contents : ∀ k, contents r.disk r.writer k =
    contents d w k ++ if k = f.id then Text.encode (e.lines w.zone) else []

variable {d : Disk} {w : Rolling} {e : Event} {f : OpenFile}

theorem Took.zone {r : Rolled} (h : Took d w e r f) : r.writer.zone = w.zone := by rw [h.writer]

theorem Took.target {r : Rolled} (h : Took d w e r f) : r.writer.target = w.target := by
  rw [h.writer]

private theorem bytes_drained {after : Disk} (hf : w.current = some f)
    (happ : Disk.Appended f.id f.waiting.toList d after) (k : Nat) :
    (after.body k).bytes = contents d w k := by
  rw [happ.body, contents, waitingFor, hf]

theorem flush_settled (h : Ready d w) :
    Settled d w (w.flush d) ∧
      (w.flush d).writer = { w with current := w.current.map ({ · with waiting := #[] }) } := by
  cases hf : w.current with
  | none =>
    have hw : w.flush d = ⟨d, w, [], .ok ()⟩ := by simp [flush, hf]
    rw [hw]
    exact ⟨⟨rfl, rfl, h, .refl d, rfl, fun _ => rfl⟩, by cases w; cases hf; rfl⟩
  | some f =>
    have hid := h.isOpen f hf
    obtain ⟨after, heq, happ⟩ := OpenFile.drain_ok h.takesBytes hid
    have hw : w.flush d =
        ⟨after, { w with current := some { f with waiting := #[] } }, [], .ok ()⟩ := by
      simp [flush, hf, heq, Except.mapError]
    rw [hw]
    refine ⟨⟨rfl, rfl, ⟨happ.refusesBytes.trans h.takesBytes, ?_⟩, happ.keeps, happ.length, ?_⟩,
      rfl⟩
    · rintro g hg
      cases hg
      exact happ.length ▸ hid
    · intro k
      simp [contents, waitingFor, bytes_drained hf happ k, hf]

theorem close_settled (h : Ready d w) :
    Settled d w (w.close d) ∧ (w.close d).writer = { w with current := none } := by
  cases hf : w.current with
  | none =>
    have hw : w.close d = ⟨d, w, [], .ok ()⟩ := by simp [close, hf]
    rw [hw]
    exact ⟨⟨rfl, rfl, h, .refl d, rfl, fun _ => rfl⟩, by cases w; cases hf; rfl⟩
  | some f =>
    obtain ⟨after, heq, happ⟩ := OpenFile.drain_ok h.takesBytes (h.isOpen f hf)
    have hw : w.close d = ⟨after, { w with current := none }, [], .ok ()⟩ := by
      simp [close, hf, heq, Except.mapError]
    rw [hw]
    refine ⟨⟨rfl, rfl, ⟨happ.refusesBytes.trans h.takesBytes, ?_⟩, happ.keeps, happ.length, ?_⟩,
      rfl⟩
    · rintro g hg
      cases hg
    · intro k
      rw [contents, bytes_drained hf happ k]
      simp [waitingFor]

theorem redirect_settled (h : Ready d w) (target : Target) :
    Settled d w (w.redirect d target) ∧
      (w.redirect d target).writer = { w with target, current := none } := by
  have hc := close_settled (w := { w with target }) ⟨h.takesBytes, h.isOpen⟩
  exact ⟨⟨hc.1.result, hc.1.aside, hc.1.ready, hc.1.keeps, hc.1.length, hc.1.contents⟩, hc.2⟩

private theorem flatten_encode (zone : Zone) (e : Event) :
    ((e.pieces zone).map Text.encode).flatten = Text.encode (e.lines zone) := by
  simp only [Text.encode, Event.lines, List.flatMap_def, List.map_flatten, List.flatten_flatten,
    List.map_map]
  rfl

private theorem writeTo_ok (htakes : d.refusesBytes = none) (hid : f.id < d.files.length) :
    ∃ after sent waiting, w.writeTo d f e =
        ⟨after, { w with current := some { f with waiting } }, [], .ok ()⟩ ∧
      Disk.Appended f.id sent d after ∧
      sent ++ waiting.toList = f.waiting.toList ++ Text.encode (e.lines w.zone) := by
  obtain ⟨after, sent, waiting, heq, happ, hsum⟩ :=
    OpenFile.putAll_ok htakes hid ((e.pieces w.zone).map Text.encode)
  rw [flatten_encode] at hsum
  exact ⟨after, sent, waiting, by simp [writeTo, heq, Except.mapError], happ, hsum⟩

/-- An event of the weekday of the open file goes to that file. -/
theorem write_took (h : Ready d w) (hf : w.current = some f)
    (hday : f.weekday = e.time.weekday w.zone) :
    (w.write d e).disk.files.length = d.files.length ∧
      ∃ waiting, Took d w e (w.write d e) { f with waiting } := by
  have hid := h.isOpen f hf
  obtain ⟨after, sent, waiting, heq, happ, hsum⟩ := writeTo_ok (w := w) (e := e) h.takesBytes hid
  have hneeds : w.needsFile e = false := by simp [needsFile, hf, hday]
  have hw : w.write d e = w.writeTo d f e := by
    unfold write
    rw [hf, hneeds]
  rw [hw, heq]
  refine ⟨happ.length, waiting, rfl, rfl, rfl, ⟨happ.refusesBytes.trans h.takesBytes, ?_⟩,
    happ.keeps, hday, fun k => ?_⟩
  · rintro g hg
    cases hg
    exact happ.length ▸ hid
  · by_cases hk : k = f.id
    · simp [contents, waitingFor, hf, happ.body, hk, hsum]
    · simp [contents, waitingFor, hf, happ.body, hk]

/-- An event that needs a file and gets none is dropped. -/
theorem write_refused {after : Disk} (hn : w.needsFile e = true) {error : Error}
    (ho : w.target.openFile d w.zone e.time = (after, .error error)) :
    w.write d e = ⟨after, w, [], .error error⟩ := by
  unfold write
  rw [hn]
  split
  · next heq => cases heq
  · rw [ho]

private theorem waitingFor_new (h : Ready d w) {k : Nat} (hk : d.files.length ≤ k) :
    w.waitingFor k = [] := by
  unfold waitingFor
  split
  · next old hold =>
    have := h.isOpen old hold
    rw [if_neg (by omega)]
  · rfl

/-- A file that is still to be made has no bytes and none that wait for it. -/
theorem contents_new (h : Ready d w) {k : Nat} (hk : d.files.length ≤ k) :
    contents d w k = [] := by
  rw [contents, waitingFor_new h hk, List.append_nil, Disk.body, List.getD_eq_getElem?_getD,
    List.getElem?_eq_none hk]
  rfl

private theorem write_new {d₁ : Disk} (hn : w.needsFile e = true)
    (ho : w.target.openFile d w.zone e.time = (d₁, .ok f)) (htakes : d₁.refusesBytes = none)
    (hold : ∀ old, w.current = some old → old.id < d₁.files.length)
    (hid : f.id < d₁.files.length) :
    ∃ d₂ d₃ sent waiting,
      w.write d e = ⟨d₃, { w with current := some { f with waiting } }, [], .ok ()⟩ ∧
      Disk.Appended f.id sent d₁ d₂ ∧
      sent ++ waiting.toList = f.waiting.toList ++ Text.encode (e.lines w.zone) ∧
      d₂.Keeps d₃ ∧ d₃.files.length = d₂.files.length ∧
      ∀ k, (d₃.body k).bytes = (d₂.body k).bytes ++ w.waitingFor k := by
  obtain ⟨d₂, sent, waiting, heq, happ, hsum⟩ := writeTo_ok (w := w) (e := e) htakes hid
  cases hf : w.current with
  | none =>
    refine ⟨d₂, d₂, sent, waiting, ?_, happ, hsum, .refl d₂, rfl, fun k => ?_⟩
    · rw [← heq]
      unfold write
      rw [hn, hf, ho]
    · rw [waitingFor, hf, List.append_nil]
  | some old =>
    obtain ⟨d₃, heq₃, happ₃⟩ := OpenFile.drain_ok (f := old) (happ.refusesBytes.trans htakes)
      (by rw [happ.length]; exact hold old hf)
    refine ⟨d₂, d₃, sent, waiting, ?_, happ, hsum, happ₃.keeps, happ₃.length, fun k => ?_⟩
    · unfold write
      rw [hn, hf, ho]
      simp only [heq, heq₃]
    · rw [happ₃.body, waitingFor, hf]

/-- An event that needs a file and gets one is the first in it, and the file before is closed. -/
theorem write_opened {d₁ : Disk} (h : Ready d w) (hn : w.needsFile e = true)
    (ho : w.target.openFile d w.zone e.time = (d₁, .ok f)) :
    (w.write d e).disk.files.length = d.files.length + 1 ∧
      (∃ waiting, Took d w e (w.write d e) { f with waiting }) ∧
      (w.write d e).disk.find f.path = .ok (.file f.id) := by
  obtain ⟨hkeeps, hfiles, ⟨suffix, hnew⟩, hfind⟩ := Target.openFile_eq_ok ho
  have hid : f.id = d.files.length := by rw [hnew]
  have hday : f.weekday = e.time.weekday w.zone := by rw [hnew]
  have hlength : d₁.files.length = d.files.length + 1 := by simp [hfiles]
  have htakes := hkeeps.refusesBytes.trans h.takesBytes
  obtain ⟨d₂, d₃, sent, waiting, heq, happ, hsum, hkeeps₃, hlength₃, hbody₃⟩ :=
    write_new hn ho htakes (fun old hold => by have := h.isOpen old hold; omega) (by omega)
  have hkeepsAll := hkeeps.trans (happ.keeps.trans hkeeps₃)
  have hlengthAll : d₃.files.length = d.files.length + 1 := by
    rw [hlength₃, happ.length, hlength]
  rw [heq]
  refine ⟨hlengthAll, ⟨waiting, rfl, rfl, rfl, ⟨hkeepsAll.refusesBytes.trans h.takesBytes, ?_⟩,
    hkeepsAll, hday, fun k => ?_⟩, Disk.find_of_keeps (happ.keeps.trans hkeeps₃) hfind⟩
  · rintro g hg
    cases hg
    simp only
    omega
  · rw [contents, hbody₃, happ.body, Disk.bytes_of_files_append hfiles, contents]
    by_cases hk : k = f.id
    · rw [waitingFor_new h (show d.files.length ≤ k by omega)]
      have hlines : sent ++ waiting.toList = Text.encode (e.lines w.zone) := by
        rw [hsum, hnew]
        rfl
      simp [waitingFor, hk, hlines]
    · simp [waitingFor, hk]

private theorem needsFile_eq_false (h : w.needsFile e = false) :
    ∃ f, w.current = some f ∧ f.weekday = e.time.weekday w.zone := by
  unfold needsFile at h
  split at h
  · next f hf => exact ⟨f, hf, by simpa using h⟩
  · cases h

/-- All that can become of an event: it goes to the open file, or to a new one, or gets none. -/
theorem write_cases (h : Ready d w) (e : Event) :
    (∃ f waiting, w.current = some f ∧ (w.write d e).disk.files.length = d.files.length ∧
        Took d w e (w.write d e) { f with waiting }) ∨
      (∃ d₁ f waiting, w.needsFile e = true ∧
        w.target.openFile d w.zone e.time = (d₁, .ok f) ∧
        (w.write d e).disk.files.length = d.files.length + 1 ∧
        Took d w e (w.write d e) { f with waiting } ∧
        (w.write d e).disk.find f.path = .ok (.file f.id)) ∨
      ∃ d₁ error, w.needsFile e = true ∧
        w.target.openFile d w.zone e.time = (d₁, .error error) ∧
        w.write d e = ⟨d₁, w, [], .error error⟩ := by
  cases hn : w.needsFile e with
  | false =>
    obtain ⟨f, hf, hday⟩ := needsFile_eq_false hn
    obtain ⟨hlength, waiting, ht⟩ := write_took h hf hday
    exact .inl ⟨f, waiting, hf, hlength, ht⟩
  | true =>
    obtain ⟨d₁, opened, ho⟩ : ∃ d₁ opened, w.target.openFile d w.zone e.time = (d₁, opened) :=
      ⟨_, _, rfl⟩
    cases opened with
    | error error => exact .inr (.inr ⟨d₁, error, rfl, ho, write_refused hn ho⟩)
    | ok f =>
      obtain ⟨hlength, ⟨waiting, ht⟩, hfind⟩ := write_opened h hn ho
      exact .inr (.inl ⟨d₁, f, waiting, rfl, ho, hlength, ht, hfind⟩)

end Rolling

end EventLog
