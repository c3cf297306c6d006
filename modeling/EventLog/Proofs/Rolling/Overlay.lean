import EventLog.Proofs.Disk.Directories
import EventLog.Proofs.Rolling.Delivery
import EventLog.Proofs.Rolling.Search

/-! A writer on a disk and on the same disk with some directories more. As long as it gets the files
that it needs, both times the same bytes go to the same files. -/
namespace EventLog
open Disk (Overlaid)

namespace OpenFile

/-- The outcomes of a call on both disks differ in nothing but the directories. -/
structure Matched {α : Type} (r r' : Disk × α) : Prop where
  same : r'.2 = r.2
  overlaid : r.1.Overlaid r'.1

variable {d after : Disk}

private theorem drain_matched (h : d.Overlaid after) (f : OpenFile) :
    Matched (f.drain d) (f.drain after) := by
  unfold drain
  rcases h.append f.id f.waiting.toList with ⟨fault, heq, heq'⟩ | ⟨d', after', heq, heq', hd⟩
  · rw [heq, heq']
    exact ⟨rfl, h⟩
  · rw [heq, heq']
    exact ⟨rfl, hd⟩

private theorem put_matched (h : d.Overlaid after) (f : OpenFile) (piece : List UInt8) :
    Matched (f.put d piece) (f.put after piece) := by
  have hcleared : Matched
      (if piece.length > capacity - f.waiting.size then f.drain d else (d, f, .ok ()))
      (if piece.length > capacity - f.waiting.size then f.drain after else (after, f, .ok ())) := by
    split
    · exact drain_matched h f
    · exact ⟨rfl, h⟩
  unfold put
  simp only
  generalize (if piece.length > capacity - f.waiting.size then f.drain d else (d, f, .ok ())) = r
    at hcleared
  generalize (if piece.length > capacity - f.waiting.size then f.drain after
    else (after, f, .ok ())) = r' at hcleared
  obtain ⟨d₁, g, cleared⟩ := r
  obtain ⟨after₁, g', cleared'⟩ := r'
  obtain ⟨hsame, hd⟩ := hcleared
  cases hsame
  cases cleared with
  | error fault => exact ⟨rfl, hd⟩
  | ok _ =>
    simp only
    split
    · rcases hd.append g.id piece with ⟨fault, heq, heq'⟩ | ⟨d₂, after₂, heq, heq', hd'⟩
      · rw [heq, heq']
        exact ⟨rfl, hd⟩
      · rw [heq, heq']
        exact ⟨rfl, hd'⟩
    · exact ⟨rfl, hd⟩

private theorem putAll_matched (h : d.Overlaid after) (f : OpenFile) (pieces : List (List UInt8)) :
    Matched (f.putAll d pieces) (f.putAll after pieces) := by
  induction pieces generalizing d after f with
  | nil => exact ⟨rfl, h⟩
  | cons piece rest ih =>
    obtain ⟨hsame, hd⟩ := put_matched h f piece
    unfold putAll
    generalize f.put d piece = r at hsame hd
    generalize f.put after piece = r' at hsame hd
    obtain ⟨d₁, g, result⟩ := r
    obtain ⟨after₁, g', result'⟩ := r'
    cases hsame
    cases result with
    | error fault => exact ⟨rfl, hd⟩
    | ok _ => exact ih hd g

end OpenFile

namespace Target

variable {t : Target} {d after : Disk} {zone : Zone} {time : Instant}

private theorem FirstFree.unique {date : Date} {start : UInt64} {m n : Nat}
    (h : t.FirstFree d date start m) (h' : t.FirstFree d date start n) : m = n := by
  rcases Nat.lt_trichotomy m n with hlt | heq | hlt
  · exact absurd (h'.taken m hlt) h.free
  · exact heq
  · exact absurd (h.taken n hlt) h'.free

private theorem exists_log_filePath (t : Target) (date : Date) (suffix : UInt64) :
    ∃ front, (t.filePath date suffix).names.getLast? =
      some (front ++ Disk.logExtension) := by
  refine ⟨Path.lastPiece (Text.encode t.stem.toList) ++
    Text.encode ('.' :: date.text ++ '.' :: Text.hex16 suffix), ?_⟩
  rw [getLast?_names_filePath, logName, ending, Text.encode_append, List.append_assoc]
  rfl

/-- The same log file is opened on both disks: what was free at its path is free there still. -/
theorem openFile_matched (h : d.Overlaid after) (hdir : d.find t.dir = .ok .directory)
    {made : Disk} {f : OpenFile} (ho : t.openFile d zone time = (made, .ok f)) :
    ∃ made', t.openFile after zone time = (made', .ok f) ∧ made.Overlaid made' := by
  have hthere' := Disk.makeDirectories_of_find (Disk.find_of_keeps h.keeps hdir)
  unfold openFile at ho
  rw [Disk.makeDirectories_of_find hdir] at ho
  simp only at ho
  split at ho
  · cases ho
  · next id path created hcreate =>
    cases ho
    obtain ⟨n, hfirst, hpath⟩ := firstFree_of_createFrom hcreate
    obtain ⟨chosen, rfl, hmade⟩ := createFrom_eq_ok hcreate
    obtain ⟨made', hmade', hover⟩ := h.createFile (exists_log_filePath t _ chosen) hmade
    obtain ⟨hrefuses, hfree⟩ := Disk.not_occupied_of_createFile hmade'
    have hfirst' : t.FirstFree after (time.date zone) (UInt64.ofInt time.millis) n :=
      ⟨fun m hm => (hfirst.taken m hm).of_keeps h.keeps, hpath ▸ hfree⟩
    obtain ⟨k, hk, hfirstk⟩ := exists_firstFree (UInt64.ofInt time.millis) (hpath ▸ hfree)
    obtain rfl := hfirst'.unique hfirstk
    have hsearch := createFrom_of_firstFree (by simp [hrefuses]) hfirst' (Nat.lt_succ_of_le hk)
    rw [createAt, ← hpath, hmade'] at hsearch
    refine ⟨made', ?_, hover⟩
    unfold openFile
    rw [hthere']
    simp only [hsearch]

end Target

namespace Rolling
open OpenFile (drain_matched putAll_matched)

/-- What a call of the writer leaves behind differs in nothing but the directories. -/
structure Matched (r r' : Rolled) : Prop where
  same : r' = { r with disk := r'.disk }
  overlaid : r.disk.Overlaid r'.disk

variable {d after : Disk} {w : Rolling}

private theorem writeTo_matched (h : d.Overlaid after) (w : Rolling) (f : OpenFile) (e : Event) :
    Matched (w.writeTo d f e) (w.writeTo after f e) := by
  obtain ⟨hsame, hd⟩ := putAll_matched h f ((e.pieces w.zone).map Text.encode)
  unfold writeTo
  simp only [hsame]
  exact ⟨rfl, hd⟩

theorem flush_matched (h : d.Overlaid after) (w : Rolling) :
    Matched (w.flush d) (w.flush after) := by
  unfold flush
  split
  · exact ⟨rfl, h⟩
  · next f _ =>
    obtain ⟨hsame, hd⟩ := drain_matched h f
    simp only [hsame]
    exact ⟨rfl, hd⟩

theorem close_matched (h : d.Overlaid after) (w : Rolling) :
    Matched (w.close d) (w.close after) := by
  unfold close
  split
  · exact ⟨rfl, h⟩
  · next f _ =>
    obtain ⟨hsame, hd⟩ := drain_matched h f
    simp only [hsame]
    exact ⟨rfl, hd⟩

/-- An event that gets the file it needs goes to the same file on both disks. -/
theorem write_matched (h : d.Overlaid after) (hdir : d.find w.target.dir = .ok .directory)
    {e : Event} (hgets : w.getsFile d e = true) : Matched (w.write d e) (w.write after e) := by
  unfold write
  split
  · next f _ _ => exact writeTo_matched h w f e
  · next hneeds =>
    have hopens : (w.target.openFile d w.zone e.time).2.isOk = true := by
      cases hn : w.needsFile e with
      | true => simpa [getsFile, hn] using hgets
      | false =>
        obtain ⟨f, hf⟩ : ∃ f, w.current = some f := by
          refine Option.ne_none_iff_exists'.mp fun hnone => ?_
          simp [needsFile, hnone] at hn
        exact (hneeds f hf hn).elim
    cases ho : w.target.openFile d w.zone e.time with
    | mk made result =>
      rw [ho] at hopens
      cases result with
      | error error => cases hopens
      | ok f =>
        obtain ⟨made', ho', hover⟩ := Target.openFile_matched h hdir ho
        obtain ⟨hsame, hd⟩ := writeTo_matched hover w f e
        simp only [ho']
        split
        · exact ⟨hsame, hd⟩
        · next old _ =>
          obtain ⟨hold, hd'⟩ := drain_matched hd old
          simp only [hold]
          rw [hsame]
          exact ⟨rfl, hd'⟩

end Rolling

end EventLog
