import EventLog.Proofs.Rolling.Contents
import EventLog.Proofs.Rolling.History

/-! A disk that refuses bytes: whatever a writer is asked to do there, no file gets any. -/
namespace EventLog

namespace OpenFile

variable {d : Disk} {f : OpenFile} {fault : Fault}

private theorem append_refused (h : d.refusesBytes = some fault) {id : Nat} {bytes : List UInt8}
    {after : Disk} (ha : d.append id bytes = .ok after) : after = d := by
  unfold Disk.append at ha
  split at ha
  · cases ha
    rfl
  · rw [h] at ha
    cases ha

private theorem drain_refused (h : d.refusesBytes = some fault) : (f.drain d).1 = d := by
  unfold drain
  split
  · next after heq => exact append_refused h heq
  · rfl

private theorem put_refused (h : d.refusesBytes = some fault) (piece : List UInt8) :
    (f.put d piece).1 = d := by
  have hcleared : ∃ g cleared,
      (if piece.length > capacity - f.waiting.size then f.drain d else (d, f, .ok ())) =
        (d, g, cleared) := by
    split
    · exact ⟨_, _, Prod.ext (drain_refused h) rfl⟩
    · exact ⟨_, _, rfl⟩
  obtain ⟨g, cleared, heq⟩ := hcleared
  unfold put
  simp only [heq]
  split
  · rfl
  · split
    · split
      · next after ha => exact append_refused h ha
      · rfl
    · rfl

private theorem putAll_refused (h : d.refusesBytes = some fault) (pieces : List (List UInt8)) :
    (f.putAll d pieces).1 = d := by
  induction pieces generalizing f with
  | nil => rfl
  | cons piece rest ih =>
    have hput := put_refused (f := f) h piece
    unfold putAll
    split
    · next d₁ g heq =>
      rw [heq] at hput
      rw [show d₁ = d from hput]
      exact ih
    · next heq =>
      rw [heq] at hput
      exact hput

end OpenFile

namespace Disk

/-- No file of `d` has got a byte by `after`, and none will. -/
structure Barred (d after : Disk) : Prop where
  refuses : ∃ fault, after.refusesBytes = some fault
  bytes : ∀ k, (after.body k).bytes = (d.body k).bytes

variable {d d' d'' : Disk} {fault : Fault}

theorem Barred.refl (h : d.refusesBytes = some fault) : d.Barred d := ⟨⟨fault, h⟩, fun _ => rfl⟩

theorem Barred.trans (h : d.Barred d') (h' : d'.Barred d'') : d.Barred d'' :=
  ⟨h'.refuses, fun k => (h'.bytes k).trans (h.bytes k)⟩

theorem Barred.openFile (h : d.refusesBytes = some fault) (t : Target) (zone : Zone)
    (time : Instant) : d.Barred (t.openFile d zone time).1 := by
  obtain ⟨after, opened, ho⟩ : ∃ after opened, t.openFile d zone time = (after, opened) :=
    ⟨_, _, rfl⟩
  rw [ho]
  cases opened with
  | error error =>
    obtain ⟨keeps, files⟩ := Target.openFile_eq_error ho
    exact ⟨⟨fault, keeps.refusesBytes.trans h⟩, fun k => by rw [body, body, files]⟩
  | ok f =>
    obtain ⟨keeps, files, -, -⟩ := Target.openFile_eq_ok ho
    exact ⟨⟨fault, keeps.refusesBytes.trans h⟩, bytes_of_files_append files⟩

end Disk

namespace Rolling
open Disk (Barred)

variable {d : Disk} {w : Rolling} {fault : Fault}

private theorem writeTo_refused (h : d.refusesBytes = some fault) (f : OpenFile) (e : Event) :
    (w.writeTo d f e).disk = d := OpenFile.putAll_refused h _

private theorem barred_write (h : d.refusesBytes = some fault) (e : Event) :
    d.Barred (w.write d e).disk := by
  have hopen := Barred.openFile h w.target w.zone e.time
  unfold write
  split
  · rw [writeTo_refused h]
    exact .refl h
  · split
    · next heq =>
      rw [heq] at hopen
      exact hopen
    · next d₁ f heq =>
      rw [heq] at hopen
      obtain ⟨fault', h'⟩ := hopen.refuses
      split
      · rw [writeTo_refused h']
        exact hopen
      · simp only [writeTo_refused h', OpenFile.drain_refused h']
        exact hopen

private theorem flush_refused (h : d.refusesBytes = some fault) : (w.flush d).disk = d := by
  unfold flush
  split
  · rfl
  · exact OpenFile.drain_refused h

private theorem close_refused (h : d.refusesBytes = some fault) : (w.close d).disk = d := by
  unfold close
  split
  · rfl
  · exact OpenFile.drain_refused h

private theorem barred_call (h : d.refusesBytes = some fault) (c : Call) :
    d.Barred (c.run d w).disk := by
  have hsame {after : Disk} (hd : after = d) : d.Barred after := by
    rw [hd]
    exact .refl h
  cases c with
  | write e => exact barred_write h e
  | flush => exact hsame (flush_refused h)
  | close => exact hsame (close_refused h)
  | redirect next => exact hsame (close_refused h)

/-- On a disk that refuses bytes a run leaves every file as it was, and the files it makes empty. -/
theorem barred_course (calls : List Call) {d : Disk} {w : Rolling} {fault : Fault}
    (h : d.refusesBytes = some fault) : d.Barred (course d w calls).disk := by
  induction calls generalizing d w fault with
  | nil => exact .refl h
  | cons c rest ih =>
    have hcall := barred_call (w := w) h c
    obtain ⟨fault', h'⟩ := hcall.refuses
    exact hcall.trans (ih h')

end Rolling

end EventLog
