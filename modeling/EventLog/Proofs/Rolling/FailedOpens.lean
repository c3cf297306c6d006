import EventLog.Proofs.Rolling.NewFiles
import Mathlib

/-! Files that could not be opened. An event that was to get one is dropped and leaves nothing but
directories behind, so that the open file goes on as if it had never come; the next event that needs
a file tries again. A file that is to be closed is left even if what waits for it cannot be sent. -/
namespace EventLog

namespace Disk

/-- Two disks with the same files that take bytes alike. -/
structure Alike (d d' : Disk) : Prop where
  files : d'.files = d.files
  takes : d'.refusesBytes = d.refusesBytes

variable {d d' : Disk}

private theorem Alike.append (h : d.Alike d') (id : Nat) (bytes : List UInt8) :
    (∃ fault, d.append id bytes = .error fault ∧ d'.append id bytes = .error fault) ∨
      ∃ after after', d.append id bytes = .ok after ∧ d'.append id bytes = .ok after' ∧
        after.Alike after' := by
  unfold Disk.append
  rw [h.takes]
  split
  · exact .inr ⟨d, d', rfl, rfl, h⟩
  · cases d.refusesBytes with
    | some fault => exact .inl ⟨fault, rfl, rfl⟩
    | none =>
      refine .inr ⟨_, _, rfl, rfl, ⟨?_, rfl⟩⟩
      simp only [h.files]

end Disk

namespace OpenFile
open Disk (Alike)

variable {d d' : Disk}

structure Matches (r r' : Disk × OpenFile × Except Fault Unit) : Prop where
  alike : r.1.Alike r'.1
  same : r'.2 = r.2

private theorem matches_drain (h : d.Alike d') (f : OpenFile) :
    Matches (f.drain d) (f.drain d') := by
  unfold drain
  rcases h.append f.id f.waiting.toList with ⟨fault, heq, heq'⟩ | ⟨after, after', heq, heq', halike⟩
  · rw [heq, heq']
    exact ⟨h, rfl⟩
  · rw [heq, heq']
    exact ⟨halike, rfl⟩

private theorem matches_put (h : d.Alike d') (f : OpenFile) (piece : List UInt8) :
    Matches (f.put d piece) (f.put d' piece) := by
  have hcleared : Matches
      (if piece.length > capacity - f.waiting.size then f.drain d else (d, f, .ok ()))
      (if piece.length > capacity - f.waiting.size then f.drain d' else (d', f, .ok ())) := by
    split
    · exact matches_drain h f
    · exact ⟨h, rfl⟩
  unfold put
  simp only
  generalize (if piece.length > capacity - f.waiting.size then f.drain d else (d, f, .ok ())) = r
    at hcleared
  generalize (if piece.length > capacity - f.waiting.size then f.drain d' else (d', f, .ok ())) = r'
    at hcleared
  obtain ⟨d₁, g, cleared⟩ := r
  obtain ⟨d₁', g', cleared'⟩ := r'
  obtain ⟨halike, hsame⟩ := hcleared
  cases hsame
  cases cleared with
  | error fault => exact ⟨halike, rfl⟩
  | ok _ =>
    simp only
    split
    · rcases halike.append g.id piece with ⟨fault, heq, heq'⟩ | ⟨after, after', heq, heq', hafter⟩
      · rw [heq, heq']
        exact ⟨halike, rfl⟩
      · rw [heq, heq']
        exact ⟨hafter, rfl⟩
    · exact ⟨halike, rfl⟩

private theorem matches_putAll (h : d.Alike d') (f : OpenFile) (pieces : List (List UInt8)) :
    Matches (f.putAll d pieces) (f.putAll d' pieces) := by
  induction pieces generalizing d d' f with
  | nil => exact ⟨h, rfl⟩
  | cons piece rest ih =>
    obtain ⟨halike, hsame⟩ := matches_put h f piece
    unfold putAll
    generalize f.put d piece = r at halike hsame
    generalize f.put d' piece = r' at halike hsame
    obtain ⟨d₁, g, result⟩ := r
    obtain ⟨d₁', g', result'⟩ := r'
    cases hsame
    cases result with
    | error fault => exact ⟨halike, rfl⟩
    | ok _ => exact ih halike g

end OpenFile

namespace Target

/-- The ways in which a log file cannot be made: its directory cannot be made, or the search for a
path comes to one that takes no file. -/
def Fails (t : Target) (d : Disk) (zone : Zone) (time : Instant) (after : Disk) (error : Error) :
    Prop :=
  (∃ fault, d.makeDirectories t.dir = (after, .error fault) ∧
      error = (Error.ofFault fault).withContext "dir" t.dir.text) ∨
    ∃ path fault, d.makeDirectories t.dir = (after, .ok ()) ∧
      t.createFrom after (time.date zone) (after.entries.size + 1) (UInt64.ofInt time.millis) =
        .error (path, fault) ∧
      error = (Error.ofFault fault).withContext "path" path.text

variable {t : Target} {d after : Disk} {zone : Zone} {time : Instant} {error : Error}

private theorem openFile_eq_error_iff :
    t.openFile d zone time = (after, .error error) ↔ t.Fails d zone time after error := by
  unfold openFile Fails
  rcases d.makeDirectories t.dir with ⟨made, fault | _⟩
  · simp [eq_comm]
  · cases hcreate : t.createFrom made (time.date zone) (made.entries.size + 1)
      (UInt64.ofInt time.millis) with
    | error refused =>
      simp only [hcreate]
      constructor
      · rintro h
        cases h
        exact .inr ⟨refused.1, refused.2, rfl, hcreate, rfl⟩
      · rintro (⟨fault, h, -⟩ | ⟨path, fault, h, hrefused, rfl⟩)
        · cases h
        · cases h
          rw [hcreate] at hrefused
          cases hrefused
          rfl
    | ok created =>
      constructor
      · simp only [hcreate]
        intro h
        cases h
      · rintro (⟨fault, h, -⟩ | ⟨path, fault, h, hrefused, rfl⟩)
        · cases h
        · cases h
          rw [hcreate] at hrefused
          cases hrefused

private theorem exists_fails (h : (t.openFile d zone time).2.isOk = false) :
    ∃ after error, t.Fails d zone time after error := by
  obtain ⟨after, opened, ho⟩ : ∃ after opened, t.openFile d zone time = (after, opened) :=
    ⟨_, _, rfl⟩
  cases opened with
  | error error => exact ⟨after, error, openFile_eq_error_iff.mp ho⟩
  | ok f =>
    rw [ho] at h
    cases h

/-- Nothing but directories is left of it. -/
theorem Fails.added (h : t.Fails d zone time after error) : d.Added after := by
  have hadded := Disk.added_makeDirectories d t.dir
  rcases h with ⟨fault, hmade, -⟩ | ⟨path, fault, hmade, -⟩ <;> rwa [hmade] at hadded

end Target

namespace Rolling
open Disk (Alike)

def withWaiting (w : Rolling) (waiting : Array UInt8) : Rolling :=
  { w with current := w.current.map ({ · with waiting }) }

/-- From now on, every event that needs a file gets none. -/
def Starved (d : Disk) (w : Rolling) : List Event → Prop
  | [] => True
  | e :: rest =>
    (w.needsFile e = true → ∃ after error, w.target.Fails d w.zone e.time after error) ∧
      Starved (w.write d e).disk (w.write d e).writer rest

/-- The event tries to get a file of its own. Without one it is dropped, with the reason. -/
structure Tries (d : Disk) (w : Rolling) (e : Event) : Prop where
  dropped : ∀ after error, w.target.Fails d w.zone e.time after error →
    w.write d e = ⟨after, w, [], .error error⟩
  opened : ∀ after f, w.target.openFile d w.zone e.time = (after, .ok f) →
    ∃ waiting, (w.write d e).writer = { w with current := some { f with waiting } }

variable {d d' : Disk} {w : Rolling} {e : Event} {f : OpenFile}

private theorem tries_of_needsFile (h : w.needsFile e = true) : Tries d w e := by
  refine ⟨fun after error hfails => ?_, fun after f hopen => ?_⟩
  · exact write_refused h (Target.openFile_eq_error_iff.mpr hfails)
  · rcases write_shape d w e with ⟨g, waiting, -, hkept, -⟩ | ⟨d₁, g, waiting, ho, hwriter, -⟩ |
      ⟨d₁, error, ho, -⟩
    · rw [h] at hkept
      cases hkept
    · rw [hopen] at ho
      cases ho
      exact ⟨waiting, hwriter⟩
    · rw [hopen] at ho
      cases ho

@[simp] theorem needsFile_withWaiting (w : Rolling) (waiting : Array UInt8) (e : Event) :
    (w.withWaiting waiting).needsFile e = w.needsFile e := by
  cases hf : w.current <;> simp [needsFile, withWaiting, hf]

private theorem withWaiting_withWaiting (w : Rolling) (waiting waiting' : Array UInt8) :
    (w.withWaiting waiting).withWaiting waiting' = w.withWaiting waiting' := by
  cases hf : w.current <;> simp [withWaiting, hf]

private theorem exists_withWaiting (w : Rolling) : ∃ waiting, w = w.withWaiting waiting := by
  obtain ⟨target, zone, current⟩ := w
  cases current with
  | none => exact ⟨#[], rfl⟩
  | some f => exact ⟨f.waiting, rfl⟩

private theorem write_alike (halike : d.Alike d') (h : w.needsFile e = false) :
    (w.write d e).disk.Alike (w.write d' e).disk ∧ (w.write d' e).writer = (w.write d e).writer ∧
      (w.write d' e).result = (w.write d e).result ∧ (w.write d e).aside = [] ∧
      ∃ waiting, (w.write d e).writer = w.withWaiting waiting := by
  obtain ⟨f, hf, -, hwrite⟩ := write_of_kept h
  obtain ⟨hdisks, hsame⟩ := OpenFile.matches_putAll halike f ((e.pieces w.zone).map Text.encode)
  obtain ⟨waiting, hserved⟩ := (OpenFile.served_putAll f d ((e.pieces w.zone).map Text.encode)).same
  rw [hwrite, hwrite]
  refine ⟨hdisks, ?_, ?_, rfl, waiting, ?_⟩
  · simp only [writeTo, hsame]
  · simp only [writeTo, hsame]
  · simp [writeTo, withWaiting, hf, hserved]

/-- A run of events in which none gets a file, beside the run of those that need none: the files and
the writer come to the same, with the same results of these events, and the others were dropped. -/
structure Unmarred (d : Disk) (w : Rolling) (es : List Event) (c c' : Course) : Prop where
  keeps : d.Keeps c.disk
  alike : c.disk.Alike c'.disk
  writer : c'.writer = c.writer
  same : ∃ waiting, c.writer = w.withWaiting waiting
  aside : c.aside = []
  results : (es.zip c.results).filter (fun p => !w.needsFile p.1) =
    (es.filter fun e => !w.needsFile e).zip c'.results
  dropped : ∀ p ∈ es.zip c.results, w.needsFile p.1 = true → ∃ error, p.2 = .error error

private theorem unmarred_course (es : List Event) {d d' : Disk} {w : Rolling} (halike : d.Alike d')
    (h : Starved d w es) :
    Unmarred d w es (course d w (es.map .write))
      (course d' w ((es.filter fun e => !w.needsFile e).map .write)) := by
  induction es generalizing d d' w with
  | nil =>
    refine ⟨.refl d, halike, rfl, exists_withWaiting w, rfl, rfl, fun p hp => ?_⟩
    cases hp
  | cons e rest ih =>
    obtain ⟨hfails, hrest⟩ := h
    cases hn : w.needsFile e with
    | true =>
      obtain ⟨after, error, hfail⟩ := hfails hn
      have hwrite := (tries_of_needsFile hn).dropped after error hfail
      have hadded := hfail.added
      rw [hwrite] at hrest
      -- Only the disk of the run with this event changes, and what it gains are directories.
      have hafter : after.Alike d' :=
        ⟨halike.files.trans hadded.files.symm, halike.takes.trans hadded.keeps.refusesBytes.symm⟩
      have hmore := ih hafter hrest
      have hnone : (e :: rest).filter (fun e => !w.needsFile e) =
          rest.filter fun e => !w.needsFile e := List.filter_cons_of_neg (by simp [hn])
      rw [hnone]
      have hrun : Call.run d w (.write e) = ⟨after, w, [], .error error⟩ := hwrite
      simp only [List.map_cons, course, hrun, List.nil_append]
      refine ⟨hadded.keeps.trans hmore.keeps, hmore.alike, hmore.writer, hmore.same, hmore.aside,
        ?_, ?_⟩
      · rw [List.zip_cons_cons, List.filter_cons_of_neg (by simp [hn]),
          List.filter_cons_of_neg (by simp [hn])]
        exact hmore.results
      · rintro p hp hneeds
        rcases List.mem_cons.mp hp with rfl | hp
        · exact ⟨error, rfl⟩
        · exact hmore.dropped p hp hneeds
    | false =>
      obtain ⟨hdisks, hwriter, hresult, haside, waiting, hsame⟩ := write_alike halike hn
      have hmore := ih hdisks hrest
      simp only [hsame, needsFile_withWaiting] at hmore
      rw [List.filter_cons_of_pos (by simp [hn])]
      simp only [List.map_cons, course, Call.run, hwriter, hresult, haside, List.nil_append, hsame]
      obtain ⟨waiting', hlast⟩ := hmore.same
      refine ⟨(careful_write d w e).spares.keeps.trans hmore.keeps, hmore.alike, hmore.writer,
        ⟨waiting', by rw [hlast, withWaiting_withWaiting]⟩, hmore.aside, ?_, ?_⟩
      · rw [List.zip_cons_cons, List.filter_cons_of_pos (by simp [hn]),
          List.filter_cons_of_pos (by simp [hn]), List.zip_cons_cons]
        have hresults := hmore.results
        simp only [needsFile_withWaiting] at hresults
        exact congrArg _ hresults
      · rintro p hp hneeds
        rcases List.mem_cons.mp hp with rfl | hp
        · rw [hn] at hneeds
          cases hneeds
        · exact hmore.dropped p hp (by simpa using hneeds)

/-- Events that need no file all go to the open one. -/
theorem took_course (es : List Event) {d : Disk} {w : Rolling} {f : OpenFile} (h : Ready d w)
    (hf : w.current = some f) (hkept : ∀ e ∈ es, w.needsFile e = false) :
    Ready (course d w (es.map .write)).disk (course d w (es.map .write)).writer ∧
      (∀ r ∈ (course d w (es.map .write)).results, r = .ok ()) ∧
      ∀ k, contents (course d w (es.map .write)).disk (course d w (es.map .write)).writer k =
        contents d w k ++ if k = f.id then Text.encode (es.flatMap (·.lines w.zone)) else [] := by
  induction es generalizing d w f with
  | nil =>
    refine ⟨h, fun r hr => ?_, fun k => ?_⟩
    · cases hr
    · simp [course, Text.encode]
  | cons e rest ih =>
    obtain ⟨g, hg, hday, -⟩ := write_of_kept (hkept e List.mem_cons_self)
    obtain rfl : g = f := Option.some.inj (hg.symm.trans hf)
    obtain ⟨-, waiting, ht⟩ := write_took h hg hday
    have hkept' : ∀ a ∈ rest, (w.write d e).writer.needsFile a = false := by
      intro a ha
      rw [ht.writer]
      simpa [needsFile, hg] using hkept a (List.mem_cons_of_mem _ ha)
    obtain ⟨hready, hresults, hcontents⟩ := ih ht.ready (by rw [ht.writer]) hkept'
    simp only [List.map_cons, course, Call.run]
    refine ⟨hready, fun r hr => ?_, fun k => ?_⟩
    · rcases List.mem_cons.mp hr with rfl | hr
      · exact ht.result
      · exact hresults r hr
    · rw [hcontents, ht.contents, ht.zone, List.flatMap_cons, Text.encode_append, List.append_assoc]
      split <;> simp

/-- A file that cannot be closed is left nevertheless. -/
theorem close_of_fault {fault : Fault} (hf : w.current = some f)
    (hfault : (f.drain d).2.2 = .error fault) :
    w.close d = ⟨d, { w with current := none }, [], .error (f.report fault)⟩ := by
  have hdrain : f.drain d = (d, f, .error fault) := by
    unfold OpenFile.drain at hfault ⊢
    split at hfault
    · cases hfault
    · exact congrArg (fun result => (d, f, result)) hfault
  unfold close
  rw [hf]
  simp only [hdrain]
  rfl

/-- An event for which no file can be made is dropped and nothing is lost but that event: of any
number of events among which none gets a file, those of the weekday of the open file go to it, just
as if the others had not come, and the next of another weekday tries again. A file that cannot be
sent what waits for it is closed all the same, and the new target of a redirect holds. -/
theorem failed_open_leaves_no_trace (d : Disk) (w : Rolling) :
    (∀ e after error, w.needsFile e = true → w.target.Fails d w.zone e.time after error →
      w.write d e = ⟨after, w, [], .error error⟩ ∧ d.Added after ∧
        ∀ k, contents after w k = contents d w k) ∧
    (∀ es, Starved d w es →
      let kept := es.filter fun e => !w.needsFile e
      let c := course d w (es.map .write)
      let c' := course d w (kept.map .write)
      Unmarred d w es c c' ∧
      (∀ e, w.needsFile e = true → c.writer.needsFile e = true ∧ Tries c.disk c.writer e) ∧
      ∀ f, w.current = some f →
        (∀ e, f.weekday = e.time.weekday w.zone → ∃ waiting,
          c.writer.current = some { f with waiting } ∧
            c.writer.write c.disk e = c.writer.writeTo c.disk { f with waiting } e) ∧
        (Ready d w →
          (∀ r ∈ c'.results, r = .ok ()) ∧
          (∀ k, contents c.disk c.writer k = contents d w k ++
            if k = f.id then Text.encode (kept.flatMap (·.lines w.zone)) else []) ∧
          ∀ e, f.weekday = e.time.weekday w.zone → ∃ waiting,
            Took c.disk c.writer e (c.writer.write c.disk e) { f with waiting })) ∧
    (∀ f fault target, w.current = some f → (f.drain d).2.2 = .error fault →
      w.close d = ⟨d, { w with current := none }, [], .error (f.report fault)⟩ ∧
        w.redirect d target =
          ⟨d, { w with target, current := none }, [], .error (f.report fault)⟩) := by
  refine ⟨fun e after error hn hfails => ?_, fun es hstarved => ?_,
    fun f fault target hf hfault => ?_⟩
  · have hadded := hfails.added
    exact ⟨(tries_of_needsFile hn).dropped after error hfails, hadded,
      fun k => contents_of_files hadded.files w k⟩
  · intro kept c c'
    have hrun : Unmarred d w es c c' := unmarred_course es ⟨rfl, rfl⟩ hstarved
    obtain ⟨waiting, hsame⟩ := hrun.same
    have hneeds (e : Event) : c.writer.needsFile e = w.needsFile e := by
      rw [hsame, needsFile_withWaiting]
    refine ⟨hrun, fun e hn => ?_, fun f hf => ?_⟩
    · rw [hneeds]
      exact ⟨hn, tries_of_needsFile ((hneeds e).trans hn)⟩
    · have hcurrent : c.writer.current = some { f with waiting } := by
        simp [hsame, withWaiting, hf]
      have hzone : c.writer.zone = w.zone := by rw [hsame]; rfl
      refine ⟨fun e hday => ⟨waiting, hcurrent, ?_⟩, fun hready => ?_⟩
      · have hkept : c.writer.needsFile e = false := by
          rw [hneeds, needsFile, hf]
          simp [hday]
        obtain ⟨g, hg, -, hwrite⟩ := write_of_kept hkept
        rw [hwrite, Option.some.inj (hg.symm.trans hcurrent)]
      · obtain ⟨hready', hresults, hcontents⟩ := took_course kept hready hf fun e he => by
          simpa using (List.mem_filter.mp he).2
        have hreadyNow : Ready c.disk c.writer := by
          rw [← hrun.writer]
          exact hready'.of_files hrun.alike.files.symm hrun.alike.takes.symm
        refine ⟨hresults, fun k => ?_, fun e hday => ?_⟩
        · rw [← hcontents, ← hrun.writer]
          exact (contents_of_files hrun.alike.files c'.writer k).symm
        · obtain ⟨-, waiting', ht⟩ := write_took hreadyNow hcurrent (hday.trans (by rw [hzone]))
          exact ⟨waiting', ht⟩
  · refine ⟨close_of_fault hf hfault, ?_⟩
    exact close_of_fault (w := { w with target }) hf hfault

/-- On a disk with no room for another file a Monday's file goes on after a Tuesday that gets none;
and if it cannot be sent what waits for it, it is closed. -/
theorem failed_open_leaves_no_trace_of_tuesday :
    let full : Disk := { files := [{}], refusesFiles := some (.device "no space") }
    let f : OpenFile := { id := 0, path := ⟨Text.encode "app.log".toList⟩, weekday := 1 }
    let w : Rolling := ⟨⟨⟨Text.encode "logs".toList⟩, "app"⟩, {}, some f⟩
    let monday : Event := ⟨0, .info, ⟨1704103200000000000⟩, "svc", "up"⟩
    let tuesday : Event := ⟨1, .warn, ⟨1704189600000000000⟩, "svc", "lost"⟩
    let c := course full w (([tuesday, monday] : List Event).map .write)
    (∃ error, (w.write full tuesday).result = .error error ∧
      (w.write full tuesday).writer = w) ∧
      contents c.disk c.writer 0 = Text.encode (monday.lines {}) ∧
      (({ w with current := some { f with waiting := #[0x6F] } } : Rolling).redirect
        { full with refusesBytes := some (.device "no space") } w.target).writer.current =
        none := by
  intro full f w monday tuesday c
  have hneeds : w.needsFile tuesday = true := by decide
  have hkept : w.needsFile monday = false := by decide
  obtain ⟨after, error, hfails⟩ : ∃ after error,
      w.target.Fails full w.zone tuesday.time after error := Target.exists_fails (by cbv)
  obtain ⟨hdropped, hrun, -⟩ := failed_open_leaves_no_trace full w
  obtain ⟨hwrite, -, -⟩ := hdropped tuesday after error hneeds hfails
  have hstarved : Starved full w [tuesday, monday] := by
    refine ⟨fun _ => ⟨after, error, hfails⟩, ?_, trivial⟩
    rw [hwrite]
    intro hagain
    rw [hkept] at hagain
    cases hagain
  have hready : Ready full w := ⟨rfl, fun g hg => by cases hg; decide⟩
  obtain ⟨-, -, hopen⟩ := hrun _ hstarved
  obtain ⟨-, hcontents, -⟩ := (hopen f rfl).2 hready
  refine ⟨⟨error, by rw [hwrite], by rw [hwrite]⟩, ?_, ?_⟩
  · have hlines := hcontents 0
    have hfilter : [tuesday, monday].filter (fun e => !w.needsFile e) = [monday] := by decide
    have hempty : contents full w 0 = [] := rfl
    rw [hfilter, hempty, if_pos rfl, List.flatMap_singleton] at hlines
    exact hlines
  · obtain ⟨-, -, hclosed⟩ := failed_open_leaves_no_trace
      { full with refusesBytes := some (.device "no space") }
      { w with current := some { f with waiting := #[0x6F] } }
    rw [(hclosed _ _ w.target rfl rfl).2]

end Rolling

end EventLog
