import EventLog.Proofs.Pipeline.Schedule
import EventLog.Proofs.Rolling.NewFiles

/-! Two pipelines that go through the same on different disks. What a disk refuses shows at most in
the file that is open: what is queued, under which numbers and for which targets, is the same. -/
namespace EventLog

namespace Rolling

/-- Whatever happens on the disk, only a redirect changes where a writer writes. -/
theorem exists_current_write (d : Disk) (w : Rolling) (e : Event) :
    ∃ current, (w.write d e).writer = { w with current } := by
  rcases write_shape d w e with ⟨f, waiting, -, -, hwriter, -⟩ | ⟨-, f, waiting, -, hwriter, -⟩ |
    ⟨_, error, -, hrun⟩
  · exact ⟨_, hwriter⟩
  · exact ⟨_, hwriter⟩
  · exact ⟨w.current, by rw [hrun]⟩

theorem exists_current_flush (d : Disk) (w : Rolling) :
    ∃ current, (w.flush d).writer = { w with current } := by
  unfold flush
  split
  · exact ⟨w.current, rfl⟩
  · exact ⟨_, rfl⟩

theorem writer_close (d : Disk) (w : Rolling) :
    (w.close d).writer = { w with current := none } := by
  unfold close
  split
  · next h => rw [← h]
  · rfl

end Rolling

namespace Pipeline
open Rolling

/-- The pipelines differ at most in the file that is open. -/
def Twins (p p' : Pipeline) : Prop :=
  ∃ current, p' = { p with writer := { p.writer with current } }

variable {p p' : Pipeline}

def outline (p : Pipeline) : Pipeline := { p with writer := { p.writer with current := none } }

theorem twins_iff : Twins p p' ↔ p'.outline = p.outline := by
  refine ⟨fun ⟨current, h⟩ => by rw [h]; rfl, fun h => ⟨p'.writer.current, ?_⟩⟩
  obtain ⟨_, _, _, _, _, _, ⟨_, _, _⟩⟩ := p
  obtain ⟨_, _, _, _, _, _, ⟨_, _, _⟩⟩ := p'
  simp_all [outline]

private theorem twins_of_writer {w v v' : Rolling} {current current' : Option OpenFile}
    (hv : v = { w with current }) (hv' : v' = { w with current := current' }) (p : Pipeline) :
    Twins { p with writer := v } { p with writer := v' } := ⟨current', by rw [hv, hv']⟩

private theorem Twins.handle (h : Twins p p') (d d' : Disk) (m : Message) :
    Twins (handle d p m).pipeline (handle d' p' m).pipeline := by
  obtain ⟨current, rfl⟩ := h
  cases m with
  | event e =>
    obtain ⟨_, hwriter⟩ := exists_current_write d p.writer e
    obtain ⟨_, hwriter'⟩ := exists_current_write d' { p.writer with current } e
    exact twins_of_writer hwriter hwriter' p
  | redirect target =>
    exact twins_of_writer (writer_close d { p.writer with target })
      (writer_close d' { p.writer with target, current }) p
  | flush ticket => exact ⟨current, rfl⟩

private theorem Twins.endBatch (h : Twins p p') (d d' : Disk) :
    Twins (p.endBatch d).pipeline (p'.endBatch d').pipeline := by
  obtain ⟨current, rfl⟩ := h
  obtain ⟨_, hwriter⟩ := exists_current_flush d p.writer
  obtain ⟨_, hwriter'⟩ := exists_current_flush d' { p.writer with current }
  exact twins_of_writer hwriter hwriter'
    { p with phase := .resting, owed := [], settled := p.settled ++ p.owed }

private theorem Twins.finish (h : Twins p p') (d d' : Disk) :
    Twins (p.finish d).pipeline (p'.finish d').pipeline := by
  obtain ⟨current, hbatch⟩ := h.endBatch d d'
  simp only [Pipeline.finish, writer_close, hbatch]
  exact ⟨none, rfl⟩

/-- Both workers have a step to do or neither has, and it makes the same of both pipelines. -/
theorem Twins.step? (h : Twins p p') (d d' : Disk) :
    Option.Rel (fun r r' => Twins r.pipeline r'.pipeline) (p.step? d) (p'.step? d') := by
  obtain ⟨current, hp'⟩ := h
  have hqueue : p'.queue = p.queue := by rw [hp']
  have hphase : p'.phase = p.phase := by rw [hp']
  have hcut : p'.isCut = p.isCut := by rw [hp']; rfl
  unfold Pipeline.step?
  rw [hqueue, hphase, hcut]
  split
  · exact .none
  · next m rest _ _ =>
    exact .some (Twins.handle ⟨current, by rw [hp']⟩ d d' m)
  · refine .some ?_
    split
    · exact Twins.finish ⟨current, hp'⟩ d d'
    · exact Twins.endBatch ⟨current, hp'⟩ d d'
  · split
    · exact .some (Twins.finish ⟨current, hp'⟩ d d')
    · exact .none

private theorem Twins.steps (h : Twins p p') (n : Nat) (d d' : Disk) :
    Twins (steps n d p).pipeline (steps n d' p').pipeline := by
  induction n generalizing p p' d d' with
  | zero => exact h
  | succ n ih =>
    have hstep := h.step? d d'
    rw [Pipeline.steps, Pipeline.steps]
    cases hp : p.step? d <;> cases hp' : p'.step? d' <;> rw [hp, hp'] at hstep <;> cases hstep
    · exact h
    · next hone => exact ih hone _ _

private theorem Twins.settle (h : Twins p p') (d d' : Disk) :
    Twins (p.settle d).pipeline (p'.settle d').pipeline := by
  have hqueue : p'.queue = p.queue := by
    obtain ⟨current, rfl⟩ := h
    rfl
  rw [Pipeline.settle, Pipeline.settle, hqueue]
  exact h.steps _ d d'

theorem Twins.shutdown (h : Twins p p') (d d' : Disk) :
    Twins (p.shutdown d).pipeline (p'.shutdown d').pipeline := by
  obtain ⟨current, rfl⟩ := h
  exact Twins.settle (p := p.stop) ⟨current, rfl⟩ d d'

private theorem Twins.release (h : Twins p p') : Twins p.release p'.release := by
  obtain ⟨current, rfl⟩ := h
  exact ⟨current, rfl⟩

/-- A flush is answered alike. -/
theorem Twins.flush (h : Twins p p') (d d' : Disk) :
    Twins (p.flush d).1.pipeline (p'.flush d').1.pipeline ∧ (p'.flush d').2 = (p.flush d).2 := by
  obtain ⟨current, hp'⟩ := h
  have hnext : p'.next = p.next := by rw [hp']
  cases hn : p.next with
  | none =>
    have hheld : p.hold = .error closedError := by rw [hold, hn]
    have hheld' : p'.hold = .error closedError := by rw [hold, hnext, hn]
    rw [Pipeline.flush, Pipeline.flush, hheld, hheld']
    exact ⟨⟨current, hp'⟩, rfl⟩
  | some n =>
    have hheld : p.hold = .ok { p with holders := p.holders + 1 } := by rw [hold, hn]
    have hheld' : p'.hold = .ok { p' with holders := p'.holders + 1 } := by rw [hold, hnext, hn]
    rw [Pipeline.flush, Pipeline.flush, hheld, hheld']
    have hasked : Twins (askFlush { p with holders := p.holders + 1 } p.settled.length)
        (askFlush { p' with holders := p'.holders + 1 } p'.settled.length) :=
      ⟨current, by rw [hp']; rfl⟩
    exact ⟨(hasked.settle d d').release, rfl⟩

/-- The worker removes nothing from a disk. -/
theorem keeps_step? {d : Disk} {r : Worked} (h : p.step? d = some r) : d.Keeps r.disk := by
  rcases step?_cases h with ⟨-, ⟨m, rest, -, rfl⟩ | ⟨-, -, -, rfl⟩ | ⟨-, -, rfl⟩⟩
  · cases m with
    | event e => exact (careful_write d p.writer e).spares.keeps
    | redirect target => exact (careful_redirect d p.writer target).spares.keeps
    | flush => exact .refl d
  · exact (careful_flush d p.writer).spares.keeps
  · exact (careful_flush d p.writer).spares.keeps.trans
      (careful_close (p.endBatch d).disk (p.endBatch d).pipeline.writer).spares.keeps

private theorem keeps_steps (n : Nat) (d : Disk) (p : Pipeline) : d.Keeps (steps n d p).disk := by
  induction n generalizing d p with
  | zero => exact .refl d
  | succ n ih =>
    rw [steps]
    split
    · exact .refl d
    · next one hone => exact (keeps_step? hone).trans (ih one.disk one.pipeline)

theorem keeps_shutdown (d : Disk) (p : Pipeline) : d.Keeps (p.shutdown d).disk :=
  keeps_steps _ _ _

theorem keeps_flush (d : Disk) (p : Pipeline) : d.Keeps (p.flush d).1.disk := by
  rw [flush]
  split
  · exact .refl d
  · exact keeps_steps _ _ _

end Pipeline

end EventLog
