import EventLog.Proofs.Pipeline.Delivery
import EventLog.Proofs.Pipeline.Twins
import EventLog.Proofs.Rolling.Overlay

/-! A pipeline on a disk and on the same disk with some directories more. As long as its events get
the files that they need, the worker does the same both times. -/
namespace EventLog.Pipeline
open Disk (Overlaid)

def Message.target? : Message → Option Target
  | .redirect target => some target
  | _ => none

/-- Every target that events in the queue, or accepted later, may be written to. -/
def targets (p : Pipeline) : List Target :=
  p.writer.target :: p.queue.toList.filterMap Message.target?

def Housed (d : Disk) (p : Pipeline) : Prop := ∀ t ∈ p.targets, d.find t.dir = .ok .directory

/-- What steps of the worker leave behind differs in nothing but the directories. -/
structure Matched (r r' : Worked) : Prop where
  same : r' = { r with disk := r'.disk }
  overlaid : r.disk.Overlaid r'.disk

variable {d after : Disk} {p : Pipeline}

theorem Housed.of_subset {p' : Pipeline} (h : Housed d p) (hsub : p'.targets ⊆ p.targets)
    (hkeeps : d.Keeps after) : Housed after p' :=
  fun t ht => Disk.find_of_keeps hkeeps (h t (hsub ht))

theorem housed_start {writer : Rolling} (h : d.find writer.target.dir = .ok .directory) :
    Housed d (.start writer) := by
  intro t ht
  obtain rfl := List.mem_singleton.mp ht
  exact h

theorem Housed.push (h : Housed d p) {m : Message}
    (hm : ∀ t ∈ Message.target? m, d.find t.dir = .ok .directory) (next : Option UInt64) :
    Housed d { p with next, queue := p.queue.push m } := by
  intro t ht
  rw [targets, Queue.toList_push, List.filterMap_append, ← List.cons_append] at ht
  rcases List.mem_append.mp ht with hold | hnew
  · exact h t hold
  · obtain ⟨m', hm', hsets⟩ := List.mem_filterMap.mp hnew
    obtain rfl := List.mem_singleton.mp hm'
    exact hm t hsets

/-- The worker sets no target but those in the queue. -/
theorem Housed.step? {r : Worked} (h : Housed d p) (hr : p.step? d = some r) :
    Housed r.disk r.pipeline := by
  refine h.of_subset ?_ (keeps_step? hr)
  rcases step?_cases hr with ⟨-, ⟨m, rest, hpop, rfl⟩ | ⟨-, -, -, rfl⟩ | ⟨-, -, rfl⟩⟩
  · have hqueue := Queue.pop?_eq_some hpop
    cases m with
    | event e =>
      obtain ⟨_, hwriter⟩ := Rolling.exists_current_write d p.writer e
      simp only [targets, handle, hwriter, hqueue]
      exact List.cons_subset_cons _ fun _ ht => ht
    | redirect target =>
      simp only [targets, handle, Rolling.redirect, Rolling.writer_close, hqueue]
      exact fun _ ht => List.mem_cons_of_mem _ ht
    | flush ticket =>
      simp only [targets, handle, hqueue]
      exact List.cons_subset_cons _ fun _ ht => ht
  · obtain ⟨_, hwriter⟩ := Rolling.exists_current_flush d p.writer
    simp only [targets, endBatch, hwriter]
    exact fun _ ht => ht
  · obtain ⟨_, hwriter⟩ := Rolling.exists_current_flush d p.writer
    simp only [targets, finish, endBatch, Rolling.writer_close, hwriter]
    exact fun _ ht => ht

private theorem Housed.steps (h : Housed d p) (n : Nat) :
    Housed (steps n d p).disk (steps n d p).pipeline := by
  induction n generalizing d p with
  | zero => exact h
  | succ n ih =>
    rw [Pipeline.steps]
    split
    · exact h
    · next one hone => exact ih (h.step? hone)

theorem Housed.flush (h : Housed d p) : Housed (p.flush d).1.disk (p.flush d).1.pipeline := by
  rw [Pipeline.flush]
  split
  · exact h
  · next held hheld =>
    obtain ⟨-, rfl⟩ := hold_eq_ok hheld
    have hasked : Housed d (askFlush { p with holders := p.holders + 1 } p.settled.length) :=
      h.push (m := .flush p.settled.length) (by rintro t ⟨⟩) p.next
    exact hasked.steps _

private theorem handle_matched (h : d.Overlaid after) (hhoused : Housed d p) (m : Message)
    (hgets : ∀ e, m = .event e → p.writer.getsFile d e = true) :
    Matched (handle d p m) (handle after p m) := by
  cases m with
  | event e =>
    obtain ⟨hsame, hd⟩ :=
      Rolling.write_matched h (hhoused _ List.mem_cons_self) (hgets e rfl)
    simp only [handle]
    rw [hsame]
    exact ⟨rfl, hd⟩
  | redirect target =>
    obtain ⟨hsame, hd⟩ := Rolling.close_matched h { p.writer with target }
    simp only [handle, Rolling.redirect]
    rw [hsame]
    exact ⟨rfl, hd⟩
  | flush ticket => exact ⟨rfl, h⟩

private theorem endBatch_matched (h : d.Overlaid after) (p : Pipeline) :
    Matched (p.endBatch d) (p.endBatch after) := by
  obtain ⟨hsame, hd⟩ := Rolling.flush_matched h p.writer
  unfold endBatch
  rw [hsame]
  exact ⟨rfl, hd⟩

private theorem finish_matched (h : d.Overlaid after) (p : Pipeline) :
    Matched (p.finish d) (p.finish after) := by
  obtain ⟨hbatch, hd⟩ := endBatch_matched h p
  obtain ⟨hsame, hd'⟩ := Rolling.close_matched hd (p.endBatch d).pipeline.writer
  have hpipeline : (p.endBatch after).pipeline = (p.endBatch d).pipeline := by rw [hbatch]
  have htrapped : (p.endBatch after).trapped = (p.endBatch d).trapped := by rw [hbatch]
  unfold finish
  simp only [hpipeline, htrapped]
  rw [hsame]
  exact ⟨rfl, hd'⟩

/-- The worker takes the same step on both disks. -/
theorem step?_matched (h : d.Overlaid after) (hhoused : Housed d p)
    (hgets : p.getsFile d = true) : Option.Rel Matched (p.step? d) (p.step? after) := by
  unfold step?
  split
  · exact .none
  · next m rest hpop hphase =>
    have hqueue := Queue.pop?_eq_some hpop
    have htaken : Housed d { p with queue := rest, phase := .taking } := by
      refine hhoused.of_subset ?_ (.refl d)
      simp only [targets, hqueue]
      exact List.cons_subset_cons _ fun t ht =>
        (List.sublist_cons_self m _).filterMap _ |>.subset ht
    refine .some (handle_matched h htaken m ?_)
    rintro e rfl
    rw [getsFile, hpop] at hgets
    exact hgets
  · refine .some ?_
    split
    · exact finish_matched h p
    · exact endBatch_matched h p
  · split
    · exact .some (finish_matched h p)
    · exact .none

private theorem steps_matched (n : Nat) (h : d.Overlaid after) (hhoused : Housed d p)
    (hgets : p.getsFiles n d = true) : Matched (p.steps n d) (p.steps n after) := by
  induction n generalizing d after p with
  | zero => exact ⟨rfl, h⟩
  | succ n ih =>
    rw [getsFiles] at hgets
    rw [steps, steps]
    cases hr : p.step? d with
    | none =>
      have hidle := Twins.step? (p := p) ⟨p.writer.current, rfl⟩ d after
      rw [hr] at hidle
      cases hr' : p.step? after with
      | none => exact ⟨rfl, h⟩
      | some one =>
        rw [hr'] at hidle
        cases hidle
    | some one =>
      rw [hr] at hgets
      obtain ⟨hone, hrest⟩ := Bool.and_eq_true_iff.mp hgets
      have hstep := step?_matched h hhoused hone
      rw [hr] at hstep
      cases hr' : p.step? after with
      | none =>
        rw [hr'] at hstep
        cases hstep
      | some one' =>
        rw [hr'] at hstep
        cases hstep with
        | some hmatched =>
          obtain ⟨hsame, hd⟩ := hmatched
          have hpipeline : one'.pipeline = one.pipeline := by rw [hsame]
          have htrapped : one'.trapped = one.trapped := by rw [hsame]
          obtain ⟨hmore, hd'⟩ := ih hd (hhoused.step? hr) hrest
          simp only [hpipeline, htrapped]
          rw [hmore]
          exact ⟨rfl, hd'⟩

/-- A flush does the same on both disks. -/
theorem flush_matched (h : d.Overlaid after) (hhoused : Housed d p)
    (hgets : p.flushesWell d = true) : Matched (p.flush d).1 (p.flush after).1 := by
  rw [flushesWell] at hgets
  rw [Pipeline.flush, Pipeline.flush]
  cases hheld : p.hold with
  | error e => exact ⟨rfl, h⟩
  | ok held =>
    rw [hheld] at hgets
    obtain ⟨-, rfl⟩ := hold_eq_ok hheld
    have hasked : Housed d (askFlush { p with holders := p.holders + 1 } p.settled.length) :=
      hhoused.push (m := .flush p.settled.length) (by rintro t ⟨⟩) p.next
    obtain ⟨hsame, hd⟩ := steps_matched _ h hasked hgets
    simp only [settle]
    refine ⟨?_, hd⟩
    rw [hsame]

theorem shutdown_matched (h : d.Overlaid after) (hhoused : Housed d p)
    (hgets : p.stop.settlesWell d = true) : Matched (p.shutdown d) (p.shutdown after) :=
  steps_matched _ h (p := p.stop) hhoused hgets

end EventLog.Pipeline
