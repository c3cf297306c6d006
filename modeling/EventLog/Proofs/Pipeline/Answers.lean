import EventLog.Proofs.Pipeline.Accounting

/-! Answers to flushes. The worker puts them off to the end of a batch, and gives them there only
after the open file was flushed, so a flush that was answered left no byte of an earlier event
behind. -/
namespace EventLog.Pipeline
open Rolling (Ready contents)

def ticketsOf (messages : List Message) : List Nat :=
  messages.filterMap fun
    | .flush ticket => some ticket
    | _ => none

private theorem ticketsOf_append (a b : List Message) :
    ticketsOf (a ++ b) = ticketsOf a ++ ticketsOf b :=
  List.filterMap_append

private theorem handle_owed (d : Disk) (p : Pipeline) (m : Message) :
    ∃ writer, (handle d p m).pipeline = { p with writer, owed := p.owed ++ ticketsOf [m] } := by
  cases m with
  | event e => exact ⟨(p.writer.write d e).writer, by simp [handle, ticketsOf]⟩
  | redirect target => exact ⟨(p.writer.redirect d target).writer, by simp [handle, ticketsOf]⟩
  | flush ticket => exact ⟨p.writer, by simp [handle, ticketsOf]⟩

namespace Session

/-- Flushes are asked for under the next ticket each, those taken from the queue are answered or
still owed an answer, and between two batches no answer is owed. -/
structure Answering (s : Session) : Prop where
  asked : ticketsOf s.accepted = List.range s.asked
  taken : ticketsOf s.handled = s.pipeline.settled ++ s.pipeline.owed
  between : s.pipeline.phase ≠ .taking → s.pipeline.owed = []
  waiting : ∀ ticket ∈ s.waiting, ticket < s.asked

private theorem answering_start (d : Disk) (w : Rolling) : Answering (start d w) :=
  ⟨rfl, rfl, fun _ => rfl, fun ticket h => by cases h⟩

variable {s : Session}

private theorem work_eq (s : Session) :
    (∃ m rest, s.pipeline.queue.pop? = some (m, rest) ∧
        s.work = s.advance (handle s.disk { s.pipeline with queue := rest, phase := .taking } m)) ∨
      (s.pipeline.queue.pop? = none ∧
        (s.work = s.advance (s.pipeline.endBatch s.disk) ∨
          s.work = s.advance (s.pipeline.finish s.disk))) ∨
      (s.work = s ∧ (s.pipeline.phase = .finished ∨
        (s.pipeline.phase = .resting ∧ s.pipeline.queue.pop? = none))) := by
  cases hr : s.pipeline.step? s.disk with
  | none =>
    refine .inr (.inr ⟨by unfold work; rw [hr], ?_⟩)
    unfold step? at hr
    split at hr
    · next hend => exact .inl hend
    · cases hr
    · cases hr
    · next hphase hpop => exact .inr ⟨hphase, hpop⟩
  | some r =>
    have hwork : s.work = s.advance r := by
      unfold work
      rw [hr]
    rcases step?_cases hr with ⟨-, ⟨m, rest, hpop, rfl⟩ | ⟨-, hpop, -, rfl⟩ | ⟨hpop, -, rfl⟩⟩
    · exact .inl ⟨m, rest, hpop, hwork⟩
    · exact .inr (.inl ⟨hpop, .inl hwork⟩)
    · exact .inr (.inl ⟨hpop, .inr hwork⟩)

private theorem answering_work (h : Answering s) : Answering s.work := by
  rcases work_eq s with ⟨m, rest, hpop, hwork⟩ | ⟨hpop, hwork | hwork⟩ | ⟨hwork, -⟩
  · obtain ⟨writer, hp⟩ := handle_owed s.disk { s.pipeline with queue := rest, phase := .taking } m
    rw [hwork]
    refine ⟨h.asked, ?_, ?_, h.waiting⟩
    · rw [handled_advance_some _ hpop, ticketsOf_append, h.taken]
      simp [advance, hp]
    · simp [advance, hp]
  · rw [hwork]
    refine ⟨h.asked, ?_, fun _ => rfl, h.waiting⟩
    rw [handled_advance_none _ hpop, h.taken]
    simp [advance, endBatch]
  · rw [hwork]
    refine ⟨h.asked, ?_, fun _ => rfl, h.waiting⟩
    rw [handled_advance_none _ hpop, h.taken]
    simp [advance, finish, endBatch]
  · rw [hwork]
    exact h

private theorem answering_enqueue (h : Answering s) (now : Instant) (level : Level)
    (channel text : String) : Answering (s.enqueue now level channel text) := by
  unfold enqueue
  split
  · exact h
  · next hp =>
    obtain ⟨-, rfl⟩ := enqueue_eq_ok hp
    refine ⟨?_, h.taken, h.between, h.waiting⟩
    rw [ticketsOf_append, h.asked]
    exact List.append_nil _

private theorem answering_redirect (h : Answering s) (target : Target) :
    Answering (s.redirect target) := by
  unfold redirect
  split
  · exact h
  · next hp =>
    obtain ⟨-, rfl⟩ := redirect_eq_ok hp
    refine ⟨?_, h.taken, h.between, h.waiting⟩
    rw [ticketsOf_append, h.asked]
    exact List.append_nil _

private theorem answering_hold (h : Answering s) : Answering s.hold := by
  unfold hold
  split
  · exact h
  · next hp =>
    obtain ⟨-, rfl⟩ := hold_eq_ok hp
    exact ⟨h.asked, h.taken, h.between, h.waiting⟩

private theorem answering_ask (h : Answering s) : Answering s.ask := by
  unfold ask
  split
  · exact h
  · refine ⟨?_, h.taken, h.between, fun ticket hticket => ?_⟩
    · rw [ticketsOf_append, h.asked, List.range_succ]
      rfl
    · rcases List.mem_append.mp hticket with hticket | hticket
      · exact Nat.lt_succ_of_lt (h.waiting ticket hticket)
      · rw [List.mem_singleton.mp hticket]
        exact Nat.lt_succ_self _

private theorem answering_release (h : Answering s) (ticket : Nat) :
    Answering (s.release ticket) := by
  unfold release
  split
  · refine ⟨h.asked, h.taken, h.between, fun other hother => ?_⟩
    exact h.waiting other (List.mem_of_mem_erase hother)
  · exact h

private theorem answering_act (h : Answering s) (move : Move) : Answering (s.act move) := by
  cases move with
  | enqueue now level channel text => exact answering_enqueue h now level channel text
  | redirect target => exact answering_redirect h target
  | hold => exact answering_hold h
  | ask => exact answering_ask h
  | release ticket => exact answering_release h ticket
  | stop => exact ⟨h.asked, h.taken, h.between, h.waiting⟩
  | work => exact answering_work h
  | weather => exact ⟨h.asked, h.taken, h.between, h.waiting⟩

private theorem answering_run (h : Answering s) (moves : List Move) : Answering (s.run moves) := by
  induction moves generalizing s with
  | nil => exact h
  | cons move rest ih => exact ih (answering_act h move)

private theorem tickets_eq (h : Answering s) (ho : Orderly s) :
    s.pipeline.settled ++ s.pipeline.owed ++ ticketsOf s.pipeline.queue.toList =
      List.range s.asked := by
  rw [← h.taken, ← ticketsOf_append, ← ho.order, h.asked]

private def Rested (s : Session) : Prop :=
  s.pipeline.queue.toList = [] ∧ s.pipeline.owed = []

private theorem rested_work (h : Answering s) (hq : s.pipeline.queue.toList = []) :
    Rested s.work := by
  rcases work_eq s with ⟨m, rest, hpop, -⟩ | ⟨-, hwork | hwork⟩ | ⟨hwork, hphase⟩
  · rw [Queue.pop?_eq_some hpop] at hq
    cases hq
  · rw [hwork]
    exact ⟨hq, rfl⟩
  · rw [hwork]
    exact ⟨hq, rfl⟩
  · rw [hwork]
    refine ⟨hq, h.between ?_⟩
    rcases hphase with hphase | ⟨hphase, -⟩ <;> rw [hphase] <;> decide

private theorem rested_run_work {n : Nat} (h : Answering s) (ho : Orderly s)
    (hn : s.pipeline.queue.toList.length < n) : Rested (s.run (List.replicate n .work)) := by
  -- A step for every message, and one more to end the batch.
  induction n generalizing s with
  | zero => cases hn
  | succ n ih =>
    rw [List.replicate_succ]
    change Rested (s.work.run (List.replicate n .work))
    have hwork := answering_act h .work
    have hwork' := orderly_act ho .work
    by_cases hq : s.pipeline.queue.toList = []
    · have hrest := rested_work h hq
      cases n with
      | zero => exact hrest
      | succ n =>
        refine ih hwork hwork' ?_
        rw [hrest.1]
        exact Nat.succ_pos n
    · refine ih hwork hwork' ?_
      rcases work_eq s with ⟨m, rest, hpop, heq⟩ | ⟨hpop, -⟩ | ⟨-, hphase | ⟨-, hpop⟩⟩
      · obtain ⟨writer, hp⟩ :=
          handle_owed s.disk { s.pipeline with queue := rest, phase := .taking } m
        rw [Queue.pop?_eq_some hpop, List.length_cons] at hn
        rw [heq]
        simp only [advance, hp]
        omega
      · exact absurd ((Queue.pop?_eq_none_iff _).mp hpop) hq
      · exact absurd (ho.ended hphase).2.2 hq
      · exact absurd ((Queue.pop?_eq_none_iff _).mp hpop) hq

private theorem asked_work (s : Session) : s.work.asked = s.asked := by
  unfold work
  split <;> rfl

private theorem asked_run_work (s : Session) (n : Nat) :
    (s.run (List.replicate n .work)).asked = s.asked := by
  induction n generalizing s with
  | zero => rfl
  | succ n ih => exact (ih s.work).trans (asked_work s)

private theorem settled_run_work {n : Nat} (h : Answering s) (ho : Orderly s)
    (hn : s.pipeline.queue.toList.length < n) :
    (s.run (List.replicate n .work)).pipeline.settled = List.range s.asked := by
  obtain ⟨hqueue, howed⟩ := rested_run_work h ho hn
  have htickets := tickets_eq (answering_run h (List.replicate n .work))
    (orderly_run ho (List.replicate n .work))
  rwa [hqueue, howed, asked_run_work, List.append_nil, ticketsOf, List.filterMap_nil,
    List.append_nil] at htickets

private theorem answers_act (hready : Ready s.disk s.pipeline.writer) {move : Move}
    (h : (s.act move).pipeline.settled ≠ s.pipeline.settled) :
    move = .work ∧ s.pipeline.queue.pop? = none ∧
      (s.act move).pipeline.settled = s.pipeline.settled ++ s.pipeline.owed ∧
      (s.act move).pipeline.owed = [] ∧
      ∀ k, (s.act move).pipeline.writer.waitingFor k = [] := by
  rcases aside_act s move with rfl | ⟨disk, -, -, hact⟩ | same
  · refine ⟨rfl, ?_⟩
    change s.work.pipeline.settled ≠ _ at h
    change _ ∧ s.work.pipeline.settled = _ ∧ s.work.pipeline.owed = [] ∧
      ∀ k, s.work.pipeline.writer.waitingFor k = []
    obtain ⟨hflushed, hwriter⟩ := Rolling.flush_settled hready
    rcases work_eq s with ⟨m, rest, -, hwork⟩ | ⟨hpop, hwork | hwork⟩ | ⟨hwork, -⟩
    · obtain ⟨writer, hp⟩ :=
        handle_owed s.disk { s.pipeline with queue := rest, phase := .taking } m
      rw [hwork] at h
      simp [advance, hp] at h
    · rw [hwork]
      refine ⟨hpop, rfl, rfl, fun k => ?_⟩
      simp only [advance, endBatch, hwriter, Rolling.waitingFor]
      cases s.pipeline.writer.current with
      | none => rfl
      | some f => simp
    · rw [hwork]
      refine ⟨hpop, rfl, rfl, fun k => ?_⟩
      obtain ⟨-, hclosed⟩ := Rolling.close_settled hflushed.ready
      simp only [advance, finish, endBatch, hclosed, Rolling.waitingFor]
    · rw [hwork] at h
      exact absurd rfl h
  · rw [hact] at h
    exact absurd rfl h
  · exact absurd same.settled h

private theorem prefix_handled (h : Answering s) (ho : Orderly s) {ticket : Nat}
    (ht : ticket ∈ s.pipeline.settled ++ s.pipeline.owed) {before after : List Message}
    (hsplit : s.accepted = before ++ .flush ticket :: after) : before <+: s.handled := by
  have horder := ho.order
  rw [hsplit] at horder
  rcases List.append_eq_append_iff.mp horder with ⟨more, hhandled, -⟩ | ⟨more, -, hqueue⟩
  · exact ⟨more, hhandled.symm⟩
  · -- Otherwise the ticket would be in the queue as well, but no ticket is given twice.
    have hqueued : ticket ∈ ticketsOf s.pipeline.queue.toList := by
      rw [hqueue, ticketsOf_append]
      exact List.mem_append_right _ (by simp [ticketsOf])
    have honce : (List.range s.asked).Nodup := List.nodup_range
    rw [← tickets_eq h ho, List.nodup_append] at honce
    exact absurd rfl (honce.2.2 ticket ht ticket hqueued)

/-- Every flush that was asked for is answered, owed an answer or in the queue, and only one of
these and once. The worker answers all of them if it is given its turns, and has when it ends, with
nobody left to ask or to wait. Answers are given to all flushes of a batch at once, and whenever
they are, every message accepted before one of them was handled, no byte waits for any file, and
the files hold the lines of all events that were handled, except those lost with a report. -/
theorem answered_once_flushed {d : Disk} {w : Rolling} (h : Ready d w) (moves : List Move) :
    let s := (start d w).run moves
    s.pipeline.settled ++ s.pipeline.owed ++ ticketsOf s.pipeline.queue.toList =
        List.range s.asked ∧
      (∀ ticket ∈ s.waiting, ticket ∈ List.range s.asked) ∧
      (s.run (List.replicate (s.pipeline.queue.size + 1) .work)).pipeline.settled =
        List.range s.asked ∧
      (s.pipeline.phase = .finished →
        s.pipeline.settled = List.range s.asked ∧ s.holding = 0 ∧ s.waiting = []) ∧
      ∀ move, let s' := s.act move
        s'.pipeline.settled ≠ s.pipeline.settled →
          move = .work ∧ s'.pipeline.settled = s.pipeline.settled ++ s.pipeline.owed ∧
          s'.pipeline.owed = [] ∧
          (∀ ticket ∈ s'.pipeline.settled, ∀ before after,
            s'.accepted = before ++ .flush ticket :: after → before <+: s'.handled) ∧
          (∀ k, s'.pipeline.writer.waitingFor k = []) ∧
          ∃ (shares : List (List Event)) (lost : List Event),
            shares.length = s'.disk.files.length ∧
            (∀ k, (s'.disk.body k).bytes =
              contents d w k ++ Text.encode ((shares.getD k []).flatMap (·.lines w.zone))) ∧
            shares.flatten.Sublist (eventsOf s'.handled) ∧
            (shares.flatten ++ lost).Perm (eventsOf s'.handled) ∧
            s'.trapped.map (·.context? "sequence") = lost.map fun e => some (numberText e) := by
  intro s
  have hanswering : Answering s := answering_run (answering_start d w) moves
  have horderly : Orderly s := orderly_run (orderly_start d w) moves
  have htickets := tickets_eq hanswering horderly
  obtain ⟨shares, lost, hb⟩ := balanced_run (balanced_start h) moves
  refine ⟨htickets, fun ticket ht => List.mem_range.mpr (hanswering.waiting ticket ht),
    settled_run_work hanswering horderly ?_, fun hend => ?_, ?_⟩
  · rw [Queue.length_toList]
    exact Nat.lt_succ_self _
  · obtain ⟨-, hholders, hempty⟩ := horderly.ended hend
    have howed : s.pipeline.owed = [] := hanswering.between (by rw [hend]; decide)
    have hnobody := horderly.holders
    rw [hholders] at hnobody
    rw [howed, hempty, List.append_nil, ticketsOf, List.filterMap_nil, List.append_nil] at htickets
    exact ⟨htickets, by omega, List.length_eq_zero_iff.mp (by omega)⟩
  · intro move s' hmove
    obtain ⟨hwork, -, hsettled, howed, hwaiting⟩ := answers_act hb.shared.ready hmove
    obtain ⟨shares', lost', hb'⟩ := balanced_run hb [move]
    refine ⟨hwork, hsettled, howed, fun ticket ht before after hsplit => ?_, hwaiting, shares',
      lost', hb'.shared.length, fun k => ?_, hb'.order, hb'.all, hb'.trapped⟩
    · exact prefix_handled (answering_act hanswering move) (orderly_act horderly move)
        (List.mem_append_left _ ht) hsplit
    · have hbytes := hb'.shared.contents k
      rw [contents] at hbytes
      change _ ++ s'.pipeline.writer.waitingFor k = _ at hbytes
      rwa [hwaiting k, List.append_nil] at hbytes

/-- A Monday's event, one of the Tuesday after it, a redirect and a third event, with a flush in
between and one whose caller takes hold before the pipeline is stopped and asks after that. The
worker has taken all of them and is about to end. -/
def movesUnderOneFlush : List Move :=
  [.enqueue ⟨1704103200000000000⟩ .info "svc" "up", .hold, .ask,
    .enqueue ⟨1704189600000000000⟩ .warn "svc" "down",
    .redirect ⟨⟨Text.encode "old".toList⟩, "app"⟩,
    .enqueue ⟨1704189600000000000⟩ .info "svc" "again", .hold, .stop, .ask, .work, .work, .work,
    .work, .work, .work]

def sessionUnderOneFlush : Session :=
  (start {} { target := ⟨⟨Text.encode "logs".toList⟩, "app"⟩ }).run movesUnderOneFlush

theorem two_answers_at_once :
    Ready {} { target := ⟨⟨Text.encode "logs".toList⟩, "app"⟩ } ∧
      sessionUnderOneFlush.pipeline.settled = [] ∧
      (sessionUnderOneFlush.act .work).pipeline.settled = [0, 1] ∧
      (eventsOf (sessionUnderOneFlush.act .work).handled).length = 3 ∧
      (sessionUnderOneFlush.act .work).disk.files.length = 3 ∧
      ∀ k, (sessionUnderOneFlush.act .work).pipeline.writer.waitingFor k = [] := by
  have hready : Ready {} { target := ⟨⟨Text.encode "logs".toList⟩, "app"⟩ } :=
    ⟨rfl, fun f hf => by cases hf⟩
  have hbefore : sessionUnderOneFlush.pipeline.settled = [] := by cbv
  have hseen : ((sessionUnderOneFlush.act .work).pipeline.settled,
      (eventsOf (sessionUnderOneFlush.act .work).handled).length,
      (sessionUnderOneFlush.act .work).disk.files.length) = ([0, 1], 3, 3) := by cbv
  obtain ⟨hafter, hevents, hfiles⟩ : _ ∧ _ ∧ _ := by simpa only [Prod.mk.injEq] using hseen
  obtain ⟨-, -, -, -, hanswers⟩ := answered_once_flushed hready movesUnderOneFlush
  have hchanged : (sessionUnderOneFlush.act .work).pipeline.settled ≠
      sessionUnderOneFlush.pipeline.settled := by
    rw [hbefore, hafter]
    decide
  obtain ⟨-, -, -, -, hwaiting, -⟩ := hanswers .work hchanged
  exact ⟨hready, hbefore, hafter, hevents, hfiles, hwaiting⟩

end Session
end EventLog.Pipeline
