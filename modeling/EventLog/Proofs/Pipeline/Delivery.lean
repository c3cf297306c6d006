import EventLog.Proofs.Pipeline.Schedule
import EventLog.Proofs.Rolling.Delivery

/-! What a pipeline has yet to deliver. However far the worker lags behind, the events in the queue
are addressed by the redirects among them, so files and queue together hold each event at the target
that was set when it was accepted. -/
namespace EventLog.Pipeline
open Rolling (Delivered)

/-- The events among some messages, each with the target that is set when it is reached. -/
def addressed : Target → List Message → List Addressed
  | _, [] => []
  | target, .event e :: rest => ⟨target, e⟩ :: addressed target rest
  | _, .redirect next :: rest => addressed next rest
  | target, .flush _ :: rest => addressed target rest

def targetAfter : Target → List Message → Target
  | target, [] => target
  | _, .redirect next :: rest => targetAfter next rest
  | target, .event _ :: rest => targetAfter target rest
  | target, .flush _ :: rest => targetAfter target rest

private theorem addressed_append (target : Target) (a b : List Message) :
    addressed target (a ++ b) = addressed target a ++ addressed (targetAfter target a) b := by
  induction a generalizing target with
  | nil => rfl
  | cons m rest ih => cases m <;> simp [addressed, targetAfter, ih]

theorem targetAfter_append (target : Target) (a b : List Message) :
    targetAfter target (a ++ b) = targetAfter (targetAfter target a) b := by
  induction a generalizing target with
  | nil => rfl
  | cons m rest ih => cases m <;> simp [targetAfter, ih]

/-- Whether the next step of the worker gets the file that it needs, if it needs one. -/
def getsFile (d : Disk) (p : Pipeline) : Bool :=
  match p.queue.pop? with
  | some (.event e, _) => p.writer.getsFile d e
  | _ => true

def getsFiles : (fuel : Nat) → Disk → Pipeline → Bool
  | 0, _, _ => true
  | fuel + 1, d, p =>
    match p.step? d with
    | none => true
    | some one => p.getsFile d && getsFiles fuel one.disk one.pipeline

/-- Whether the worker gets all files that it needs until it waits or has ended. -/
def settlesWell (d : Disk) (p : Pipeline) : Bool := p.getsFiles (p.queue.size + 2) d

/-- Whether the worker gets all files that it needs until it answers a flush that is asked for
now. -/
def flushesWell (d : Disk) (p : Pipeline) : Bool :=
  match p.hold with
  | .error _ => true
  | .ok held => (held.askFlush held.settled.length).settlesWell d

/-- From `d` and `w` on, the files and the queue hold the events of a ledger, each at its own target
and in order; the target is the one that is set once the queue is through. -/
structure Carries (d : Disk) (w : Rolling) (d' : Disk) (p : Pipeline) (target : Target)
    (ledger : List Addressed) : Prop where
  delivered : ∃ filed, Delivered d w d' p.writer filed ∧
    filed.flatten ++ addressed p.writer.target p.queue.toList = ledger
  target : targetAfter p.writer.target p.queue.toList = target
  ended : p.phase = .finished →
    p.next = none ∧ p.queue.toList = [] ∧ p.writer.current = none

variable {d d' : Disk} {w : Rolling} {p : Pipeline} {target : Target} {ledger : List Addressed}

theorem Carries.start {filed : List (List Addressed)} {idle : Rolling}
    (h : Delivered d w d' idle filed) (hc : idle.current = none) (target : Target) :
    Carries d w d' (.start { target, zone := idle.zone }) target filed.flatten := by
  refine ⟨⟨filed, h.handOver hc rfl rfl, ?_⟩, rfl, fun hend => by cases hend⟩
  exact List.append_nil _

private theorem Carries.handled {filed : List (List Addressed)} {m : Message}
    {rest : Queue Message} {after : Disk} {writer : Rolling} {owed : List Nat}
    (h : Carries d w d' p target ledger) (hpop : p.queue.pop? = some (m, rest))
    (hd : Delivered d w after writer filed)
    (hledger : filed.flatten ++ addressed writer.target rest.toList = ledger)
    (htarget : targetAfter writer.target rest.toList =
      targetAfter p.writer.target (m :: rest.toList)) :
    Carries d w after { p with queue := rest, phase := .taking, writer, owed } target ledger := by
  refine ⟨⟨filed, hd, hledger⟩, ?_, fun hend => by cases hend⟩
  rw [htarget, ← Queue.pop?_eq_some hpop, h.target]

private theorem Carries.handle {m : Message} {rest : Queue Message}
    (h : Carries d w d' p target ledger) (hpop : p.queue.pop? = some (m, rest))
    (hgets : p.getsFile d' = true) :
    let r := handle d' { p with queue := rest, phase := .taking } m
    Carries d w r.disk r.pipeline target ledger ∧ r.trapped = [] ∧ r.pipeline.next = p.next ∧
      r.pipeline.holders = p.holders := by
  obtain ⟨filed, hd, hledger⟩ := h.delivered
  rw [Queue.pop?_eq_some hpop] at hledger
  cases m with
  | event e =>
    rw [getsFile, hpop] at hgets
    obtain ⟨hresult, haside, hwritten, filed', hd', hflatten⟩ := hd.write hgets
    refine ⟨h.handled hpop hd' ?_ ?_, ?_, rfl, rfl⟩
    · rw [hflatten, hwritten, List.append_assoc]
      exact hledger
    · rw [hwritten]
      rfl
    · simp only [Pipeline.handle, hresult, haside, Except.mapError, errorOf, List.append_nil]
  | redirect next =>
    obtain ⟨hs, hw⟩ := Rolling.redirect_settled hd.shared.ready next
    refine ⟨h.handled hpop (hd.redirect next) ?_ ?_, ?_, rfl, rfl⟩
    · rw [hw]
      exact hledger
    · rw [hw]
      rfl
    · simp only [Pipeline.handle, hs.result, errorOf]
  | flush ticket => exact ⟨h.handled hpop hd hledger rfl, rfl, rfl, rfl⟩

/-- A step of the worker that gets its file moves events from the queue to the files, and no
further. -/
theorem Carries.step {r : Worked} (h : Carries d w d' p target ledger)
    (hgets : p.getsFile d' = true) (hr : p.step? d' = some r) :
    Carries d w r.disk r.pipeline target ledger ∧ r.trapped = [] ∧ r.pipeline.next = p.next ∧
      r.pipeline.holders = p.holders := by
  obtain ⟨filed, hd, hledger⟩ := h.delivered
  obtain ⟨hflushed, hwriter⟩ := Rolling.flush_settled hd.shared.ready
  rcases step?_cases hr with ⟨-, ⟨m, rest, hpop, rfl⟩ | ⟨-, -, -, rfl⟩ | ⟨hpop, hcut, rfl⟩⟩
  · exact h.handle hpop hgets
  · have htarget : (p.endBatch d').pipeline.writer.target = p.writer.target := by
      simp only [endBatch, hwriter]
    refine ⟨⟨⟨filed, hd.flush, ?_⟩, ?_, fun hend => by cases hend⟩, ?_, rfl, rfl⟩
    · rw [htarget]
      exact hledger
    · rw [htarget]
      exact h.target
    · simp only [endBatch, hflushed.result, errorOf]
  · obtain ⟨hclosed, hwriter'⟩ := Rolling.close_settled hflushed.ready
    have htarget : (p.finish d').pipeline.writer.target = p.writer.target := by
      simp only [finish, endBatch]
      rw [hwriter', hwriter]
    refine ⟨⟨⟨filed, hd.flush.close, ?_⟩, ?_, fun _ => ⟨?_, ?_, ?_⟩⟩, ?_, rfl, rfl⟩
    · rw [htarget]
      exact hledger
    · rw [htarget]
      exact h.target
    · exact Option.isNone_iff_eq_none.mp (Bool.and_eq_true_iff.mp hcut).1
    · exact (Queue.pop?_eq_none_iff _).mp hpop
    · simp only [finish, endBatch]
      rw [hwriter']
    · simp only [finish, endBatch, hflushed.result, hclosed.result, errorOf, List.append_nil]

private theorem Carries.steps {n : Nat} (h : Carries d w d' p target ledger)
    (hgets : p.getsFiles n d' = true) :
    Carries d w (p.steps n d').disk (p.steps n d').pipeline target ledger ∧
      (p.steps n d').trapped = [] ∧ (p.steps n d').pipeline.next = p.next ∧
      (p.steps n d').pipeline.holders = p.holders := by
  induction n generalizing d' p with
  | zero => exact ⟨h, rfl, rfl, rfl⟩
  | succ n ih =>
    rw [getsFiles] at hgets
    rw [Pipeline.steps]
    cases hr : p.step? d' with
    | none => exact ⟨h, rfl, rfl, rfl⟩
    | some one =>
      rw [hr] at hgets
      obtain ⟨hone, hrest⟩ := Bool.and_eq_true_iff.mp hgets
      obtain ⟨hstep, htrapped, hnext, hholders⟩ := h.step hone hr
      obtain ⟨hsteps, htrapped', hnext', hholders'⟩ := ih hstep hrest
      refine ⟨hsteps, ?_, hnext'.trans hnext, hholders'.trans hholders⟩
      simp only [htrapped, htrapped', List.append_nil]

private theorem Carries.ne_finished {n : UInt64} (h : Carries d w d' p target ledger)
    (hnext : p.next = some n) : p.phase ≠ .finished := by
  intro hend
  rw [(h.ended hend).1] at hnext
  cases hnext

/-- An event is accepted for the target that is set once the queue is through. -/
theorem Carries.enqueue {n : UInt64} (h : Carries d w d' p target ledger) (hnext : p.next = some n)
    (now : Instant) (level : Level) (channel text : String) :
    ∃ queued, p.enqueue now level channel text = .ok (n, queued) ∧
      Carries d w d' queued target (ledger ++ [⟨target, ⟨n, level, now, channel, text⟩⟩]) ∧
      queued.next = some (n + 1) ∧ queued.holders = p.holders := by
  obtain ⟨filed, hd, hledger⟩ := h.delivered
  let e : Event := ⟨n, level, now, channel, text⟩
  refine ⟨{ p with next := some (n + 1), queue := p.queue.push (.event e) },
    by simp only [Pipeline.enqueue, hnext, e],
    ⟨⟨filed, hd, ?_⟩, ?_, fun hend => absurd hend (h.ne_finished hnext)⟩, rfl, rfl⟩
  · -- The queue before it may hold redirects: the target is the one after all of them.
    rw [Queue.toList_push, addressed_append, h.target, ← List.append_assoc, hledger]
    rfl
  · rw [Queue.toList_push, targetAfter_append, h.target]
    rfl

theorem Carries.redirect {n : UInt64} (h : Carries d w d' p target ledger)
    (hnext : p.next = some n) (next : Target) :
    ∃ queued, p.redirect next = .ok queued ∧ Carries d w d' queued next ledger ∧
      queued.next = p.next ∧ queued.holders = p.holders := by
  obtain ⟨filed, hd, hledger⟩ := h.delivered
  refine ⟨{ p with queue := p.queue.push (.redirect next) },
    by simp only [Pipeline.redirect, hnext],
    ⟨⟨filed, hd, ?_⟩, ?_, fun hend => absurd hend (h.ne_finished hnext)⟩, rfl, rfl⟩
  · rw [Queue.toList_push, addressed_append]
    exact (List.append_nil _).symm ▸ hledger
  · rw [Queue.toList_push, targetAfter_append]
    rfl

private theorem Carries.askFlush {n : UInt64} (h : Carries d w d' p target ledger)
    (hnext : p.next = some n) (holders ticket : Nat) :
    Carries d w d' ({ p with holders }.askFlush ticket) target ledger := by
  obtain ⟨filed, hd, hledger⟩ := h.delivered
  refine ⟨⟨filed, hd, ?_⟩, ?_, fun hend => absurd hend (h.ne_finished hnext)⟩
  · rw [Pipeline.askFlush, Queue.toList_push, addressed_append]
    exact (List.append_nil _).symm ▸ hledger
  · rw [Pipeline.askFlush, Queue.toList_push, targetAfter_append, h.target]
    rfl

/-- A flush is answered, and the pipeline stays open for more. -/
theorem Carries.flush {n : UInt64} (h : Carries d w d' p target ledger) (hnext : p.next = some n)
    (hgets : p.flushesWell d' = true) :
    (p.flush d').2 = .ok () ∧
      Carries d w (p.flush d').1.disk (p.flush d').1.pipeline target ledger ∧
      (p.flush d').1.trapped = [] ∧ (p.flush d').1.pipeline.next = p.next ∧
      (p.flush d').1.pipeline.holders = p.holders := by
  have hheld : p.hold = .ok { p with holders := p.holders + 1 } := by simp only [hold, hnext]
  rw [flushesWell, hheld] at hgets
  rw [Pipeline.flush, hheld]
  obtain ⟨hsteps, htrapped, hnext', hholders⟩ :=
    (h.askFlush hnext (p.holders + 1) p.settled.length).steps hgets
  refine ⟨rfl, ⟨hsteps.delivered, hsteps.target, hsteps.ended⟩, htrapped, hnext', ?_⟩
  exact congrArg (· - 1) hholders

/-- A pipeline that is shut down while no flush is under way leaves no event behind. -/
theorem Carries.shutdown (h : Carries d w d' p target ledger) (hholders : p.holders = 0)
    (hgets : p.stop.settlesWell d' = true) :
    (∃ filed, Delivered d w (p.shutdown d').disk (p.shutdown d').pipeline.writer filed ∧
        filed.flatten = ledger) ∧
      (p.shutdown d').pipeline.writer.current = none ∧ (p.shutdown d').trapped = [] := by
  have hstopped : Carries d w d' p.stop target ledger :=
    ⟨h.delivered, h.target, fun hend => ⟨rfl, (h.ended hend).2⟩⟩
  obtain ⟨hsteps, htrapped, -, -⟩ := hstopped.steps hgets
  obtain ⟨moves, -, hpipeline, hphase⟩ :=
    Session.run_eq_shutdown (s := { disk := d', pipeline := p }) hholders
  rw [hpipeline] at hphase
  -- The worker has ended, so nothing is queued any more and the files alone hold the ledger.
  obtain ⟨-, hqueue, hcurrent⟩ := hsteps.ended hphase
  obtain ⟨filed, hd, hledger⟩ := hsteps.delivered
  rw [hqueue] at hledger
  exact ⟨⟨filed, hd, (List.append_nil _).symm.trans hledger⟩, hcurrent, htrapped⟩

/-- New entries move no event. -/
theorem Carries.grown {after : Disk} (h : Carries d w d' p target ledger) (keeps : d'.Keeps after)
    (files : after.files = d'.files) : Carries d w after p target ledger := by
  obtain ⟨filed, hd, hledger⟩ := h.delivered
  exact ⟨⟨filed, hd.grown keeps files, hledger⟩, h.target, h.ended⟩

end EventLog.Pipeline
