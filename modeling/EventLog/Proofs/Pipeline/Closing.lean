import EventLog.Proofs.Pipeline.Schedule

/-! A pipeline that was stopped. What comes too late is refused and leaves no trace, and once the
worker has ended nothing moves any more. -/
namespace EventLog.Pipeline

/-- What a caller may ask of a pipeline. Each call lasts until it returns. -/
inductive Call where
  | enqueue (now : Instant) (level : Level) (channel text : String)
  | redirect (target : Target)
  | flush
  | shutdown
  deriving DecidableEq, Repr

/-- What a call returns if it comes too late. -/
def Call.late : Call → Except Error (Option UInt64)
  | shutdown => .ok none
  | _ => .error closedError

/-- Makes a call. For an event that was accepted it returns the number. -/
def call (d : Disk) (p : Pipeline) : Call → Worked × Except Error (Option UInt64)
  | .enqueue now level channel text =>
    match p.enqueue now level channel text with
    | .ok (n, after) => ({ disk := d, pipeline := after }, .ok (some n))
    | .error e => ({ disk := d, pipeline := p }, .error e)
  | .redirect target =>
    match p.redirect target with
    | .ok after => ({ disk := d, pipeline := after }, .ok none)
    | .error e => ({ disk := d, pipeline := p }, .error e)
  | .flush => ((p.flush d).1, (p.flush d).2.map fun () => none)
  | .shutdown => (p.shutdown d, .ok none)

def calls : Disk → Pipeline → List Call → Worked × List (Except Error (Option UInt64))
  | d, p, [] => ({ disk := d, pipeline := p }, [])
  | d, p, c :: rest =>
    let (one, answer) := p.call d c
    let (more, answers) := calls one.disk one.pipeline rest
    ({ more with trapped := one.trapped ++ more.trapped }, answer :: answers)

/-- Whether calls change nothing any more, whatever the disk is like by then. -/
def IsClosed (p : Pipeline) : Prop :=
  p.isShutdown = true ∧
    ∀ d later, p.calls d later = ({ disk := d, pipeline := p }, later.map Call.late)

variable {d : Disk} {p : Pipeline}

theorem flush_of_stopped (h : p.next = none) :
    p.flush d = ({ disk := d, pipeline := p }, .error closedError) := by
  simp only [flush, hold, h]

private theorem call_of_stopped (h : p.next = none) {c : Call} (hc : c ≠ .shutdown) :
    p.call d c = ({ disk := d, pipeline := p }, .error closedError) := by
  cases c with
  | enqueue now level channel text => simp only [call, enqueue, h]
  | redirect target => simp only [call, Pipeline.redirect, h]
  | flush => simp only [call, flush_of_stopped h, Except.map]
  | shutdown => exact absurd rfl hc

theorem step?_of_finished (h : p.phase = .finished) : p.step? d = none := by
  simp [step?, h]

private theorem steps_of_finished (h : p.phase = .finished) (n : Nat) :
    steps n d p = { disk := d, pipeline := p } := by
  cases n with
  | zero => rfl
  | succ n => rw [steps, step?_of_finished h]

private theorem stop_of_stopped (h : p.next = none) : p.stop = p := by rw [stop, ← h]

/-- The worker accepts nothing, and lets nobody go. -/
theorem step?_keeps {r : Worked} (h : p.step? d = some r) :
    r.pipeline.next = p.next ∧ r.pipeline.holders = p.holders := by
  rcases step?_cases h with ⟨-, ⟨m, rest, -, rfl⟩ | ⟨-, -, -, rfl⟩ | ⟨-, -, rfl⟩⟩
  · obtain ⟨writer, owed, hp⟩ :=
      Session.handle_pipeline d { p with queue := rest, phase := .taking } m
    rw [hp]
    exact ⟨rfl, rfl⟩
  · exact ⟨rfl, rfl⟩
  · exact ⟨rfl, rfl⟩

private theorem steps_keeps (n : Nat) (d : Disk) (p : Pipeline) :
    (steps n d p).pipeline.next = p.next ∧ (steps n d p).pipeline.holders = p.holders := by
  induction n generalizing d p with
  | zero => exact ⟨rfl, rfl⟩
  | succ n ih =>
    rw [steps]
    split
    · exact ⟨rfl, rfl⟩
    · next one hone =>
      obtain ⟨hnext, hholders⟩ := step?_keeps hone
      obtain ⟨hnext', hholders'⟩ := ih one.disk one.pipeline
      exact ⟨hnext'.trans hnext, hholders'.trans hholders⟩

/-- A flush lets go of the queue again. -/
theorem flush_keeps (d : Disk) (p : Pipeline) :
    (p.flush d).1.pipeline.next = p.next ∧ (p.flush d).1.pipeline.holders = p.holders := by
  rw [flush]
  split
  · exact ⟨rfl, rfl⟩
  · next held hheld =>
    obtain ⟨-, rfl⟩ := hold_eq_ok hheld
    obtain ⟨hnext, hholders⟩ := steps_keeps
      ((askFlush { p with holders := p.holders + 1 } p.settled.length).queue.size + 2) d
      (askFlush { p with holders := p.holders + 1 } p.settled.length)
    exact ⟨hnext, Nat.sub_eq_of_eq_add hholders⟩

/-- A shutdown returns if no flush is under way, and the worker has ended by then. -/
theorem shutdown_ends (h : p.holders = 0) :
    (p.shutdown d).pipeline.next = none ∧ (p.shutdown d).pipeline.phase = .finished := by
  obtain ⟨moves, -, hpipeline, hphase⟩ :=
    Session.run_eq_shutdown (s := { disk := d, pipeline := p }) h
  rw [hpipeline] at hphase
  exact ⟨(steps_keeps _ _ _).1, hphase⟩

/-- A second shutdown has nothing to wait for. -/
theorem shutdown_of_finished (hnext : p.next = none) (hphase : p.phase = .finished) :
    p.shutdown d = { disk := d, pipeline := p } := by
  rw [shutdown, stop_of_stopped hnext, settle, steps_of_finished hphase]

/-- Every call but a shutdown is refused as soon as the pipeline was stopped, also while the worker
still has messages to handle. -/
theorem calls_of_stopped (h : p.next = none) {later : List Call} (hlater : .shutdown ∉ later) :
    p.calls d later = ({ disk := d, pipeline := p }, later.map fun _ => .error closedError) := by
  induction later with
  | nil => rfl
  | cons c rest ih =>
    obtain ⟨hc, hrest⟩ := not_or.mp (mt List.mem_cons.mpr hlater)
    rw [calls, call_of_stopped h (Ne.symm hc)]
    simp only [ih hrest, List.nil_append, List.map_cons]

private theorem call_of_finished (hnext : p.next = none) (hphase : p.phase = .finished) (c : Call) :
    p.call d c = ({ disk := d, pipeline := p }, c.late) := by
  by_cases hc : c = .shutdown
  · subst hc
    rw [call, shutdown_of_finished hnext hphase, Call.late]
  · rw [call_of_stopped hnext hc]
    cases c with
    | shutdown => exact absurd rfl hc
    | enqueue | redirect | flush => rfl

theorem isClosed_of_finished (hnext : p.next = none) (hphase : p.phase = .finished) :
    p.IsClosed := by
  refine ⟨Option.isNone_iff_eq_none.mpr hnext, fun d later => ?_⟩
  induction later with
  | nil => rfl
  | cons c rest ih =>
    rw [calls, call_of_finished hnext hphase]
    simp only [ih, List.nil_append, List.map_cons]

def Move.isWeather : Move → Bool
  | weather .. => true
  | _ => false

namespace Session

variable {s : Session}

/-- Of a session whose worker has ended, no move changes anything but the weather. -/
theorem act_of_finished (h : Orderly s) (hphase : s.pipeline.phase = .finished) {move : Move}
    (hmove : move.isWeather = false) : s.act move = s := by
  obtain ⟨hnext, hholders, -⟩ := h.ended hphase
  have hflushes : s.holding + s.waiting.length = 0 := h.holders ▸ hholders
  cases move with
  | enqueue now level channel text => simp only [act, enqueue, Pipeline.enqueue, hnext]
  | redirect target => simp only [act, redirect, Pipeline.redirect, hnext]
  | hold => simp only [act, hold, Pipeline.hold, hnext]
  | ask => exact if_pos (by omega)
  | release ticket =>
    have hwaiting : s.waiting = [] := List.length_eq_zero_iff.mp (by omega)
    refine if_neg fun hticket => ?_
    rw [hwaiting] at hticket
    cases hticket.1
  | stop => rw [act, stop_of_stopped hnext]
  | work => rw [act, work, step?_of_finished hphase]
  | weather => cases hmove

private theorem run_of_finished (h : Orderly s) (hphase : s.pipeline.phase = .finished)
    (later : List Move) : s.run later = s.run (later.filter Move.isWeather) := by
  induction later generalizing s with
  | nil => rfl
  | cons move rest ih =>
    cases hmove : move.isWeather with
    | false =>
      rw [List.filter_cons_of_neg (by simp [hmove]), ← ih h hphase]
      change (s.act move).run rest = s.run rest
      rw [act_of_finished h hphase hmove]
    | true =>
      rw [List.filter_cons_of_pos hmove]
      cases move with
      | weather => exact ih (orderly_act h _) hphase
      | _ => cases hmove

/-- Where a session may be after a shutdown: once it was called, everything else is refused without
effect, and once it has returned, the pipeline is closed and nothing but the weather moves. A
shutdown that is called while no flush is under way returns. -/
structure Shut (s : Session) : Prop where
  called : s.pipeline.isShutdown = true → ∀ d later, .shutdown ∉ later →
    s.pipeline.calls d later =
      ({ disk := d, pipeline := s.pipeline }, later.map fun _ => .error closedError)
  returned : s.pipeline.phase = .finished → s.pipeline.IsClosed ∧
    ∀ later : List Move, s.run later = s.run (later.filter Move.isWeather)
  returns : s.pipeline.holders = 0 →
    (s.pipeline.shutdown s.disk).pipeline.phase = .finished ∧
      (s.pipeline.shutdown s.disk).pipeline.IsClosed

theorem shut_of_orderly (h : Orderly s) : Shut s := by
  refine ⟨fun hcalled d later hlater => ?_, fun hphase => ?_, fun hholders => ?_⟩
  · exact calls_of_stopped (Option.isNone_iff_eq_none.mp hcalled) hlater
  · obtain ⟨hnext, -⟩ := h.ended hphase
    exact ⟨isClosed_of_finished hnext hphase, run_of_finished h hphase⟩
  · obtain ⟨hnext, hphase⟩ := shutdown_ends (d := s.disk) hholders
    exact ⟨hphase, isClosed_of_finished hnext hphase⟩

end Session

end EventLog.Pipeline
