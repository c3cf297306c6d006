import EventLog.Pipeline.Worker
import Mathlib.Data.List.Range

/-! Runs of a pipeline. Callers, the worker and the rest of the system take turns in any order, and
a session keeps the record of what was accepted, handled, answered and trapped. -/
namespace EventLog.Pipeline

/-- What may come next. A flush takes three turns of its caller: it takes hold of the queue, asks,
and lets go once it was answered. The rest of the system may change all entries of the disk, and
whether new files and new directories are refused. -/
inductive Move where
  | enqueue (now : Instant) (level : Level) (channel text : String)
  | redirect (target : Target)
  | hold
  | ask
  | release (ticket : Nat)
  | stop
  | work
  | weather (entries : Entries) (here : Location) (refusesFiles refusesDirectories : Option Fault)

/-- A pipeline on its disk, and what happened so far: the messages that were accepted and those that
were handled, the numbers that callers were given, and the errors that were trapped. `holding` are
the flushes still to be asked for, and `waiting` the tickets of those that were. -/
structure Session where
  disk : Disk
  pipeline : Pipeline
  accepted : List Message := []
  handled : List Message := []
  returned : List UInt64 := []
  trapped : List Error := []
  holding : Nat := 0
  waiting : List Nat := []
  asked : Nat := 0

namespace Session

def start (d : Disk) (w : Rolling) : Session := { disk := d, pipeline := .start w }

/-- What a step of the worker makes of a session. The message that it took, if any, is handled. -/
def advance (s : Session) (r : Worked) : Session :=
  { s with
    disk := r.disk
    pipeline := r.pipeline
    handled := s.handled ++ (s.pipeline.queue.pop?.map (·.1)).toList
    trapped := s.trapped ++ r.trapped }

def work (s : Session) : Session :=
  match s.pipeline.step? s.disk with
  | none => s
  | some r => s.advance r

def enqueue (s : Session) (now : Instant) (level : Level) (channel text : String) : Session :=
  match s.pipeline.enqueue now level channel text with
  | .error _ => s
  | .ok (n, p) =>
    { s with
      pipeline := p
      accepted := s.accepted ++ [.event ⟨n, level, now, channel, text⟩]
      returned := s.returned ++ [n] }

def redirect (s : Session) (target : Target) : Session :=
  match s.pipeline.redirect target with
  | .error _ => s
  | .ok p => { s with pipeline := p, accepted := s.accepted ++ [.redirect target] }

/-- The start of a flush. -/
def hold (s : Session) : Session :=
  match s.pipeline.hold with
  | .error _ => s
  | .ok p => { s with pipeline := p, holding := s.holding + 1 }

/-- A flush goes into the queue, under the next ticket. -/
def ask (s : Session) : Session :=
  if s.holding = 0 then s
  else
    { s with
      pipeline := s.pipeline.askFlush s.asked
      accepted := s.accepted ++ [.flush s.asked]
      holding := s.holding - 1
      waiting := s.waiting ++ [s.asked]
      asked := s.asked + 1 }

/-- The end of a flush that was answered. -/
def release (s : Session) (ticket : Nat) : Session :=
  if ticket ∈ s.waiting ∧ ticket ∈ s.pipeline.settled then
    { s with pipeline := s.pipeline.release, waiting := s.waiting.erase ticket }
  else s

/-- Makes a move. One that is not possible changes nothing. -/
def act (s : Session) : Move → Session
  | .enqueue now level channel text => s.enqueue now level channel text
  | .redirect target => s.redirect target
  | .hold => s.hold
  | .ask => s.ask
  | .release ticket => s.release ticket
  | .stop => { s with pipeline := s.pipeline.stop }
  | .work => s.work
  | .weather entries here refusesFiles refusesDirectories =>
    { s with disk := { s.disk with entries, here, refusesFiles, refusesDirectories } }

def run (s : Session) (moves : List Move) : Session := moves.foldl act s

end Session

def eventsOf (messages : List Message) : List Event :=
  messages.filterMap fun
    | .event e => some e
    | _ => none

theorem eventsOf_append (a b : List Message) : eventsOf (a ++ b) = eventsOf a ++ eventsOf b :=
  List.filterMap_append

theorem enqueue_eq_ok {p after : Pipeline} {now : Instant} {level : Level} {channel text : String}
    {n : UInt64} (h : p.enqueue now level channel text = .ok (n, after)) :
    p.next = some n ∧
      after =
        { p with
          next := some (n + 1)
          queue := p.queue.push (.event ⟨n, level, now, channel, text⟩) } := by
  unfold Pipeline.enqueue at h
  split at h
  · cases h
  · next hnext =>
    cases h
    exact ⟨hnext, rfl⟩

theorem redirect_eq_ok {p after : Pipeline} {target : Target} (h : p.redirect target = .ok after) :
    p.next ≠ none ∧ after = { p with queue := p.queue.push (.redirect target) } := by
  unfold Pipeline.redirect at h
  split at h
  · cases h
  · next hnext =>
    cases h
    exact ⟨by simp [hnext], rfl⟩

theorem hold_eq_ok {p after : Pipeline} (h : p.hold = .ok after) :
    p.next ≠ none ∧ after = { p with holders := p.holders + 1 } := by
  unfold Pipeline.hold at h
  split at h
  · cases h
  · next hnext =>
    cases h
    exact ⟨by simp [hnext], rfl⟩

/-- All that a step of the worker can be: it handles the next message, or ends a batch, or ends the
last batch and with it the work. -/
theorem step?_cases {d : Disk} {p : Pipeline} {r : Worked} (h : p.step? d = some r) :
    p.phase ≠ .finished ∧
      ((∃ m rest, p.queue.pop? = some (m, rest) ∧
          r = handle d { p with queue := rest, phase := .taking } m) ∨
        (p.phase = .taking ∧ p.queue.pop? = none ∧ p.isCut = false ∧ r = p.endBatch d) ∨
        (p.queue.pop? = none ∧ p.isCut = true ∧ r = p.finish d)) := by
  unfold step? at h
  split at h
  · cases h
  · next hpop hphase =>
    cases h
    exact ⟨hphase, .inl ⟨_, _, hpop, rfl⟩⟩
  · next hphase hpop =>
    cases h
    refine ⟨by rw [hphase]; decide, .inr ?_⟩
    split
    · next hcut => exact .inr ⟨hpop, hcut, rfl⟩
    · next hcut => exact .inl ⟨hphase, hpop, Bool.eq_false_iff.mpr hcut, rfl⟩
  · next hphase hpop =>
    split at h
    · next hcut =>
      cases h
      exact ⟨by rw [hphase]; decide, .inr (.inr ⟨hpop, hcut, rfl⟩)⟩
    · cases h

namespace Session

/-- What callers and the worker keep to. Numbers are given in order, messages are handled in the
order in which they were accepted, and the worker ends only when nothing is left and nothing can
come. -/
structure Orderly (s : Session) : Prop where
  order : s.accepted = s.handled ++ s.pipeline.queue.toList
  numbers : (eventsOf s.accepted).map (·.sequence) = s.returned
  returned : s.returned = (List.range s.returned.length).map UInt64.ofNat
  next : ∀ n ∈ s.pipeline.next, n = UInt64.ofNat s.returned.length
  holders : s.pipeline.holders = s.holding + s.waiting.length
  ended : s.pipeline.phase = .finished →
    s.pipeline.next = none ∧ s.pipeline.holders = 0 ∧ s.pipeline.queue.toList = []

theorem orderly_start (d : Disk) (w : Rolling) : Orderly (start d w) where
  order := rfl
  numbers := rfl
  returned := rfl
  next := by
    rintro n ⟨⟩
    rfl
  holders := rfl
  ended h := by cases h

/-- Handling a message changes the writer, and maybe which flushes are to be answered. -/
theorem handle_pipeline (d : Disk) (p : Pipeline) (m : Message) :
    ∃ writer owed, (handle d p m).pipeline = { p with writer, owed } := by
  cases m with
  | event e => exact ⟨_, _, rfl⟩
  | redirect target => exact ⟨_, _, rfl⟩
  | flush ticket => exact ⟨_, _, rfl⟩

private theorem eq_none_of_isCut {p : Pipeline} (h : p.isCut = true) :
    p.next = none ∧ p.holders = 0 := by
  obtain ⟨hnext, hholders⟩ := Bool.and_eq_true_iff.mp h
  exact ⟨Option.isNone_iff_eq_none.mp hnext, eq_of_beq hholders⟩

variable {s : Session}

theorem handled_advance_some {m : Message} {rest : Queue Message} (r : Worked)
    (h : s.pipeline.queue.pop? = some (m, rest)) :
    (s.advance r).handled = s.handled ++ [m] := by
  simp [advance, h]

theorem handled_advance_none (r : Worked) (h : s.pipeline.queue.pop? = none) :
    (s.advance r).handled = s.handled := by
  simp [advance, h]

private theorem orderly_work (h : Orderly s) : Orderly s.work := by
  unfold work
  split
  · exact h
  · next r hr =>
    rcases step?_cases hr with ⟨-, ⟨m, rest, hpop, rfl⟩ | ⟨-, hpop, -, rfl⟩ | ⟨hpop, hcut, rfl⟩⟩
    · obtain ⟨writer, owed, hp⟩ :=
        handle_pipeline s.disk { s.pipeline with queue := rest, phase := .taking } m
      have horder := h.order
      rw [Queue.pop?_eq_some hpop] at horder
      refine ⟨?_, h.numbers, h.returned, ?_, ?_, ?_⟩
      · rw [handled_advance_some _ hpop]
        simp [advance, hp, horder]
      · simp only [advance, hp]
        exact h.next
      · simp only [advance, hp]
        exact h.holders
      · simp only [advance, hp]
        rintro ⟨⟩
    · refine ⟨?_, h.numbers, h.returned, h.next, h.holders, fun hend => by cases hend⟩
      rw [handled_advance_none _ hpop]
      exact h.order
    · refine ⟨?_, h.numbers, h.returned, h.next, h.holders, fun _ => ?_⟩
      · rw [handled_advance_none _ hpop]
        exact h.order
      · obtain ⟨hnext, hholders⟩ := eq_none_of_isCut hcut
        exact ⟨hnext, hholders, (Queue.pop?_eq_none_iff _).mp hpop⟩

private theorem orderly_enqueue (h : Orderly s) (now : Instant) (level : Level)
    (channel text : String) : Orderly (s.enqueue now level channel text) := by
  unfold enqueue
  split
  · exact h
  · next n p hp =>
    obtain ⟨hnext, rfl⟩ := enqueue_eq_ok hp
    have hn := h.next n hnext
    have hreturned : s.returned ++ [n] =
        (List.range (s.returned ++ [n]).length).map UInt64.ofNat := by
      rw [List.length_append, List.length_singleton, List.range_succ, List.map_append,
        ← h.returned, hn]
      rfl
    refine ⟨?_, ?_, hreturned, ?_, h.holders, fun hend => ?_⟩
    · simp [h.order]
    · rw [eventsOf_append, List.map_append, h.numbers]
      rfl
    · rintro next ⟨⟩
      rw [hn, List.length_append, List.length_singleton, UInt64.ofNat_add]
      rfl
    · rw [(h.ended hend).1] at hnext
      cases hnext

private theorem orderly_push (h : Orderly s) {m : Message} (hm : eventsOf [m] = [])
    (hopen : s.pipeline.phase ≠ .finished) : Orderly
      { s with
        pipeline := { s.pipeline with queue := s.pipeline.queue.push m }
        accepted := s.accepted ++ [m] } := by
  refine ⟨?_, ?_, h.returned, h.next, h.holders, fun hend => absurd hend hopen⟩
  · simp [h.order]
  · rw [eventsOf_append, hm, List.append_nil]
    exact h.numbers

private theorem ne_finished (h : Orderly s) (hnext : s.pipeline.next ≠ none) :
    s.pipeline.phase ≠ .finished := fun hend => hnext (h.ended hend).1

private theorem orderly_redirect (h : Orderly s) (target : Target) :
    Orderly (s.redirect target) := by
  unfold redirect
  split
  · exact h
  · next p hp =>
    obtain ⟨hnext, rfl⟩ := redirect_eq_ok hp
    exact orderly_push h (m := .redirect target) rfl (ne_finished h hnext)

private theorem orderly_hold (h : Orderly s) : Orderly s.hold := by
  unfold hold
  split
  · exact h
  · next p hp =>
    obtain ⟨hnext, rfl⟩ := hold_eq_ok hp
    refine ⟨h.order, h.numbers, h.returned, h.next, ?_, fun hend => ?_⟩
    · have := h.holders
      simp only
      omega
    · exact (ne_finished h hnext hend).elim

private theorem orderly_ask (h : Orderly s) : Orderly s.ask := by
  unfold ask
  split
  · exact h
  · next hholding =>
    have hopen : s.pipeline.phase ≠ .finished := by
      intro hend
      have hholders := h.holders
      rw [(h.ended hend).2.1] at hholders
      omega
    have hpush := orderly_push h (m := .flush s.asked) rfl hopen
    refine ⟨hpush.order, hpush.numbers, h.returned, h.next, ?_, hpush.ended⟩
    have := h.holders
    simp only [askFlush, List.length_append, List.length_singleton]
    omega

private theorem orderly_release (h : Orderly s) (ticket : Nat) : Orderly (s.release ticket) := by
  unfold release
  split
  · next hticket =>
    refine ⟨h.order, h.numbers, h.returned, h.next, ?_, fun hend => ?_⟩
    · have hholders := h.holders
      have hpos : 0 < s.waiting.length := List.length_pos_of_mem hticket.1
      simp only [Pipeline.release, List.length_erase_of_mem hticket.1]
      omega
    · obtain ⟨hnext, hholders, hqueue⟩ := h.ended hend
      exact ⟨hnext, by simp [Pipeline.release, hholders], hqueue⟩
  · exact h

theorem orderly_act (h : Orderly s) (move : Move) : Orderly (s.act move) := by
  cases move with
  | enqueue now level channel text => exact orderly_enqueue h now level channel text
  | redirect target => exact orderly_redirect h target
  | hold => exact orderly_hold h
  | ask => exact orderly_ask h
  | release ticket => exact orderly_release h ticket
  | stop =>
    refine ⟨h.order, h.numbers, h.returned, (by rintro n ⟨⟩), h.holders, fun hend => ?_⟩
    exact ⟨rfl, (h.ended hend).2⟩
  | work => exact orderly_work h
  | weather =>
    exact ⟨h.order, h.numbers, h.returned, h.next, h.holders, h.ended⟩

/-- Every session that came about from a new pipeline is orderly. -/
theorem orderly_run (h : Orderly s) (moves : List Move) : Orderly (s.run moves) := by
  induction moves generalizing s with
  | nil => exact h
  | cons move rest ih => exact ih (orderly_act h move)

/-- The side of a session that only the worker and the weather change. -/
structure Aside (s s' : Session) : Prop where
  disk : s'.disk = s.disk
  handled : s'.handled = s.handled
  trapped : s'.trapped = s.trapped
  writer : s'.pipeline.writer = s.pipeline.writer
  phase : s'.pipeline.phase = s.pipeline.phase
  owed : s'.pipeline.owed = s.pipeline.owed
  settled : s'.pipeline.settled = s.pipeline.settled

private theorem Aside.refl (s : Session) : Aside s s := ⟨rfl, rfl, rfl, rfl, rfl, rfl, rfl⟩

private theorem aside_enqueue (s : Session) (now : Instant) (level : Level)
    (channel text : String) : Aside s (s.enqueue now level channel text) := by
  unfold enqueue
  split
  · exact .refl s
  · next hp =>
    obtain ⟨-, rfl⟩ := enqueue_eq_ok hp
    exact ⟨rfl, rfl, rfl, rfl, rfl, rfl, rfl⟩

private theorem aside_redirect (s : Session) (target : Target) : Aside s (s.redirect target) := by
  unfold redirect
  split
  · exact .refl s
  · next hp =>
    obtain ⟨-, rfl⟩ := redirect_eq_ok hp
    exact ⟨rfl, rfl, rfl, rfl, rfl, rfl, rfl⟩

private theorem aside_hold (s : Session) : Aside s s.hold := by
  unfold hold
  split
  · exact .refl s
  · next hp =>
    obtain ⟨-, rfl⟩ := hold_eq_ok hp
    exact ⟨rfl, rfl, rfl, rfl, rfl, rfl, rfl⟩

/-- A move is the worker's, or the weather's, which changes no file, or leaves their side alone. -/
theorem aside_act (s : Session) (move : Move) :
    move = .work ∨
      (∃ disk, disk.files = s.disk.files ∧ disk.refusesBytes = s.disk.refusesBytes ∧
        s.act move = { s with disk }) ∨
      Aside s (s.act move) := by
  cases move with
  | enqueue now level channel text => exact .inr (.inr (aside_enqueue s now level channel text))
  | redirect target => exact .inr (.inr (aside_redirect s target))
  | hold => exact .inr (.inr (aside_hold s))
  | ask =>
    refine .inr (.inr ?_)
    simp only [act, ask]
    split
    · exact .refl s
    · exact ⟨rfl, rfl, rfl, rfl, rfl, rfl, rfl⟩
  | release ticket =>
    refine .inr (.inr ?_)
    simp only [act, release]
    split
    · exact ⟨rfl, rfl, rfl, rfl, rfl, rfl, rfl⟩
    · exact .refl s
  | stop => exact .inr (.inr ⟨rfl, rfl, rfl, rfl, rfl, rfl, rfl⟩)
  | work => exact .inl rfl
  | weather entries here refusesFiles refusesDirectories =>
    exact .inr (.inl
      ⟨{ s.disk with entries, here, refusesFiles, refusesDirectories }, rfl, rfl, rfl⟩)

private theorem work_of_cut (hnext : s.pipeline.next = none) (hholders : s.pipeline.holders = 0)
    (hphase : s.pipeline.phase ≠ .finished) :
    (s.work.pipeline.next = none ∧ s.work.pipeline.holders = 0) ∧
      (s.work.pipeline.phase = .finished ∨
        s.work.pipeline.queue.toList.length + 1 = s.pipeline.queue.toList.length) := by
  have hcut : s.pipeline.isCut = true := by simp [isCut, hnext, hholders]
  obtain ⟨r, hr⟩ : ∃ r, s.pipeline.step? s.disk = some r := by
    unfold step?
    split
    · next hend => exact absurd hend hphase
    · exact ⟨_, rfl⟩
    · exact ⟨_, rfl⟩
    · exact ⟨_, if_pos hcut⟩
  have hwork : s.work = s.advance r := by
    unfold work
    rw [hr]
  rw [hwork]
  rcases step?_cases hr with ⟨-, ⟨m, rest, hpop, rfl⟩ | ⟨-, -, hopen, -⟩ | ⟨-, -, rfl⟩⟩
  · obtain ⟨writer, owed, hp⟩ :=
      handle_pipeline s.disk { s.pipeline with queue := rest, phase := .taking } m
    rw [Queue.pop?_eq_some hpop]
    simp only [advance, hp]
    exact ⟨⟨hnext, hholders⟩, .inr rfl⟩
  · rw [hcut] at hopen
    cases hopen
  · exact ⟨⟨hnext, hholders⟩, .inl rfl⟩

private theorem run_work_of_none (h : s.pipeline.step? s.disk = none) (n : Nat) :
    s.run (List.replicate n .work) = s := by
  have hwork : s.work = s := by
    unfold work
    rw [h]
  induction n with
  | zero => rfl
  | succ n ih =>
    rw [List.replicate_succ]
    change s.work.run (List.replicate n .work) = s
    rw [hwork, ih]

private theorem run_work_of_finished (h : s.pipeline.phase = .finished) (n : Nat) :
    s.run (List.replicate n .work) = s := by
  apply run_work_of_none
  simp [step?, h]

/-- Once nothing can come, the worker ends after a step for every message and one more. -/
theorem finished_of_work {n : Nat} (hnext : s.pipeline.next = none)
    (hholders : s.pipeline.holders = 0) (hn : s.pipeline.queue.toList.length < n) :
    (s.run (List.replicate n .work)).pipeline.phase = .finished := by
  induction n generalizing s with
  | zero => cases hn
  | succ n ih =>
    by_cases hend : s.pipeline.phase = .finished
    · rw [run_work_of_finished hend]
      exact hend
    · obtain ⟨⟨hnext', hholders'⟩, hstep⟩ := work_of_cut hnext hholders hend
      rw [List.replicate_succ]
      change (s.work.run (List.replicate n .work)).pipeline.phase = .finished
      rcases hstep with hdone | hless
      · rw [run_work_of_finished hdone]
        exact hdone
      · exact ih hnext' hholders' (by omega)

private theorem run_work_eq_steps (n : Nat) :
    (s.run (List.replicate n .work)).disk = (steps n s.disk s.pipeline).disk ∧
      (s.run (List.replicate n .work)).pipeline = (steps n s.disk s.pipeline).pipeline := by
  induction n generalizing s with
  | zero => exact ⟨rfl, rfl⟩
  | succ n ih =>
    cases hr : s.pipeline.step? s.disk with
    | none =>
      rw [run_work_of_none hr, steps, hr]
      exact ⟨rfl, rfl⟩
    | some r =>
      have hwork : s.work = s.advance r := by
        unfold work
        rw [hr]
      have hrest := ih (s := s.advance r)
      rw [List.replicate_succ, steps, hr]
      change (s.work.run (List.replicate n .work)).disk = _ ∧
        (s.work.run (List.replicate n .work)).pipeline = _
      rw [hwork]
      exact hrest

/-- A shutdown while no flush is under way is a run that ends the work. -/
theorem run_eq_shutdown (h : s.pipeline.holders = 0) :
    ∃ moves, (s.run moves).disk = (s.pipeline.shutdown s.disk).disk ∧
      (s.run moves).pipeline = (s.pipeline.shutdown s.disk).pipeline ∧
      (s.run moves).pipeline.phase = .finished := by
  obtain ⟨hdisk, hpipeline⟩ := run_work_eq_steps (s := s.act .stop) (s.pipeline.queue.size + 2)
  refine ⟨.stop :: List.replicate (s.pipeline.queue.size + 2) .work, hdisk, hpipeline, ?_⟩
  have hlength : s.pipeline.queue.toList.length < s.pipeline.queue.size + 2 := by
    rw [Queue.length_toList]
    omega
  exact finished_of_work (s := s.act .stop) rfl h hlength

end Session

end EventLog.Pipeline
