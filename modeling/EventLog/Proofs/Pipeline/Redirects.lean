import EventLog.Proofs.Pipeline.Accounting
import EventLog.Proofs.Pipeline.Delivery
import EventLog.Proofs.Rolling.Refusal
import Mathlib

/-! What a redirect parts. An event goes to a file that was opened for the last redirect before it,
however far the worker lags behind, and no file holds events from before a redirect and after it.
The numbers of events go on as if there were no redirects. -/
namespace EventLog.Pipeline
open Rolling (Ready Shared Took contents)

/-- An event with the target that it is meant for, and the number of redirects before it. -/
structure Dispatch where
  round : Nat
  target : Target
  event : Event
  deriving DecidableEq, Repr

def isRedirect : Message → Bool
  | .redirect _ => true
  | _ => false

def Move.isRedirect : Move → Bool
  | .redirect _ => true
  | _ => false

/-- The events among some messages, where `target` was set by the last of `round` redirects. -/
def dispatched : (round : Nat) → Target → List Message → List Dispatch
  | _, _, [] => []
  | round, target, .event e :: rest => ⟨round, target, e⟩ :: dispatched round target rest
  | round, _, .redirect next :: rest => dispatched (round + 1) next rest
  | round, target, .flush _ :: rest => dispatched round target rest

private theorem dispatched_append (round : Nat) (target : Target) (a b : List Message) :
    dispatched round target (a ++ b) = dispatched round target a ++
      dispatched (round + a.countP isRedirect) (targetAfter target a) b := by
  induction a generalizing round target with
  | nil => rfl
  | cons m rest ih =>
    cases m with
    | event e => simp [dispatched, targetAfter, isRedirect, ih]
    | redirect next =>
      have hcount : (Message.redirect next :: rest).countP isRedirect =
          rest.countP isRedirect + 1 := List.countP_cons_of_pos rfl
      rw [hcount, List.cons_append, dispatched, dispatched, targetAfter, ih, Nat.add_right_comm,
        Nat.add_assoc]
    | flush ticket => simp [dispatched, targetAfter, isRedirect, ih]

private theorem map_event_dispatched (round : Nat) (target : Target) (messages : List Message) :
    (dispatched round target messages).map (·.event) = eventsOf messages := by
  induction messages generalizing round target with
  | nil => rfl
  | cons m rest ih =>
    cases m with
    | event e => simp [dispatched, eventsOf, ih]
    | redirect next => exact ih (round + 1) next
    | flush ticket => exact ih round target

private theorem dispatched_eq_nil {messages : List Message} (h : eventsOf messages = [])
    (round : Nat) (target : Target) : dispatched round target messages = [] := by
  rw [← map_event_dispatched round target] at h
  exact List.map_eq_nil_iff.mp h

namespace Session

def OpenAt (s : Session) (k : Nat) (target : Target) : Prop :=
  ∃ f date suffix, s.pipeline.writer.current = some f ∧ f.id = k ∧
    f.path = target.filePath date suffix ∧ s.disk.find f.path = .ok (.file k)

/-- Whether a file was open at a path of a target after some of the moves of a session. -/
def OpenedFor (s : Session) (moves : List Move) (k : Nat) (target : Target) : Prop :=
  ∃ before, before <+: moves ∧ (s.run before).OpenAt k target

/-- The events that went to each file, of those that were handled. Each stands in a file that was
opened for its target, along with events of its own round. -/
structure Parted (d : Disk) (w : Rolling) (opened : Nat → Target → Prop) (s : Session)
    (filed : List (List Dispatch)) : Prop where
  shared : Shared d w s.disk s.pipeline.writer (filed.map (·.map Dispatch.event))
  order : filed.flatten.Sublist (dispatched 0 w.target s.handled)
  count : filed.flatten.length + s.trapped.length = (eventsOf s.handled).length
  round : ∀ k, ∀ a ∈ filed.getD k [], ∀ b ∈ filed.getD k [], a.round = b.round
  placed : ∀ k, ∀ a ∈ filed.getD k [], opened k a.target
  current : ∀ f, s.pipeline.writer.current = some f → opened f.id s.pipeline.writer.target ∧
    ∀ a ∈ filed.getD f.id [], a.round = s.handled.countP isRedirect
  target : s.pipeline.writer.target = targetAfter w.target s.handled

variable {d : Disk} {w : Rolling} {opened : Nat → Target → Prop} {s s' : Session}
  {filed filed' : List (List Dispatch)} {e : Event} {rest : Queue Message} {p : Pipeline}

private theorem parted_start (h : Ready d w) (hc : w.current = none) :
    Parted d w opened (start d w) (List.replicate d.files.length []) := by
  have hflat : (List.replicate d.files.length ([] : List Dispatch)).flatten = [] := by simp
  refine ⟨?_, ?_, ?_, fun k a ha => ?_, fun k a ha => ?_, fun f hf => ?_, rfl⟩
  · rw [List.map_replicate]
    exact .start h
  · rw [hflat]
    exact List.nil_sublist _
  · rw [hflat]
    rfl
  · rw [List.getD_eq_getElem?_getD, List.getElem?_getD_replicate_default_eq] at ha
    cases ha
  · rw [List.getD_eq_getElem?_getD, List.getElem?_getD_replicate_default_eq] at ha
    cases ha
  · rw [show (start d w).pipeline.writer.current = none from hc] at hf
    cases hf

private theorem Parted.of_aside (h : Parted d w opened s filed) (same : Aside s s') :
    Parted d w opened s' filed := by
  refine ⟨?_, ?_, ?_, h.round, h.placed, ?_, ?_⟩
  · rw [same.disk, same.writer]
    exact h.shared
  · rw [same.handled]
    exact h.order
  · rw [same.handled, same.trapped]
    exact h.count
  · rw [same.handled, same.writer]
    exact h.current
  · rw [same.handled, same.writer]
    exact h.target

private theorem Parted.advance {r : Worked} {more : List Message} (h : Parted d w opened s filed)
    (shared : Shared d w r.disk r.pipeline.writer (filed.map (·.map Dispatch.event)))
    (trapped : r.trapped = []) (handled : (s.advance r).handled = s.handled ++ more)
    (hevents : eventsOf more = [])
    (current : ∀ f, r.pipeline.writer.current = some f → more.countP isRedirect = 0 ∧
      r.pipeline.writer.target = s.pipeline.writer.target ∧
        ∃ g, s.pipeline.writer.current = some g ∧ g.id = f.id)
    (target : r.pipeline.writer.target = targetAfter s.pipeline.writer.target more) :
    Parted d w opened (s.advance r) filed := by
  -- The file that is open then was open before, unless a redirect closed it.
  refine ⟨shared, ?_, ?_, h.round, h.placed, fun f hf => ?_, ?_⟩
  · rw [handled, dispatched_append, dispatched_eq_nil hevents, List.append_nil]
    exact h.order
  · rw [handled, eventsOf_append, hevents, List.append_nil, ← h.count]
    simp [Session.advance, trapped]
  · obtain ⟨hnone, htarget, g, hg, hid⟩ := current f hf
    have hcurrent := h.current g hg
    rw [handled, List.countP_append, hnone, Nat.add_zero, ← hid]
    simp only [Session.advance, htarget]
    exact hcurrent
  · rw [handled, targetAfter_append, ← h.target]
    exact target

private theorem Parted.taken {f : OpenFile} (h : Parted d w opened s filed)
    (hpop : s.pipeline.queue.pop? = some (.event e, rest)) (hwriter : p.writer = s.pipeline.writer)
    (ht : Took s.disk p.writer e (p.writer.write s.disk e) f)
    (shared : Shared d w (p.writer.write s.disk e).disk (p.writer.write s.disk e).writer
      (filed'.map (·.map Dispatch.event)))
    (hflatten : filed'.flatten = filed.flatten ++
      [⟨s.handled.countP isRedirect, s.pipeline.writer.target, e⟩])
    (hjoined : ∀ k, ∀ a ∈ filed'.getD k [], a ∈ filed.getD k [] ∨
      k = f.id ∧ a = ⟨s.handled.countP isRedirect, s.pipeline.writer.target, e⟩)
    (hround : ∀ a ∈ filed.getD f.id [], a.round = s.handled.countP isRedirect)
    (hopened : opened f.id s.pipeline.writer.target) :
    Parted d w opened (s.advance (handle s.disk p (.event e))) filed' := by
  have hrun : p.writer.write s.disk e =
      ⟨(p.writer.write s.disk e).disk, (p.writer.write s.disk e).writer, [], .ok ()⟩ := by
    rw [← ht.aside, ← ht.result]
  have hhandled := handled_advance_some (handle s.disk p (.event e)) hpop
  have hsame : ∀ k, ∀ a ∈ filed'.getD k [], k = f.id → a.round = s.handled.countP isRedirect := by
    rintro k a ha rfl
    rcases hjoined _ a ha with hold | ⟨-, rfl⟩
    · exact hround a hold
    · rfl
  refine ⟨?_, ?_, ?_, fun k a ha b hb => ?_, fun k a ha => ?_, fun g hg => ?_, ?_⟩
  · rw [handle_event_ok hrun]
    exact shared
  · rw [hhandled, dispatched_append, hflatten, Nat.zero_add, ← h.target]
    exact h.order.append (.refl _)
  · rw [hhandled, eventsOf_append, hflatten, handle_event_ok hrun, List.length_append,
      List.length_append, ← h.count]
    simp only [Session.advance, List.append_nil]
    exact Nat.add_right_comm ..
  · by_cases hk : k = f.id
    · rw [hsame k a ha hk, hsame k b hb hk]
    · have hold {c : Dispatch} (hc : c ∈ filed'.getD k []) : c ∈ filed.getD k [] :=
        (hjoined k c hc).resolve_right fun hnew => hk hnew.1
      exact h.round k a (hold ha) b (hold hb)
  · rcases hjoined k a ha with hold | ⟨rfl, rfl⟩
    · exact h.placed k a hold
    · exact hopened
  · rw [hhandled, List.countP_append]
    rw [handle_event_ok hrun] at hg ⊢
    simp only [Session.advance, ht.writer] at hg ⊢
    cases hg
    rw [hwriter]
    exact ⟨hopened, fun a ha => hsame _ a ha rfl⟩
  · rw [hhandled, targetAfter_append, ← h.target, handle_event_ok hrun, ← hwriter]
    exact ht.target

private theorem Parted.dropped {after : Disk} {error : Error} (h : Parted d w opened s filed)
    (hpop : s.pipeline.queue.pop? = some (.event e, rest)) (hwriter : p.writer = s.pipeline.writer)
    (hrun : p.writer.write s.disk e = ⟨after, p.writer, [], .error error⟩)
    (shared : Shared d w after p.writer (filed.map (·.map Dispatch.event))) :
    Parted d w opened (s.advance (handle s.disk p (.event e))) filed := by
  have hhandled := handled_advance_some (handle s.disk p (.event e)) hpop
  rw [handle_event_error hrun] at hhandled ⊢
  refine ⟨shared, ?_, ?_, h.round, h.placed, fun f hf => ?_, ?_⟩
  · rw [hhandled, dispatched_append]
    exact h.order.trans (List.sublist_append_left _ _)
  · rw [hhandled, eventsOf_append, List.length_append, ← h.count]
    simp only [Session.advance, List.length_append]
    rfl
  · rw [hhandled, List.countP_append]
    simp only [Session.advance, hwriter] at hf ⊢
    exact h.current f hf
  · rw [hhandled, targetAfter_append, ← h.target]
    simp only [Session.advance, hwriter]
    rfl

private theorem parted_event (h : Parted d w opened s filed)
    (hpop : s.pipeline.queue.pop? = some (.event e, rest)) (hwriter : p.writer = s.pipeline.writer)
    (hopened : ∀ k target, (s.advance (handle s.disk p (.event e))).OpenAt k target →
      opened k target) :
    ∃ filed, Parted d w opened (s.advance (handle s.disk p (.event e))) filed := by
  have hshared := h.shared
  rw [← hwriter] at hshared
  rcases Rolling.write_cases hshared.ready e with ⟨f, waiting, hf, hlength, ht⟩ |
    ⟨d₁, f, waiting, -, ho, hlength, ht, hfind⟩ | ⟨d₁, error, -, ho, hrefused⟩
  · have hid : f.id < filed.length := by
      rw [← List.length_map (·.map Dispatch.event), hshared.length]
      exact hshared.ready.isOpen f hf
    have hafter := hshared.took hf hlength ht
    obtain ⟨hplace, hround⟩ := h.current f (hwriter ▸ hf)
    let x : Dispatch := ⟨s.handled.countP isRedirect, s.pipeline.writer.target, e⟩
    rw [show e = x.event from rfl, ← Rolling.map_modify_snoc] at hafter
    exact ⟨_, h.taken hpop hwriter ht hafter
      (Rolling.flatten_modify_snoc hid (hshared.later_of_map hf) x)
      (fun k a ha => Rolling.mem_getD_modify ha) hround hplace⟩
  · obtain ⟨-, -, ⟨suffix, hnew⟩, -⟩ := Target.openFile_eq_ok ho
    have hid : f.id = s.disk.files.length := by rw [hnew]
    have hcount : filed.length = f.id := by
      rw [hid, ← hshared.length, List.length_map]
    let x : Dispatch := ⟨s.handled.countP isRedirect, s.pipeline.writer.target, e⟩
    have hafter := hshared.opened hid hlength ht
    rw [show [[e]] = [[x]].map (·.map Dispatch.event) from rfl, ← List.map_append] at hafter
    refine ⟨_, h.taken hpop hwriter ht hafter (by simp [x]) (fun k a ha => ?_) ?_ ?_⟩
    · rw [← hcount]
      exact Rolling.mem_getD_snoc ha
    · intro a ha
      rw [List.getD_eq_default _ _ hcount.le] at ha
      cases ha
    · refine hopened f.id _ ⟨{ f with waiting }, e.time.date p.writer.zone, suffix, ?_, rfl, ?_, ?_⟩
      · exact congrArg Rolling.current ht.writer
      · rw [hnew, ← hwriter]
      · exact hfind
  · obtain ⟨keeps, files⟩ := Target.openFile_eq_error ho
    have hafter := hshared.weather files keeps.refusesBytes
    exact ⟨filed, h.dropped hpop hwriter hrefused hafter⟩

private theorem parted_work (h : Parted d w opened s filed)
    (hopened : ∀ k target, s.work.OpenAt k target → opened k target) :
    ∃ filed, Parted d w opened s.work filed := by
  unfold work at hopened ⊢
  split
  · exact ⟨filed, h⟩
  · next r hr =>
    rw [hr] at hopened
    obtain ⟨hflush, hflushed⟩ := Rolling.flush_settled h.shared.ready
    have hkept : (s.pipeline.writer.flush s.disk).writer.target = s.pipeline.writer.target := by
      rw [hflushed]
    rcases step?_cases hr with ⟨-, ⟨m, rest, hpop, rfl⟩ | ⟨-, hpop, -, rfl⟩ | ⟨hpop, -, rfl⟩⟩
    · have hhandled (r : Worked) := handled_advance_some r hpop
      cases m with
      | event e => exact parted_event h hpop rfl hopened
      | redirect next =>
        obtain ⟨hredirect, hwriter⟩ := Rolling.redirect_settled h.shared.ready next
        refine ⟨filed, h.advance (h.shared.redirect next) (errorOf_ok hredirect.result)
          (hhandled _) rfl (fun f hf => ?_) ?_⟩
        · simp only [handle, hwriter] at hf
          cases hf
        · simp only [handle, hwriter]
          rfl
      | flush ticket =>
        exact ⟨filed, h.advance h.shared rfl (hhandled _) rfl
          (fun f hf => ⟨rfl, rfl, f, hf, rfl⟩) rfl⟩
    · have hhandled := (handled_advance_none (s.pipeline.endBatch s.disk) hpop).trans
        (List.append_nil _).symm
      refine ⟨filed, h.advance h.shared.flush (errorOf_ok hflush.result) hhandled rfl
        (fun f hf => ?_) hkept⟩
      simp only [endBatch, hflushed] at hf
      obtain ⟨g, hg, rfl⟩ := Option.map_eq_some_iff.mp hf
      exact ⟨rfl, hkept, g, hg, rfl⟩
    · have hhandled := (handled_advance_none (s.pipeline.finish s.disk) hpop).trans
        (List.append_nil _).symm
      have hshared := h.shared.flush
      obtain ⟨hclose, hclosed⟩ := Rolling.close_settled hshared.ready
      have htarget := (congrArg Rolling.target hclosed).trans hkept
      refine ⟨filed, h.advance hshared.close ?_ hhandled rfl (fun f hf => ?_) htarget⟩
      · simp only [finish, endBatch, errorOf_ok hflush.result, List.nil_append]
        exact errorOf_ok hclose.result
      · simp only [finish, endBatch, hclosed] at hf
        cases hf

private theorem parted_act (h : Parted d w opened s filed) (move : Move)
    (hopened : ∀ k target, (s.act move).OpenAt k target → opened k target) :
    ∃ filed, Parted d w opened (s.act move) filed := by
  rcases aside_act s move with rfl | ⟨disk, files, takes, hact⟩ | hsame
  · exact parted_work h hopened
  · rw [hact]
    exact ⟨filed, h.shared.weather files takes, h.order, h.count, h.round, h.placed, h.current,
      h.target⟩
  · exact ⟨filed, h.of_aside hsame⟩

private theorem run_snoc (s : Session) (moves : List Move) (move : Move) :
    s.run (moves ++ [move]) = (s.run moves).act move := by
  simp [run]

private theorem parted_run (hready : Ready d w) (hc : w.current = none) (moves : List Move)
    (hopened : ∀ k target, (start d w).OpenedFor moves k target → opened k target) :
    ∃ filed, Parted d w opened ((start d w).run moves) filed := by
  induction moves using List.reverseRecOn with
  | nil => exact ⟨_, parted_start hready hc⟩
  | append_singleton moves move ih =>
    obtain ⟨filed, h⟩ := ih fun k target ⟨before, hbefore, hat⟩ =>
      hopened k target ⟨before, hbefore.trans (List.prefix_append moves [move]), hat⟩
    rw [run_snoc]
    refine parted_act h move fun k target hat => ?_
    exact hopened k target ⟨moves ++ [move], List.prefix_rfl, by rwa [run_snoc]⟩

/-- The next number and the numbers that were given, after one more move. -/
def counted (count : Option UInt64 × List UInt64) : Move → Option UInt64 × List UInt64
  | .enqueue .. =>
    match count.1 with
    | some n => (some (n + 1), count.2 ++ [n])
    | none => count
  | .stop => (none, count.2)
  | _ => count

private theorem counted_act (s : Session) (move : Move) :
    ((s.act move).pipeline.next, (s.act move).returned) =
      counted (s.pipeline.next, s.returned) move := by
  cases move with
  | enqueue now level channel text =>
    simp only [act, enqueue]
    cases hnext : s.pipeline.next <;> simp [Pipeline.enqueue, hnext, counted]
  | redirect target =>
    simp only [act, redirect]
    cases hnext : s.pipeline.next <;> simp [Pipeline.redirect, hnext, counted]
  | hold =>
    simp only [act, hold]
    cases hnext : s.pipeline.next <;> simp [Pipeline.hold, hnext, counted]
  | ask =>
    simp only [act, ask]
    split <;> rfl
  | release ticket =>
    simp only [act, release]
    split <;> rfl
  | stop => rfl
  | work =>
    simp only [act, work]
    split
    · rfl
    · next r hr =>
      rcases step?_cases hr with ⟨-, ⟨m, rest, -, rfl⟩ | ⟨-, -, -, rfl⟩ | ⟨-, -, rfl⟩⟩
      · obtain ⟨writer, owed, hp⟩ :=
          handle_pipeline s.disk { s.pipeline with queue := rest, phase := .taking } m
        simp only [advance, hp]
        rfl
      · rfl
      · rfl
  | weather => rfl

private theorem counted_run (s : Session) (moves : List Move) :
    ((s.run moves).pipeline.next, (s.run moves).returned) =
      moves.foldl counted (s.pipeline.next, s.returned) := by
  induction moves generalizing s with
  | nil => rfl
  | cons move rest ih =>
    rw [List.foldl_cons, ← counted_act]
    exact ih (s.act move)

/-- Callers are given the same numbers with redirects between their events and without. -/
theorem returned_without_redirects (s : Session) (moves : List Move) :
    (s.run (moves.filter (!·.isRedirect))).returned = (s.run moves).returned := by
  have hskip (count : Option UInt64 × List UInt64) :
      (moves.filter (!·.isRedirect)).foldl counted count = moves.foldl counted count := by
    induction moves generalizing count with
    | nil => rfl
    | cons move rest ih =>
      cases hmove : move.isRedirect with
      | false => simp [hmove, ih]
      | true =>
        have hsame : counted count move = count := by
          cases move <;> first | rfl | cases hmove
        simp [hmove, ih, hsame]
  have hcount := (counted_run s _).trans ((hskip _).trans (counted_run s moves).symm)
  exact congrArg Prod.snd hcount

private theorem barred_act {fault : Fault} (h : s.disk.refusesBytes = some fault) (move : Move) :
    s.disk.Barred (s.act move).disk := by
  have hcall (c : Rolling.Call) {d : Disk} (w : Rolling) {fault : Fault}
      (h : d.refusesBytes = some fault) : d.Barred (c.run d w).disk :=
    Rolling.barred_course [c] h
  rcases aside_act s move with rfl | ⟨disk, files, takes, hact⟩ | hsame
  · simp only [act, work]
    split
    · exact .refl h
    · next r hr =>
      have hflush := hcall .flush s.pipeline.writer h
      rcases step?_cases hr with ⟨-, ⟨m, rest, -, rfl⟩ | ⟨-, -, -, rfl⟩ | ⟨-, -, rfl⟩⟩
      · cases m with
        | event e => exact hcall (.write e) _ h
        | redirect target => exact hcall (.redirect target) _ h
        | flush ticket => exact .refl h
      · exact hflush
      · obtain ⟨fault', h'⟩ := hflush.refuses
        exact hflush.trans (hcall .close _ h')
  · rw [hact]
    exact ⟨⟨fault, takes.trans h⟩, fun k => by rw [Disk.body, files, Disk.body]⟩
  · rw [hsame.disk]
    exact .refl h

private theorem barred_run {fault : Fault} (h : s.disk.refusesBytes = some fault)
    (moves : List Move) : s.disk.Barred (s.run moves).disk := by
  induction moves generalizing s fault with
  | nil => exact .refl h
  | cons move rest ih =>
    have hact := barred_act h move
    obtain ⟨fault', h'⟩ := hact.refuses
    exact hact.trans (ih h')

/-- However callers, the worker and the rest of the system take turns: callers are given the numbers
from zero on, and the same ones if there were no redirects. Every event that did not leave an error
instead stands in one file, in order. That file was opened for the target of the last redirect that
was accepted before the event, and what else it got came between the same two redirects. -/
theorem parted_by_redirects (d : Disk) (target : Target) (zone : Zone) (moves : List Move) :
    let s₀ := start d { target, zone }
    let s := s₀.run moves
    ((eventsOf s.accepted).map (·.sequence) = s.returned ∧
      s.returned = (List.range s.returned.length).map UInt64.ofNat ∧
      (s₀.run (moves.filter (!·.isRedirect))).returned = s.returned) ∧
    (d.refusesBytes.isSome → ∀ k, (s.disk.body k).bytes = (d.body k).bytes) ∧
    (d.refusesBytes = none → ∃ filed : List (List Dispatch),
      filed.length = s.disk.files.length ∧
      (∀ k, contents s.disk s.pipeline.writer k =
        (d.body k).bytes ++ Text.encode ((filed.getD k []).flatMap (·.event.lines zone))) ∧
      filed.flatten.Sublist (dispatched 0 target s.accepted) ∧
      filed.flatten.length + s.trapped.length = (eventsOf s.handled).length ∧
      ∀ k, ∀ a ∈ filed.getD k [],
        s₀.OpenedFor moves k a.target ∧ ∀ b ∈ filed.getD k [], a.round = b.round) := by
  intro s₀ s
  have horderly : Orderly s := orderly_run (orderly_start d _) moves
  refine ⟨⟨horderly.numbers, horderly.returned, returned_without_redirects s₀ moves⟩, ?_, ?_⟩
  · intro h
    obtain ⟨fault, hfault⟩ := Option.isSome_iff_exists.mp h
    exact (barred_run (s := s₀) hfault moves).bytes
  · intro h
    have hready : Ready d { target, zone } := ⟨h, fun f hf => by cases hf⟩
    obtain ⟨filed, hparted⟩ := parted_run hready rfl moves fun _ _ hopened => hopened
    have hshared := hparted.shared
    refine ⟨filed, ?_, fun k => ?_, ?_, hparted.count, fun k a ha =>
      ⟨hparted.placed k a ha, hparted.round k a ha⟩⟩
    · rw [← hshared.length, List.length_map]
    · have hcontents := hshared.contents k
      have hwaiting : contents d { target, zone } k = (d.body k).bytes := List.append_nil _
      have hshare : (filed.map (·.map Dispatch.event)).getD k [] =
          (filed.getD k []).map Dispatch.event :=
        List.getD_map filed [] (List.map Dispatch.event)
      rw [hwaiting, hshare, List.flatMap_map] at hcontents
      exact hcontents
    · rw [horderly.order, dispatched_append]
      exact hparted.order.trans (List.sublist_append_left _ _)

/-- An event before a redirect to where it goes anyway, one after that, and one whose directory is
gone and cannot be made again. -/
def movesInPlace : List Move :=
  let logs : Target := ⟨⟨Text.encode "logs".toList⟩, "app"⟩
  [.enqueue ⟨1704103200000000000⟩ .info "svc" "up", .redirect logs,
    .enqueue ⟨1704103200000000000⟩ .info "svc" "down", .work, .work, .work,
    .weather .nil [] none (some (.device "No space left on device (os error 28)")), .redirect logs,
    .enqueue ⟨1704103200000000000⟩ .info "svc" "lost", .work, .work]

def sessionInPlace : Session :=
  (start {} { target := ⟨⟨Text.encode "logs".toList⟩, "app"⟩ }).run movesInPlace

theorem parted_by_redirects_in_place :
    sessionInPlace.trapped.length = 1 ∧ sessionInPlace.returned = [0, 1, 2] ∧
      ∃ filed : List (List Dispatch), filed.length = 2 ∧ filed.flatten.length = 2 ∧
        ∀ k, ∀ a ∈ filed.getD k [], ∀ b ∈ filed.getD k [], a.round = b.round := by
  have hcounts : (sessionInPlace.returned.length, sessionInPlace.trapped.length,
      sessionInPlace.disk.files.length, (eventsOf sessionInPlace.handled).length) =
        (3, 1, 2, 3) := by cbv
  simp only [Prod.mk.injEq] at hcounts
  obtain ⟨hlength, htrapped, hfiles, hhandled⟩ := hcounts
  obtain ⟨⟨-, hreturned, -⟩, -, hfiled⟩ :=
    parted_by_redirects {} ⟨⟨Text.encode "logs".toList⟩, "app"⟩ {} movesInPlace
  obtain ⟨filed, hshares, -, -, hcount, hround⟩ := hfiled rfl
  refine ⟨htrapped, ?_, filed, hshares.trans hfiles, ?_, fun k a ha => (hround k a ha).2⟩
  · exact hreturned.trans (congrArg (fun n => (List.range n).map UInt64.ofNat) hlength)
  · have hall : filed.flatten.length + sessionInPlace.trapped.length =
        (eventsOf sessionInPlace.handled).length := hcount
    omega

end Session

end EventLog.Pipeline
