import EventLog.Proofs.Pipeline.Schedule
import EventLog.Proofs.Rolling.Shares
import EventLog.Proofs.Text.Spelling
import Mathlib

/-! The account of a pipeline's events: each one that was handled either went to the share of one
file, in the order of their numbers, or was lost and left one error that names it. -/
namespace EventLog

private theorem Error.context?_withContext {e : Error} {key : String} (h : e.context? key = none)
    (value : String) : (e.withContext key value).context? key = some value := by
  rw [context?] at h
  simp [withContext, context?, List.lookup_append, h]

namespace Pipeline
open Rolling (Ready Shared Settled contents)

def numberText (e : Event) : String := Text.number e.sequence.toNat

/-- Whether an error names an event. -/
def names (e : Event) (error : Error) : Bool := error.context? "sequence" = some (numberText e)

/-- The errors of opening a file name no event. -/
theorem context?_openFile {t : Target} {d after : Disk} {zone : Zone} {time : Instant}
    {error : Error} (h : t.openFile d zone time = (after, .error error)) :
    error.context? "sequence" = none := by
  unfold Target.openFile at h
  split at h
  · cases h
    rfl
  · split at h
    · cases h
      rfl
    · cases h

namespace Session

/-- The events that were handled are accounted for: they went to the shares of the files, in order,
or are `lost`, and every error that was trapped names one of those. -/
structure Balanced (d : Disk) (w : Rolling) (s : Session) (shares : List (List Event))
    (lost : List Event) : Prop where
  shared : Shared d w s.disk s.pipeline.writer shares
  all : (shares.flatten ++ lost).Perm (eventsOf s.handled)
  order : shares.flatten.Sublist (eventsOf s.handled)
  trapped : s.trapped.map (·.context? "sequence") = lost.map fun e => some (numberText e)
  closed : s.pipeline.phase = .finished → s.pipeline.writer.current = none

variable {d : Disk} {w : Rolling} {s s' : Session} {shares : List (List Event)} {lost : List Event}

theorem balanced_start (h : Ready d w) :
    Balanced d w (start d w) (List.replicate d.files.length []) [] := by
  have hnone : (List.replicate d.files.length ([] : List Event)).flatten = [] := by
    simp
  refine ⟨.start h, ?_, ?_, rfl, fun hend => by cases hend⟩
  · rw [hnone]
    exact .refl _
  · rw [hnone]
    exact .refl _

private theorem Balanced.of_aside (h : Balanced d w s shares lost) (same : Aside s s') :
    Balanced d w s' shares lost := by
  refine ⟨?_, ?_, ?_, ?_, ?_⟩
  · rw [same.disk, same.writer]
    exact h.shared
  · rw [same.handled]
    exact h.all
  · rw [same.handled]
    exact h.order
  · rw [same.trapped]
    exact h.trapped
  · rw [same.phase, same.writer]
    exact h.closed

private theorem Balanced.advance {r : Worked} (h : Balanced d w s shares lost)
    (shared : Shared d w r.disk r.pipeline.writer shares) (trapped : r.trapped = [])
    (handled : eventsOf (s.advance r).handled = eventsOf s.handled)
    (closed : r.pipeline.phase = .finished → r.pipeline.writer.current = none) :
    Balanced d w (s.advance r) shares lost := by
  refine ⟨shared, ?_, ?_, ?_, closed⟩
  · rw [handled]
    exact h.all
  · rw [handled]
    exact h.order
  · simp [Session.advance, trapped, h.trapped]

theorem errorOf_ok {result : Except Error Unit} (h : result = .ok ()) :
    errorOf result = [] := by
  rw [h]
  rfl

theorem handle_event_ok {p : Pipeline} {e : Event} {after : Disk} {next : Rolling}
    (h : p.writer.write s.disk e = ⟨after, next, [], .ok ()⟩) :
    handle s.disk p (.event e) = ⟨after, { p with writer := next }, []⟩ := by
  simp only [handle, h]
  rfl

theorem handle_event_error {p : Pipeline} {e : Event} {after : Disk} {error : Error}
    (h : p.writer.write s.disk e = ⟨after, p.writer, [], .error error⟩) :
    handle s.disk p (.event e) = ⟨after, p, [error.withContext "sequence" (numberText e)]⟩ := by
  simp only [handle, h]
  rfl

private theorem Balanced.taken {shares' : List (List Event)} {e : Event} {rest : Queue Message}
    {p : Pipeline} {f : OpenFile} (h : Balanced d w s shares lost)
    (hpop : s.pipeline.queue.pop? = some (.event e, rest))
    (ht : Rolling.Took s.disk p.writer e (p.writer.write s.disk e) f)
    (shared : Shared d w (p.writer.write s.disk e).disk (p.writer.write s.disk e).writer shares')
    (hshares : shares'.flatten = shares.flatten ++ [e]) (hphase : p.phase ≠ .finished) :
    Balanced d w (s.advance (handle s.disk p (.event e))) shares' lost := by
  have hrun : p.writer.write s.disk e =
      ⟨(p.writer.write s.disk e).disk, (p.writer.write s.disk e).writer, [], .ok ()⟩ := by
    rw [← ht.aside, ← ht.result]
  have hhandled := handled_advance_some (handle s.disk p (.event e)) hpop
  refine ⟨?_, ?_, ?_, ?_, ?_⟩
  · rw [handle_event_ok hrun]
    exact shared
  · rw [hhandled, eventsOf_append, hshares, List.append_assoc]
    have hswap : (shares.flatten ++ ([e] ++ lost)).Perm (shares.flatten ++ (lost ++ [e])) :=
      List.perm_append_comm.append_left _
    refine hswap.trans ?_
    rw [← List.append_assoc]
    exact h.all.append_right _
  · rw [hhandled, eventsOf_append, hshares]
    exact h.order.append (.refl _)
  · rw [handle_event_ok hrun]
    simp [Session.advance, h.trapped]
  · rw [handle_event_ok hrun]
    exact fun hend => absurd hend hphase

private theorem Balanced.dropped {after : Disk} {e : Event} {rest : Queue Message} {error : Error}
    {p : Pipeline} (h : Balanced d w s shares lost)
    (hpop : s.pipeline.queue.pop? = some (.event e, rest))
    (hrun : p.writer.write s.disk e = ⟨after, p.writer, [], .error error⟩)
    (herror : error.context? "sequence" = none) (shared : Shared d w after p.writer shares)
    (hphase : p.phase ≠ .finished) :
    Balanced d w (s.advance (handle s.disk p (.event e))) shares (lost ++ [e]) := by
  have hhandled := handled_advance_some (handle s.disk p (.event e)) hpop
  refine ⟨?_, ?_, ?_, ?_, ?_⟩
  · rw [handle_event_error hrun]
    exact shared
  · rw [hhandled, eventsOf_append, ← List.append_assoc]
    exact h.all.append_right _
  · rw [hhandled, eventsOf_append]
    exact h.order.trans (List.sublist_append_left _ _)
  · rw [handle_event_error hrun]
    simp [Session.advance, h.trapped, Error.context?_withContext herror]
  · rw [handle_event_error hrun]
    exact fun hend => absurd hend hphase

private theorem balanced_event {e : Event} {rest : Queue Message} {p : Pipeline}
    (h : Balanced d w s shares lost) (hpop : s.pipeline.queue.pop? = some (.event e, rest))
    (hwriter : p.writer = s.pipeline.writer) (hphase : p.phase ≠ .finished) :
    ∃ shares lost, Balanced d w (s.advance (handle s.disk p (.event e))) shares lost := by
  have hshared := h.shared
  rw [← hwriter] at hshared
  rcases Rolling.write_cases hshared.ready e with ⟨f, waiting, hf, hlength, ht⟩ |
    ⟨d₁, f, waiting, -, ho, hlength, ht, -⟩ | ⟨d₁, error, -, ho, hrefused⟩
  · have hid : f.id < shares.length := by
      rw [hshared.length]
      exact hshared.ready.isOpen f hf
    have hlast := Rolling.flatten_modify_snoc hid (hshared.later f hf) e
    exact ⟨_, lost, h.taken hpop ht (hshared.took hf hlength ht) hlast hphase⟩
  · obtain ⟨-, -, ⟨suffix, hnew⟩, -⟩ := Target.openFile_eq_ok ho
    have hid : f.id = s.disk.files.length := by rw [hnew]
    exact ⟨_, lost, h.taken hpop ht (hshared.opened hid hlength ht) (by simp) hphase⟩
  · obtain ⟨keeps, files⟩ := Target.openFile_eq_error ho
    have hafter := hshared.weather files keeps.refusesBytes
    exact ⟨shares, _, h.dropped hpop hrefused (context?_openFile ho) hafter hphase⟩

private theorem balanced_handle {m : Message} {rest : Queue Message} {p : Pipeline}
    (h : Balanced d w s shares lost) (hpop : s.pipeline.queue.pop? = some (m, rest))
    (hwriter : p.writer = s.pipeline.writer) (hphase : p.phase ≠ .finished) :
    ∃ shares lost, Balanced d w (s.advance (handle s.disk p m)) shares lost := by
  have hshared := h.shared
  rw [← hwriter] at hshared
  cases m with
  | event e => exact balanced_event h hpop hwriter hphase
  | redirect target =>
    have hresult := (Rolling.redirect_settled hshared.ready target).1.result
    refine ⟨shares, lost, h.advance (hshared.redirect target) (errorOf_ok hresult) ?_ ?_⟩
    · rw [handled_advance_some _ hpop, eventsOf_append]
      exact List.append_nil _
    · exact fun hend => absurd hend hphase
  | flush ticket =>
    refine ⟨shares, lost, h.advance hshared rfl ?_ fun hend => absurd hend hphase⟩
    rw [handled_advance_some _ hpop, eventsOf_append]
    exact List.append_nil _

private theorem balanced_work (h : Balanced d w s shares lost) :
    ∃ shares lost, Balanced d w s.work shares lost := by
  unfold work
  split
  · exact ⟨shares, lost, h⟩
  · next r hr =>
    have hflush := (Rolling.flush_settled h.shared.ready).1.result
    rcases step?_cases hr with ⟨-, ⟨m, rest, hpop, rfl⟩ | ⟨-, hpop, -, rfl⟩ | ⟨hpop, -, rfl⟩⟩
    · exact balanced_handle h hpop rfl (by rintro ⟨⟩)
    · refine ⟨shares, lost, h.advance h.shared.flush (errorOf_ok hflush) ?_ ?_⟩
      · rw [handled_advance_none _ hpop]
      · rintro ⟨⟩
    · have hflushed := h.shared.flush
      obtain ⟨hclosed, hwriter⟩ := Rolling.close_settled hflushed.ready
      refine ⟨shares, lost, h.advance hflushed.close ?_ ?_ fun _ => ?_⟩
      · simp only [finish, endBatch, errorOf_ok hflush, List.nil_append]
        exact errorOf_ok hclosed.result
      · rw [handled_advance_none _ hpop]
      · simp only [finish, endBatch, hwriter]

private theorem balanced_act (h : Balanced d w s shares lost) (move : Move) :
    ∃ shares lost, Balanced d w (s.act move) shares lost := by
  rcases aside_act s move with rfl | ⟨disk, files, takes, hact⟩ | hsame
  · exact balanced_work h
  · rw [hact]
    exact ⟨shares, lost, h.shared.weather files takes, h.all, h.order, h.trapped, h.closed⟩
  · exact ⟨shares, lost, h.of_aside hsame⟩

theorem balanced_run (h : Balanced d w s shares lost) (moves : List Move) :
    ∃ shares lost, Balanced d w (s.run moves) shares lost := by
  induction moves generalizing s shares lost with
  | nil => exact ⟨shares, lost, h⟩
  | cons move rest ih =>
    obtain ⟨shares', lost', hact⟩ := balanced_act h move
    exact ih hact

private theorem toNat_returned (h : Orderly s) (hfew : s.returned.length < 2 ^ 64) :
    s.returned.map (·.toNat) = List.range s.returned.length := by
  have heq : (s.returned.map (·.toNat)) =
      (List.range s.returned.length).map fun i => (UInt64.ofNat i).toNat := by
    conv_lhs => rw [h.returned, List.map_map]
    rfl
  rw [heq]
  conv_rhs => rw [← List.map_id (List.range s.returned.length)]
  refine List.map_congr_left fun i hi => ?_
  rw [UInt64.toNat_ofNat', Nat.mod_eq_of_lt ((List.mem_range.mp hi).trans hfew), id]

private theorem pairwise_accepted (h : Orderly s) (hfew : s.returned.length < 2 ^ 64) :
    (eventsOf s.accepted).Pairwise fun a b => a.sequence < b.sequence := by
  have hrange : (eventsOf s.accepted).map (·.sequence.toNat) = List.range s.returned.length := by
    rw [← toNat_returned h hfew, ← h.numbers, List.map_map]
    rfl
  have hsorted := List.pairwise_lt_range (n := s.returned.length)
  rw [← hrange, List.pairwise_map] at hsorted
  exact hsorted.imp fun hlt => UInt64.lt_iff_toNat_lt.mpr hlt

private theorem eq_of_numberText {events : List Event}
    (h : events.Pairwise fun a b => a.sequence < b.sequence) {a b : Event} (ha : a ∈ events)
    (hb : b ∈ events) (hn : numberText a = numberText b) : a = b := by
  have hnodup : (events.map (·.sequence)).Nodup :=
    List.pairwise_map.mpr (h.imp fun hlt => UInt64.ne_of_lt hlt)
  have hsequence : a.sequence = b.sequence := UInt64.toNat_inj.mp (Text.number_injective hn)
  exact List.inj_on_of_nodup_map hnodup ha hb hsequence

private theorem countP_names {events : List Event}
    (h : events.Pairwise fun a b => a.sequence < b.sequence) (hsub : ∀ a ∈ lost, a ∈ events)
    (ht : s.trapped.map (·.context? "sequence") = lost.map fun e => some (numberText e)) {e : Event}
    (he : e ∈ events) : s.trapped.countP (names e) = lost.count e := by
  have htexts : s.trapped.countP (names e) =
      (s.trapped.map (·.context? "sequence")).countP (· = some (numberText e)) := by
    rw [List.countP_map]
    rfl
  rw [htexts, ht, List.countP_map, List.count_eq_countP]
  refine List.countP_congr fun a ha => ?_
  simp only [Function.comp, decide_eq_true_eq, Option.some.injEq, beq_iff_eq]
  exact ⟨fun hn => eq_of_numberText h (hsub a ha) he hn, fun hae => by rw [hae]⟩

/-- Callers are given the numbers in order from zero, and messages are handled in the order in which
they were accepted. A shutdown waits until the worker has ended, which it does as soon as no flush
holds the queue. Then the queue is empty, no file is open, and every event that was accepted stands
in one file, once, with the numbers rising from file to file and in each, or left one error that
names it. -/
theorem accounted {d : Disk} {w : Rolling} {moves : List Move} (h : Ready d w)
    (hfew : ((start d w).run moves).returned.length < 2 ^ 64) :
    let s := (start d w).run moves
    s.returned.map (·.toNat) = List.range s.returned.length ∧
      (eventsOf s.accepted).map (·.sequence) = s.returned ∧
      s.accepted = s.handled ++ s.pipeline.queue.toList ∧
      (s.pipeline.holders = 0 → ∃ more, (s.run more).disk = (s.pipeline.shutdown s.disk).disk ∧
        (s.run more).pipeline = (s.pipeline.shutdown s.disk).pipeline ∧
        (s.run more).pipeline.phase = .finished) ∧
      (s.pipeline.phase = .finished →
        s.pipeline.queue.toList = [] ∧ s.pipeline.writer.current = none ∧
          ∃ shares : List (List Event), shares.length = s.disk.files.length ∧
            (∀ k, (s.disk.body k).bytes =
              contents d w k ++ Text.encode ((shares.getD k []).flatMap (·.lines w.zone))) ∧
            shares.flatten.Sublist (eventsOf s.accepted) ∧
            shares.flatten.Pairwise (fun a b => a.sequence < b.sequence) ∧
            ∀ e ∈ eventsOf s.accepted,
              (shares.flatten.count e = 1 ∧ s.trapped.countP (names e) = 0) ∨
                (shares.flatten.count e = 0 ∧ s.trapped.countP (names e) = 1)) := by
  intro s
  have horderly : Orderly s := orderly_run (orderly_start d w) moves
  obtain ⟨shares, lost, hb⟩ : ∃ shares lost, Balanced d w s shares lost :=
    balanced_run (balanced_start h) moves
  refine ⟨toNat_returned horderly hfew, horderly.numbers, horderly.order,
    run_eq_shutdown, fun hend => ?_⟩
  obtain ⟨-, -, hempty⟩ := horderly.ended hend
  have hcurrent := hb.closed hend
  have hhandled : s.handled = s.accepted := by rw [horderly.order, hempty, List.append_nil]
  have hsorted := pairwise_accepted horderly hfew
  have hall := hb.all
  have hsublist := hb.order
  rw [hhandled] at hall hsublist
  refine ⟨hempty, hcurrent, shares, hb.shared.length, fun k => ?_, hsublist,
    hsorted.sublist hsublist, fun e he => ?_⟩
  · rw [← hb.shared.contents k, contents, Rolling.waitingFor, hcurrent, List.append_nil]
  · -- No two events have the same number, so each is taken once, and an error names only one.
    have hlost : ∀ a ∈ lost, a ∈ eventsOf s.accepted := fun a ha =>
      hall.subset (List.mem_append_right _ ha)
    have honce : shares.flatten.count e + lost.count e = 1 := by
      rw [← List.count_append, hall.count_eq]
      exact List.count_eq_one_of_mem (hsorted.imp fun hlt heq => by
        rw [heq] at hlt
        exact UInt64.lt_irrefl _ hlt) he
    rw [countP_names hsorted hlost hb.trapped he]
    omega

/-- One event that is written, one for which the file is refused, and a flush that is answered only
after the pipeline was stopped. -/
def movesWithRefusal : List Move :=
  [.enqueue ⟨1704103200000000000⟩ .info "svc" "up", .work,
    .weather .nil [] (some (.device "No space left on device (os error 28)")) none,
    .redirect ⟨⟨Text.encode "old".toList⟩, "app"⟩,
    .enqueue ⟨1704103200000000000⟩ .warn "svc" "down", .hold, .ask, .stop, .work, .work, .work,
    .work, .release 0, .work]

def sessionWithRefusal : Session :=
  (start {} { target := ⟨⟨Text.encode "logs".toList⟩, "app"⟩ }).run movesWithRefusal

theorem accounted_with_refusal :
    Ready {} { target := ⟨⟨Text.encode "logs".toList⟩, "app"⟩ } ∧
      sessionWithRefusal.returned.length < 2 ^ 64 ∧
      sessionWithRefusal.pipeline.phase = .finished ∧
      sessionWithRefusal.returned.map (·.toNat) = List.range 2 ∧
      sessionWithRefusal.trapped.length = 1 ∧
      sessionWithRefusal.pipeline.queue.toList = [] ∧
      sessionWithRefusal.pipeline.writer.current = none := by
  have hready : Ready {} { target := ⟨⟨Text.encode "logs".toList⟩, "app"⟩ } :=
    ⟨rfl, fun f hf => by cases hf⟩
  have hlength : sessionWithRefusal.returned.length = 2 := by cbv
  have hfew : sessionWithRefusal.returned.length < 2 ^ 64 := by
    rw [hlength]
    decide
  have hend : sessionWithRefusal.pipeline.phase = .finished := by cbv
  have htrapped : sessionWithRefusal.trapped.length = 1 := by cbv
  obtain ⟨hreturned, -, -, -, hfinished⟩ := accounted hready hfew
  obtain ⟨hempty, hclosed, -⟩ := hfinished hend
  exact ⟨hready, hfew, hend, hlength ▸ hreturned, htrapped, hempty, hclosed⟩

end Session

end Pipeline

end EventLog
