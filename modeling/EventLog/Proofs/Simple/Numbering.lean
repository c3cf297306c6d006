import EventLog.Proofs.Simple.Reconfiguration

/-! The numbers of the events in log files. They go on through every redirect, but each stretch in
which there is a directory has a pipeline and with it a counter of its own, so the numbers of a run
increase only while one stretch alone has any events. -/
namespace EventLog.Simple.Session

def numbers (events : List Addressed) : List UInt64 := events.map (·.event.sequence)

def FromZero (stretch : List Addressed) : Prop :=
  numbers stretch = (List.range stretch.length).map UInt64.ofNat

def busyStretches (s : Session) : List (List Addressed) := s.stretches.filter (!·.isEmpty)

variable {w : World} {settings : Settings} {b : Simple} {s : Session} {stretch : List Addressed}

private theorem FromZero.log (h : FromZero stretch) (backend : Simple) (channel : String)
    (level : Level) (text : String) :
    FromZero (stretch ++ backend.asked stretch.length channel level text) := by
  cases hdir : backend.directory with
  | none =>
    rw [asked, hdir]
    simp only [List.append_nil]
    exact h
  | some dir =>
    rw [asked, hdir]
    simp only [FromZero, numbers] at h ⊢
    rw [List.map_append, h, List.length_append, List.length_singleton, List.range_succ,
      List.map_append]
    rfl

private theorem fromZero_act (h : ∀ stretch ∈ s.stretches, FromZero stretch) (move : Move) :
    ∀ stretch ∈ (s.act move).stretches, FromZero stretch := by
  have hlast : FromZero s.latest := h _ (List.mem_append_right _ (List.mem_singleton_self _))
  cases move with
  | log channel level text =>
    intro stretch hmem
    rcases List.mem_append.mp hmem with hearlier | hlatest
    · exact h _ (List.mem_append_left _ hearlier)
    · rw [List.mem_singleton.mp hlatest]
      exact hlast.log s.backend channel level text
  | setDirectory given =>
    rw [act, moved]
    split
    · intro stretch hmem
      rcases List.mem_append.mp hmem with hold | hnew
      · exact h _ hold
      · rw [List.mem_singleton.mp hnew]
        rfl
    · exact h
  | setConsole console => exact h
  | setStem stem => exact h
  | flush => exact h
  | work => exact h
  | tick now => exact h
  | threads refuses => exact h

private theorem fromZero_run (h : ∀ stretch ∈ s.stretches, FromZero stretch) (moves : List Move) :
    ∀ stretch ∈ (s.run moves).stretches, FromZero stretch := by
  induction moves generalizing s with
  | nil => exact h
  | cons move rest ih => exact ih (fromZero_act h move)

private theorem fromZero_start (b : Simple) :
    ∀ stretch ∈ (start b).stretches, FromZero stretch := by
  intro stretch hmem
  rw [List.mem_singleton.mp hmem]
  rfl

private theorem FromZero.increase (h : FromZero stretch) (hfew : stretch.length < 2 ^ 64) :
    (numbers stretch).Pairwise (· < ·) := by
  rw [h, List.pairwise_map]
  refine List.pairwise_lt_range.imp_of_mem fun {i j} _ hj hlt => ?_
  have hj' : j < 2 ^ 64 := (List.mem_range.mp hj).trans hfew
  rw [UInt64.lt_iff_toNat_lt, UInt64.toNat_ofNat_of_lt' (hlt.trans hj'),
    UInt64.toNat_ofNat_of_lt' hj']
  exact hlt

private theorem FromZero.zero_mem (h : FromZero stretch) (hbusy : stretch ≠ []) :
    0 ∈ numbers stretch := by
  rw [h]
  exact List.mem_map.mpr ⟨0, List.mem_range.mpr (List.length_pos_iff.mpr hbusy), rfl⟩

private theorem flatten_busyStretches (s : Session) : s.busyStretches.flatten = s.ledger :=
  List.flatten_filter_not_isEmpty

private theorem length_busyStretches_le (h : ∀ stretch ∈ s.stretches, FromZero stretch)
    (honce : (numbers s.ledger).Nodup) : s.busyStretches.length ≤ 1 := by
  -- Two stretches with events would both have one of number zero.
  have hzero : ∀ stretch ∈ s.busyStretches, 0 ∈ numbers stretch := by
    intro stretch hmem
    obtain ⟨hstretch, hbusy⟩ := List.mem_filter.mp hmem
    exact (h stretch hstretch).zero_mem (by simpa using hbusy)
  rw [← flatten_busyStretches] at honce
  match hbusy : s.busyStretches with
  | [] => exact Nat.zero_le 1
  | [_] => exact Nat.le_refl 1
  | first :: second :: rest =>
    rw [hbusy] at hzero honce
    have hsecond : 0 ∈ numbers (second ++ rest.flatten) := by
      rw [numbers, List.map_append]
      exact List.mem_append_left _ (hzero second (by simp))
    rw [List.flatten_cons, List.flatten_cons, numbers, List.map_append, List.nodup_append] at honce
    exact absurd rfl (honce.2.2 0 (hzero first (by simp)) 0 hsecond)

private theorem numbers_increase (h : ∀ stretch ∈ s.stretches, FromZero stretch)
    (hfew : s.ledger.length < 2 ^ 64) (hone : s.busyStretches.length ≤ 1) :
    (numbers s.ledger).Pairwise (· < ·) := by
  have hall := flatten_busyStretches s
  match hbusy : s.busyStretches with
  | [] =>
    rw [hbusy] at hall
    rw [← hall]
    exact .nil
  | [only] =>
    have hmem : only ∈ s.busyStretches := by
      rw [hbusy]
      exact List.mem_singleton_self _
    rw [hbusy, List.flatten_singleton] at hall
    rw [← hall] at hfew ⊢
    exact (h only (List.mem_filter.mp hmem).1).increase hfew
  | first :: second :: rest =>
    rw [hbusy] at hone
    simp at hone

/-- The files hold the events in the order in which they were logged, each stretch numbered from
zero. So numbers increase over a whole run, and no two events have the same one, just if at most one
stretch has any events: they start again once there was no directory for a while. -/
theorem numbers_increase_iff_one_stretch (h : Simple.start w settings = .ok b)
    (takes : w.disk.refusesBytes = none) (moves : List Move)
    (hserved : (start b).served moves = true)
    (hfew : ((start b).run moves).ledger.length < 2 ^ 64) :
    let s := (start b).run moves
    let ended := s.backend.shutdown
    (∃ filed : List (List Addressed), filed.length = ended.world.disk.files.length ∧
      filed.flatten = s.busyStretches.flatten ∧
      ∀ k, (ended.world.disk.body k).bytes = (w.disk.body k).bytes ++
        Text.encode ((filed.getD k []).flatMap (·.event.lines b.zone))) ∧
    (∀ stretch ∈ s.busyStretches,
      numbers stretch = (List.range stretch.length).map UInt64.ofNat) ∧
    ((numbers s.ledger).Pairwise (· < ·) ↔ s.busyStretches.length ≤ 1) ∧
    ((numbers s.ledger).Nodup ↔ s.busyStretches.length ≤ 1) := by
  intro s ended
  have hzero : ∀ stretch ∈ s.stretches, FromZero stretch := fromZero_run (fromZero_start b) moves
  have honce (hless : (numbers s.ledger).Pairwise (· < ·)) : (numbers s.ledger).Nodup :=
    hless.imp fun hlt => UInt64.ne_of_lt hlt
  obtain ⟨-, filed, hlength, hledger, hbytes, -⟩ := delivered_shutdown h takes moves hserved
  refine ⟨⟨filed, hlength, ?_, hbytes⟩, fun stretch hmem => ?_, ⟨fun hless => ?_, fun hone => ?_⟩,
    ⟨fun hnodup => ?_, fun hone => ?_⟩⟩
  · rw [flatten_busyStretches, hledger]
  · exact hzero stretch (List.mem_filter.mp hmem).1
  · exact length_busyStretches_le hzero (honce hless)
  · exact numbers_increase hzero hfew hone
  · exact length_busyStretches_le hzero hnodup
  · exact honce (numbers_increase hzero hfew hone)

/-- An event before and one after a while without a directory. -/
def movesOffAndOn : List Move :=
  [.setDirectory (some ⟨Text.encode "logs".toList⟩), .log "svc" .info "a", .setDirectory none,
    .setDirectory (some ⟨Text.encode "logs".toList⟩), .log "svc" .info "b"]

def sessionOffAndOn : Session := (start quietBackend).run movesOffAndOn

theorem numbers_start_again :
    Simple.start quietWorld { console := .buffer 0, stem := some "app" } = .ok quietBackend ∧
      quietWorld.disk.refusesBytes = none ∧ (start quietBackend).served movesOffAndOn = true ∧
      sessionOffAndOn.ledger.length < 2 ^ 64 ∧ numbers sessionOffAndOn.ledger = [0, 0] ∧
      ¬(numbers sessionOffAndOn.ledger).Pairwise (· < ·) ∧
      ¬(numbers sessionOffAndOn.ledger).Nodup := by
  have hstart : Simple.start quietWorld { console := .buffer 0, stem := some "app" } =
      .ok quietBackend := rfl
  have hseen : ((start quietBackend).served movesOffAndOn, sessionOffAndOn.ledger.length,
      numbers sessionOffAndOn.ledger, sessionOffAndOn.busyStretches.length) =
      (true, 2, [0, 0], 2) := by cbv
  obtain ⟨hserved, hlength, hnumbers, hbusy⟩ : _ ∧ _ ∧ _ ∧ _ := by
    simpa only [Prod.mk.injEq] using hseen
  have hfew : sessionOffAndOn.ledger.length < 2 ^ 64 := by
    rw [hlength]
    decide
  obtain ⟨-, -, hincrease, honce⟩ :=
    numbers_increase_iff_one_stretch hstart rfl movesOffAndOn hserved hfew
  have htwo : ¬sessionOffAndOn.busyStretches.length ≤ 1 := by
    rw [hbusy]
    decide
  exact ⟨hstart, rfl, hserved, hfew, hnumbers, mt hincrease.mp htwo, mt honce.mp htwo⟩

end EventLog.Simple.Session
