import EventLog.Proofs.Simple.Filing
import Mathlib

/-! Runs of a simple backend up to its shutdown. Every text is printed once on the console that was
set when it came in, and its lines are once in a file of the directory and the start of names that
were set then, or in none. -/
namespace EventLog.Simple.Session
open Rolling (Ready Delivered)

/-- From the world `w` on, the consoles show what was printed, and the files and the queue hold the
events of the ledger. -/
structure Kept (w : World) (zone : Zone) (s : Session) : Prop where
  isOpen : s.backend.closed = false
  zone : s.backend.zone = zone
  spoken : Says s.printedOn w s.backend.world
  filed : Filed w s.backend s.ledger s.latest.length

variable {w : World} {zone : Zone} {settings : Settings} {b : Simple} {s : Session}

private theorem kept_start (h : Simple.start w settings = .ok b)
    (takes : w.disk.refusesBytes = none) : Kept w b.zone (start b) := by
  have hready : Ready w.disk (unopened settings.zone) := ⟨takes, fun f hf => by cases hf⟩
  have hnone := Delivered.start hready rfl
  have hempty : (List.replicate w.disk.files.length ([] : List Addressed)).flatten = [] := by simp
  obtain rfl | ⟨given, disk, dir, hcheck, rfl⟩ := start_eq_ok h
  · exact ⟨rfl, rfl, .refl w, .off rfl rfl hnone rfl hempty⟩
  · obtain ⟨hkeeps, hfiles⟩ := keeps_checkDirectory hcheck
    have hcarries := Pipeline.Carries.start (hnone.grown hkeeps hfiles) rfl
      ⟨dir, settings.stem.getD w.defaultStem⟩
    rw [hempty] at hcarries
    exact ⟨rfl, rfl, .quiet rfl rfl rfl rfl, .on rfl rfl hcarries rfl rfl⟩

private theorem Kept.quiet {backend : Simple} (h : Kept w zone s) (quiet : Quiet s.backend backend)
    (filed : Filed w backend s.ledger s.latest.length) : Kept w zone { s with backend } :=
  ⟨quiet.closed.trans h.isOpen, quiet.zone.trans h.zone, h.spoken.trans_quiet quiet.spoken, filed⟩

private theorem Kept.log (h : Kept w zone s) (channel : String) (level : Level) (text : String) :
    Kept w zone (s.act (.log channel level text)) := by
  obtain ⟨hfiled, hquiet, hconsole⟩ := filed_record h.filed channel level text
  have hsame := sameFiles_print (s.backend.record channel level text) channel text
  refine ⟨hsame.closed.trans (hquiet.closed.trans h.isOpen),
    hsame.zone.trans (hquiet.zone.trans h.zone), ?_, ?_⟩
  · have hprinted := (h.spoken.trans_quiet hquiet.spoken).trans
      (says_print (s.backend.record channel level text) channel text)
    have hlines : (s.act (.log channel level text)).printedOn = fun c =>
        s.printedOn c ++ if s.backend.console = c then [text] else [] := by
      funext c
      by_cases hc : s.backend.console = c <;> simp [act, printedOn, hc]
    rw [hconsole] at hprinted
    rw [hlines]
    exact hprinted
  · have hledger : (s.act (.log channel level text)).ledger =
        s.ledger ++ s.backend.asked s.latest.length channel level text := by
      simp [act, ledger, stretches]
    have hlength : (s.act (.log channel level text)).latest.length =
        s.latest.length + (s.backend.asked s.latest.length channel level text).length :=
      List.length_append
    rw [hledger, hlength]
    exact hfiled.same hsame

private theorem Kept.setDirectory (h : Kept w zone s) (given : Option Path)
    (hserved : s.isServed (.setDirectory given) = true) :
    Kept w zone (s.act (.setDirectory given)) := by
  have hgets : given = none →
      s.backend.pipeline.all (·.stop.settlesWell s.backend.world.disk) = true := by
    rintro rfl
    exact hserved
  obtain ⟨hfiled, hquiet⟩ := filed_setDirectory h.filed given hgets
  rw [act, moved]
  split
  · next hbegins =>
    rw [if_pos hbegins] at hfiled
    -- The stretch that begins has no event yet, and the pipeline that came with it is at zero.
    have hledger : (s.earlier ++ [s.latest] ++ [[]]).flatten = s.ledger := by
      simp [ledger, stretches]
    refine ⟨hquiet.closed.trans h.isOpen, hquiet.zone.trans h.zone,
      h.spoken.trans_quiet hquiet.spoken, ?_⟩
    rw [ledger, stretches, hledger]
    exact hfiled
  · next hcontinues =>
    rw [if_neg hcontinues] at hfiled
    exact h.quiet hquiet hfiled

private theorem kept_act (h : Kept w zone s) (move : Move) (hserved : s.isServed move = true) :
    Kept w zone (s.act move) := by
  cases move with
  | log channel level text => exact h.log channel level text
  | setConsole console =>
    have hsame := sameFiles_setConsole s.backend console
    exact h.quiet (hsame.quiet (says_setConsole s.backend console)) (h.filed.same hsame)
  | setDirectory given => exact h.setDirectory given hserved
  | setStem stem =>
    obtain ⟨hfiled, hquiet⟩ := filed_setStem h.filed stem
    exact h.quiet hquiet hfiled
  | flush =>
    obtain ⟨hfiled, hquiet⟩ := filed_flush h.filed hserved
    exact h.quiet hquiet hfiled
  | work =>
    obtain ⟨hfiled, hquiet⟩ := filed_work h.filed hserved
    exact h.quiet hquiet hfiled
  | tick now =>
    have hsame : SameFiles s.backend
        { s.backend with world := { s.backend.world with now } } := ⟨rfl, rfl, rfl, rfl, rfl, rfl⟩
    exact h.quiet (hsame.quiet (.quiet rfl rfl rfl rfl)) (h.filed.same hsame)
  | threads refuses =>
    have hsame : SameFiles s.backend
        { s.backend with world := { s.backend.world with refusesThreads := refuses } } :=
      ⟨rfl, rfl, rfl, rfl, rfl, rfl⟩
    exact h.quiet (hsame.quiet (.quiet rfl rfl rfl rfl)) (h.filed.same hsame)

private theorem kept_run (h : Kept w zone s) (moves : List Move) (hserved : s.served moves = true) :
    Kept w zone (s.run moves) ∧ (s.run moves).shutsWell = true := by
  induction moves generalizing s with
  | nil => exact ⟨h, hserved⟩
  | cons move rest ih =>
    obtain ⟨hmove, hrest⟩ := Bool.and_eq_true_iff.mp hserved
    exact ih (kept_act h move hmove) hrest

/-- What a run leaves after its shutdown: the consoles show what was printed, and the files hold the
ledger, each of its events in one file. -/
theorem delivered_shutdown (h : Simple.start w settings = .ok b)
    (takes : w.disk.refusesBytes = none) (moves : List Move)
    (hserved : (start b).served moves = true) :
    let s := (start b).run moves
    Says s.printedOn w s.backend.shutdown.world ∧
      ∃ filed : List (List Addressed), filed.length = s.backend.shutdown.world.disk.files.length ∧
        filed.flatten = s.ledger ∧
        (∀ k, (s.backend.shutdown.world.disk.body k).bytes = (w.disk.body k).bytes ++
          Text.encode ((filed.getD k []).flatMap (·.event.lines b.zone))) ∧
        ∀ k, ∀ a ∈ filed.getD k [], ∃ date suffix,
          s.backend.shutdown.world.disk.find (a.target.filePath date suffix) = .ok (.file k) := by
  intro s
  obtain ⟨hkept, hshuts⟩ := kept_run (kept_start h takes) moves hserved
  obtain ⟨writer, filed, hdelivered, hunused, hledger, hquiet⟩ := filed_shutdown hkept.filed hshuts
  refine ⟨hkept.spoken.trans_quiet hquiet, filed, ?_, hledger, fun k => ?_, hdelivered.placed⟩
  · have hlength := hdelivered.shared.length
    rw [List.length_map] at hlength
    exact hlength
  · have hcontents := hdelivered.shared.contents k
    have hshare : ((filed.map (·.map Addressed.event)).getD k []).flatMap (·.lines b.zone) =
        (filed.getD k []).flatMap (·.event.lines b.zone) := by
      rw [List.getD_eq_getElem?_getD, List.getD_eq_getElem?_getD, List.getElem?_map]
      cases filed[k]? with
      | none => rfl
      | some share => simp [List.flatMap_map]
    have hafter : Rolling.contents s.backend.shutdown.world.disk writer k =
        (s.backend.shutdown.world.disk.body k).bytes := by
      rw [Rolling.contents, Rolling.waitingFor, hunused, List.append_nil]
    have hbefore : Rolling.contents w.disk (unopened s.backend.zone) k =
        (w.disk.body k).bytes := List.append_nil _
    rw [hafter, hbefore] at hcontents
    rw [hcontents, ← hshare, ← hkept.zone]
    rfl

/-- In every state, before and after the shutdown, there is a pipeline just if there is a directory.
Where the file system takes bytes and gives the events the new files that they need, every console
that takes lines shows each text that was logged while it was set, once and in order, and after the
shutdown the files hold the lines of each event that was logged while there was a directory, once,
in a file that stands in that directory under a name that starts as was set, and no other lines. -/
theorem printed_and_filed_as_set (h : Simple.start w settings = .ok b) :
    (∀ moves more,
      Paired ((start b).run moves).backend ∧
        Paired ((start ((start b).run moves).backend.shutdown).run more).backend) ∧
      ∀ moves, w.disk.refusesBytes = none → (start b).served moves = true →
        let s := (start b).run moves
        let ended := s.backend.shutdown
        (∀ c, w.takes c → Shows c (s.printedOn c) w ended.world) ∧
        ∃ filed : List (List Addressed), filed.length = ended.world.disk.files.length ∧
          filed.flatten = s.ledger ∧
          (∀ k, (ended.world.disk.body k).bytes = (w.disk.body k).bytes ++
            Text.encode ((filed.getD k []).flatMap (·.event.lines b.zone))) ∧
          ∀ k, ∀ a ∈ filed.getD k [], ∃ date suffix,
            ended.world.disk.find (a.target.filePath date suffix) = .ok (.file k) ∧
            ('/' ∉ a.target.stem.toList → (a.target.filePath date suffix).names =
              a.target.dir.names ++ [Text.encode (a.target.fileName date suffix)]) := by
  have hpaired (moves : List Move) : Paired ((start b).run moves).backend :=
    paired_run (paired_start h) moves
  refine ⟨fun moves more => ⟨hpaired moves, ?_⟩, fun moves takes hserved => ?_⟩
  · exact paired_run (s := start _) (paired_shutdown (hpaired moves)) more
  · obtain ⟨hspoken, filed, hlength, hledger, hbytes, hplaced⟩ :=
      delivered_shutdown h takes moves hserved
    refine ⟨hspoken.shows, filed, hlength, hledger, hbytes, fun k a ha => ?_⟩
    obtain ⟨date, suffix, hfind⟩ := hplaced k a ha
    exact ⟨date, suffix, hfind, Target.names_filePath a.target date suffix⟩

def quietWorld : World := { now := ⟨1704103200000000000⟩, buffers := [{}] }

def quietBackend : Simple :=
  { level := .info, console := .buffer 0, directory := none, stem := "app", zone := {}
    world := quietWorld }

/-- Both settings change while events come in; the worker lags behind, and the directory is taken
away and given back. -/
def movesWithChanges : List Move :=
  [.log "svc" .info "a", .setDirectory (some ⟨Text.encode "logs".toList⟩), .log "svc" .info "b",
    .work, .setStem "new", .log "svc" .info "c", .setConsole .stdout, .setDirectory none,
    .log "svc" .info "d", .setStem "last", .setDirectory (some ⟨Text.encode "old".toList⟩),
    .log "svc" .info "e", .flush]

def sessionWithChanges : Session := (start quietBackend).run movesWithChanges

theorem sessionWithChanges_filed :
    Simple.start quietWorld { console := .buffer 0, stem := some "app" } = .ok quietBackend ∧
      quietWorld.disk.refusesBytes = none ∧
      (start quietBackend).served movesWithChanges = true ∧
      sessionWithChanges.backend.shutdown.world.shown (.buffer 0) = "a\nb\nc\n" ∧
      sessionWithChanges.backend.shutdown.world.shown .stdout = "d\ne\n" ∧
      ∃ filed : List (List Addressed),
        filed.flatten.map (fun a => (a.target.stem, a.event.text)) =
          [("app", "b"), ("new", "c"), ("last", "e")] ∧
        ∀ k, ∀ a ∈ filed.getD k [], ∃ date suffix,
          sessionWithChanges.backend.shutdown.world.disk.find (a.target.filePath date suffix) =
            .ok (.file k) := by
  have hstart : Simple.start quietWorld { console := .buffer 0, stem := some "app" } =
      .ok quietBackend := rfl
  have hseen : ((start quietBackend).served movesWithChanges,
      sessionWithChanges.backend.shutdown.world.shown (.buffer 0),
      sessionWithChanges.backend.shutdown.world.shown .stdout,
      sessionWithChanges.ledger.map (fun a => (a.target.stem, a.event.text))) =
      (true, "a\nb\nc\n", "d\ne\n", [("app", "b"), ("new", "c"), ("last", "e")]) := by cbv
  obtain ⟨hserved, hbuffer, hout, hevents⟩ : _ ∧ _ ∧ _ ∧ _ := by
    simpa only [Prod.mk.injEq] using hseen
  obtain ⟨-, hall⟩ := printed_and_filed_as_set hstart
  obtain ⟨-, filed, -, hledger, -, hplaced⟩ := hall movesWithChanges rfl hserved
  refine ⟨hstart, rfl, hserved, hbuffer, hout, filed, ?_, fun k a ha => ?_⟩
  · rw [hledger]
    exact hevents
  · obtain ⟨date, suffix, hfind, -⟩ := hplaced k a ha
    exact ⟨date, suffix, hfind⟩

end EventLog.Simple.Session
