import EventLog.Capture
import EventLog.Facade
import Mathlib

/-! What becomes of calls. Each one alone decides whether it is an event, a report or nothing, and a
report says all that the template's error said. -/
namespace EventLog

/-- A call through the handle of a channel, or of one below it that `below` leads to, with the disk
that paths are looked up on then. -/
structure Logged where
  channel : String
  below : List String := []
  disk : Disk := {}
  call : Call

namespace Logged

def handle {σ : Type} (f : Facade σ) (x : Logged) : Logger σ :=
  x.below.foldl Logger.child (f.logger x.channel)

def name (x : Logged) : String := x.below.foldl childName x.channel

def text (r : Renderer) (x : Logged) : Except Error String :=
  Template.render r { args := x.call.args, site := x.call.site, disk := x.disk } x.call.template

/-- The event of a call that passes and renders. -/
def record? (r : Renderer) (threshold : Level) (x : Logged) : Option Record :=
  if threshold ≤ x.call.level then (x.text r).toOption.map (⟨x.name, x.call.level, ·⟩) else none

def failure? (r : Renderer) (threshold : Level) (x : Logged) : Option KeptError :=
  if threshold ≤ x.call.level then
    match x.text r with
    | .ok _ => none
    | .error e => some ⟨x.name, e.kind, e.message⟩
  else none

private theorem foldl_child {σ : Type} (l : Logger σ) (below : List String) :
    below.foldl Logger.child l = { l with channel := below.foldl childName l.channel } := by
  induction below generalizing l with
  | nil => rfl
  | cons suffix rest ih => exact ih (l.child suffix)

private theorem handle_eq {σ : Type} (f : Facade σ) (x : Logged) :
    x.handle f = { backend := f.backend, renderer := f.renderer, channel := x.name } :=
  foldl_child (f.logger x.channel) x.below

end Logged

private theorem Error.context?_withContext_of_some {e : Error} {key value : String}
    (h : e.context? key = some value) (other text : String) :
    (e.withContext other text).context? key = some value := by
  rw [context?] at h
  simp [withContext, context?, List.lookup_append, h]

namespace Logger

variable {σ : Type} (l : Logger σ) (disk : Disk) (s : σ) {call : Call}

/-- A call that is recorded and cannot be rendered is reported, and the report adds whose call it
was to what the template's error said. -/
theorem log_of_error {e : Error} (hon : l.isEnabled s call.level = true)
    (he : l.text disk call = .error e) :
    l.log disk s call = l.backend.report s l.channel (l.failure call e) := by
  rw [log, if_pos hon, he]

private theorem context_failure (e : Error) : (l.failure call e).context = e.context ++
    [("channel", l.channel), ("level", call.level.name), ("location", call.site.location)] := by
  simp [failure, Error.withContext]

private theorem context?_failure {e : Error} {key value : String}
    (h : e.context? key = some value) : (l.failure call e).context? key = some value := by
  refine Error.context?_withContext_of_some ?_ _ _
  refine Error.context?_withContext_of_some ?_ _ _
  exact Error.context?_withContext_of_some h _ _

end Logger

namespace Capture

def run (r : Renderer) (c : Capture) (calls : List Logged) : Capture :=
  calls.foldl (fun c x => (x.handle { backend, renderer := r }).log x.disk c x.call) c

variable (r : Renderer) (c : Capture) (x : Logged)

private theorem run_singleton : run r c [x] =
    if x.call.level.passes c.threshold then
      match x.text r with
      | .ok text => c.log x.name x.call.level text
      | .error e => c.report x.name
          (Logger.failure ⟨backend, r, x.name⟩ x.call e)
    else c := by
  simp only [run, List.foldl_cons, List.foldl_nil, Logged.handle_eq]
  rfl

/-- A call below the threshold leaves everything as it was. -/
theorem run_of_lt (h : x.call.level < c.threshold) : run r c [x] = c := by
  have hfails : x.call.level.passes c.threshold = false := decide_eq_false (Nat.not_le.mpr h)
  rw [run_singleton, hfails]
  rfl

private theorem run_one : (run r c [x]).threshold = c.threshold ∧
    (run r c [x]).records = c.records ++ (x.record? r c.threshold).toList ∧
    (run r c [x]).errors = c.errors ++ (x.failure? r c.threshold).toList := by
  by_cases h : c.threshold ≤ x.call.level
  · have hpasses : x.call.level.passes c.threshold = true := decide_eq_true h
    rw [run_singleton, if_pos hpasses, Logged.record?, Logged.failure?, if_pos h, if_pos h]
    cases x.text r with
    | ok text => exact ⟨rfl, rfl, (List.append_nil _).symm⟩
    | error e => exact ⟨rfl, (List.append_nil _).symm, rfl⟩
  · rw [run_of_lt r c x (Nat.not_le.mp h), Logged.record?, Logged.failure?, if_neg h, if_neg h]
    exact ⟨rfl, (List.append_nil _).symm, (List.append_nil _).symm⟩

private theorem run_eq (calls : List Logged) : (run r c calls).threshold = c.threshold ∧
    (run r c calls).records = c.records ++ calls.filterMap (·.record? r c.threshold) ∧
    (run r c calls).errors = c.errors ++ calls.filterMap (·.failure? r c.threshold) := by
  induction calls generalizing c with
  | nil => exact ⟨rfl, (List.append_nil _).symm, (List.append_nil _).symm⟩
  | cons x rest ih =>
    obtain ⟨hthreshold, hrecords, herrors⟩ := run_one r c x
    have hrest := ih (run r c [x])
    rw [hthreshold, hrecords, herrors] at hrest
    change (run r (run r c [x]) rest).threshold = _ ∧ (run r (run r c [x]) rest).records = _ ∧
      (run r (run r c [x]) rest).errors = _
    rw [hrest.1, hrest.2.1, hrest.2.2, List.append_assoc, List.append_assoc]
    refine ⟨rfl, ?_, ?_⟩
    · cases h : x.record? r c.threshold <;> simp [h]
    · cases h : x.failure? r c.threshold <;> simp [h]

/-- The events kept are those of the calls at or above the threshold that render, under the names of
their own channels and in the order of the calls, and the reports kept are those of the ones that do
not render. A call below the threshold changes nothing, and no call matters to what later ones add.
Whatever the backend, a report has the kind, the message, the causes and the context of the
template's error, followed by whose call it was, so it answers every key that the error answers. -/
theorem kept_and_reported (threshold : Level) (calls : List Logged) :
    (run r { threshold } calls).records = calls.filterMap (·.record? r threshold) ∧
    (run r { threshold } calls).errors = calls.filterMap (·.failure? r threshold) ∧
    (∀ (c : Capture) x, x.call.level < c.threshold → run r c [x] = c) ∧
    (∀ earlier later, calls = earlier ++ later →
      (run r { threshold } calls).records =
        (run r { threshold } earlier).records ++ (run r { threshold } later).records ∧
      (run r { threshold } calls).errors =
        (run r { threshold } earlier).errors ++ (run r { threshold } later).errors) ∧
    ∀ {σ : Type} (l : Logger σ) (disk : Disk) (s : σ) (call : Call) (e : Error),
      l.isEnabled s call.level = true →
      Template.render l.renderer { args := call.args, site := call.site, disk } call.template =
        .error e →
      ∃ report : Error, l.log disk s call = l.backend.report s l.channel report ∧
        report.kind = e.kind ∧ report.message = e.message ∧ report.sources = e.sources ∧
        report.context = e.context ++ [("channel", l.channel), ("level", call.level.name),
          ("location", call.site.location)] ∧
        ∀ key value, e.context? key = some value → report.context? key = some value := by
  have hrun (calls : List Logged) := run_eq r { threshold } calls
  simp only [List.nil_append] at hrun
  refine ⟨(hrun calls).2.1, (hrun calls).2.2, run_of_lt r, ?_, ?_⟩
  · rintro earlier later rfl
    rw [(hrun _).2.1, (hrun _).2.2, (hrun earlier).2.1, (hrun earlier).2.2, (hrun later).2.1,
      (hrun later).2.2]
    exact ⟨List.filterMap_append, List.filterMap_append⟩
  · intro σ l disk s call e hon he
    exact ⟨l.failure call e, l.log_of_error disk s hon he, rfl, rfl, rfl, l.context_failure e,
      fun key value => l.context?_failure⟩

/-- A call that passes and cannot be rendered. -/
def brokenCall : Call :=
  { level := .warn, site := ⟨"svc.rs", 7, none, none, [], none⟩, template := "down \x7b" }

def brokenTemplate : Error :=
  { kind := .unterminatedPlaceholder, message := "template is missing a closing brace"
    context := [("position", "5"), ("template", "down \x7b")] }

/-- A call below the threshold that cannot be rendered, one that passes on a channel below, and the
broken one. -/
def mixedCalls : List Logged :=
  [{ channel := "svc", call := { brokenCall with level := .debug } },
    { channel := "svc", below := ["db"]
      call := { brokenCall with template := "up \x7b\x7d", args := [.text "now"] } },
    { channel := "svc", call := brokenCall }]

theorem mixedCalls_kept :
    (run .standard { threshold := .info } mixedCalls).records = [⟨"svc.db", .warn, "up now"⟩] ∧
      (run .standard { threshold := .info } mixedCalls).errors =
        [⟨"svc", .unterminatedPlaceholder, "template is missing a closing brace"⟩] ∧
      ∃ report : Error,
        (Logger.mk backend .standard "svc").log {} { threshold := .info } brokenCall =
          backend.report { threshold := .info } "svc" report ∧
        report.context? "position" = some "5" ∧ report.context? "location" = some "svc.rs:7" := by
  obtain ⟨hrecords, herrors, -, -, hreports⟩ := kept_and_reported .standard .info mixedCalls
  have hseen : (mixedCalls.filterMap (·.record? .standard .info),
      mixedCalls.filterMap (·.failure? .standard .info)) =
      ([⟨"svc.db", .warn, "up now"⟩],
        [⟨"svc", .unterminatedPlaceholder, "template is missing a closing brace"⟩]) := by cbv
  have herror : (Logger.mk backend .standard "svc").text {} brokenCall = .error brokenTemplate := by
    cbv
  obtain ⟨report, hlog, -, -, -, hcontext, hkeys⟩ := hreports ⟨backend, .standard, "svc"⟩ {}
    { threshold := .info } brokenCall brokenTemplate rfl herror
  rw [hrecords, herrors]
  refine ⟨(Prod.mk.inj hseen).1, (Prod.mk.inj hseen).2, report, hlog, hkeys _ _ rfl, ?_⟩
  rw [Error.context?, hcontext]
  rfl

end Capture

end EventLog
