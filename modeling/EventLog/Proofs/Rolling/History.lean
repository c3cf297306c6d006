import EventLog.Rolling.Basic
import Mathlib.Data.List.SplitBy

/-! Runs of a writer, and the groups that a history of calls falls into: it is cut at every close
and redirect, and between neighbours that fall on different days of the week. -/
namespace EventLog.Rolling

inductive Call where
  | write (e : Event)
  | flush
  | close
  | redirect (target : Target)
  deriving DecidableEq, Repr

def Call.run (d : Disk) (w : Rolling) : Call → Rolled
  | write e => w.write d e
  | flush => w.flush d
  | close => w.close d
  | redirect target => w.redirect d target

/-- What a run leaves behind: the disk, the writer, the result of every call, and the errors that
stood aside. -/
structure Course where
  disk : Disk
  writer : Rolling
  results : List (Except Error Unit) := []
  aside : List Error := []

def course (d : Disk) (w : Rolling) : List Call → Course
  | [] => { disk := d, writer := w }
  | c :: rest =>
    let r := c.run d w
    let more := course r.disk r.writer rest
    { more with results := r.result :: more.results, aside := r.aside ++ more.aside }

/-- The calls of a run that went well. -/
def heeded (d : Disk) (w : Rolling) : List Call → List Call
  | [] => []
  | c :: rest =>
    let r := c.run d w
    if r.result.isOk then c :: heeded r.disk r.writer rest else heeded r.disk r.writer rest

theorem heeded_of_ok {d : Disk} {w : Rolling} {c : Call} {rest : List Call}
    (h : (c.run d w).result = .ok ()) :
    heeded d w (c :: rest) = c :: heeded (c.run d w).disk (c.run d w).writer rest := by
  rw [heeded, h]
  rfl

theorem heeded_of_error {d : Disk} {w : Rolling} {c : Call} {rest : List Call} {error : Error}
    (h : (c.run d w).result = .error error) :
    heeded d w (c :: rest) = heeded (c.run d w).disk (c.run d w).writer rest := by
  rw [heeded, h]
  rfl

/-- Whether every file that a run needs can be opened when it needs it. -/
def opens (d : Disk) (w : Rolling) : List Call → Bool
  | [] => true
  | c :: rest =>
    let r := c.run d w
    let isOpened := match c with
      | .write e => !w.needsFile e || (w.target.openFile d w.zone e.time).2.isOk
      | _ => true
    isOpened && opens r.disk r.writer rest

def writes (calls : List Call) : List Event :=
  calls.filterMap fun
    | .write e => some e
    | _ => none

/-- Some events in a row, and the target that was set when they came. -/
structure Group where
  target : Target
  events : List Event
  deriving DecidableEq, Repr

def Group.lines (zone : Zone) (g : Group) : List Char := g.events.flatMap (·.lines zone)

/-- The events between one close or redirect and the next. -/
def stretches (target : Target) : List Call → List Group
  | [] => [⟨target, []⟩]
  | .write e :: rest =>
    match stretches target rest with
    | [] => [⟨target, [e]⟩]
    | g :: more => { g with events := e :: g.events } :: more
  | .flush :: rest => stretches target rest
  | .close :: rest => ⟨target, []⟩ :: stretches target rest
  | .redirect next :: rest => ⟨target, []⟩ :: stretches next rest

def sameWeekday (zone : Zone) (a b : Event) : Bool := a.time.weekday zone = b.time.weekday zone

/-- The longest runs of neighbours in a group that all fall on the same day of the week. -/
def Group.byWeekday (zone : Zone) (g : Group) : List Group :=
  (g.events.splitBy (sameWeekday zone)).map (⟨g.target, ·⟩)

/-- The groups of a history, each of which is to have a file. -/
def groups (zone : Zone) (target : Target) (calls : List Call) : List Group :=
  (stretches target calls).flatMap (·.byWeekday zone)

variable {zone : Zone} {target : Target} {calls : List Call}

private theorem stretches_eq_cons (target : Target) (calls : List Call) :
    ∃ es more, stretches target calls = ⟨target, es⟩ :: more := by
  induction calls with
  | nil => exact ⟨[], [], rfl⟩
  | cons c rest ih =>
    cases c with
    | write e =>
      obtain ⟨es, more, h⟩ := ih
      exact ⟨e :: es, more, by simp only [stretches, h]⟩
    | flush => exact ih
    | close => exact ⟨[], _, rfl⟩
    | redirect next => exact ⟨[], _, rfl⟩

private theorem stretches_writes {es : List Event} {more : List Group}
    (h : stretches target calls = ⟨target, es⟩ :: more) (begun : List Event) :
    stretches target (begun.map .write ++ calls) = ⟨target, begun ++ es⟩ :: more := by
  induction begun with
  | nil => exact h
  | cons e begun ih => simp only [List.map_cons, List.cons_append, stretches, ih]

theorem byWeekday_nil (zone : Zone) (target : Target) : Group.byWeekday zone ⟨target, []⟩ = [] := by
  simp [Group.byWeekday]

/-- Events of one weekday stay together. -/
theorem byWeekday_of_same {events : List Event} (hne : events ≠ []) {day : Weekday}
    (h : ∀ e ∈ events, e.time.weekday zone = day) :
    Group.byWeekday zone ⟨target, events⟩ = [⟨target, events⟩] := by
  have hchain : events.IsChain fun a b => sameWeekday zone a b = true := by
    apply List.Pairwise.isChain
    apply List.pairwise_of_forall_mem_list
    intro a ha b hb
    simp [sameWeekday, h a ha, h b hb]
  simp [Group.byWeekday, List.splitBy_of_isChain hne hchain]

theorem groups_nil (begun : List Event) :
    groups zone target (begun.map .write ++ []) = Group.byWeekday zone ⟨target, begun⟩ ++ [] := by
  have hcut : stretches target [] = [⟨target, []⟩] := rfl
  rw [groups, stretches_writes hcut begun, List.append_nil]
  rfl

theorem groups_close (begun : List Event) :
    groups zone target (begun.map .write ++ .close :: calls) =
      Group.byWeekday zone ⟨target, begun⟩ ++ groups zone target calls := by
  have hcut : stretches target (.close :: calls) = ⟨target, []⟩ :: stretches target calls := rfl
  rw [groups, stretches_writes hcut begun, List.append_nil]
  rfl

theorem groups_redirect (begun : List Event) (next : Target) :
    groups zone target (begun.map .write ++ .redirect next :: calls) =
      Group.byWeekday zone ⟨target, begun⟩ ++ groups zone next calls := by
  have hcut : stretches target (.redirect next :: calls) =
      ⟨target, []⟩ :: stretches next calls := rfl
  rw [groups, stretches_writes hcut begun, List.append_nil]
  rfl

theorem groups_flush (begun : List Event) :
    groups zone target (begun.map .write ++ .flush :: calls) =
      groups zone target (begun.map .write ++ calls) := by
  obtain ⟨es, more, h⟩ := stretches_eq_cons target calls
  have hflush : stretches target (.flush :: calls) = ⟨target, es⟩ :: more := h
  rw [groups, groups, stretches_writes h, stretches_writes hflush]

/-- An event of another weekday starts a group, even if nothing was closed. -/
theorem groups_rollover {begun : List Event} {e : Event}
    (h : ∀ last ∈ begun.getLast?, sameWeekday zone last e = false) :
    groups zone target (begun.map .write ++ .write e :: calls) =
      Group.byWeekday zone ⟨target, begun⟩ ++ groups zone target (.write e :: calls) := by
  obtain ⟨es, more, hs⟩ := stretches_eq_cons target calls
  have hwrite : stretches target (.write e :: calls) = ⟨target, e :: es⟩ :: more := by
    simp only [stretches, hs]
  rw [groups, groups, stretches_writes hwrite, hwrite]
  simp only [List.flatMap_cons, Group.byWeekday, List.splitBy_append_cons es h, List.map_append,
    List.append_assoc]

/-- Grouping neither loses nor moves an event. -/
theorem flatMap_events_groups (zone : Zone) (target : Target) (calls : List Call) :
    (groups zone target calls).flatMap (·.events) = writes calls := by
  have hday (g : Group) : (g.byWeekday zone).flatMap (·.events) = g.events := by
    rw [Group.byWeekday, List.flatMap_map, List.flatMap_id']
    exact List.flatten_splitBy _ _
  have hall : (stretches target calls).flatMap (·.events) = writes calls := by
    induction calls generalizing target with
    | nil => rfl
    | cons c rest ih =>
      cases c with
      | write e =>
        obtain ⟨es, more, h⟩ := stretches_eq_cons target rest
        have hrest := ih target
        rw [h] at hrest
        simp only [stretches, h, List.flatMap_cons, List.cons_append, writes, List.filterMap_cons]
        exact congrArg (e :: ·) hrest
      | flush => exact ih target
      | close => exact ih target
      | redirect next => exact ih next
  rw [groups, List.flatMap_assoc]
  simp only [hday, hall]

end EventLog.Rolling
