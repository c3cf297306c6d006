import EventLog.Simple.Basic

/-! What consoles and the trap are told, notice by notice. A console that takes lines shows what it
is told, in order, and the trap keeps its errors or has them printed. -/
namespace EventLog

namespace World

/-- What every buffer refuses: writes and flushes. -/
def refusals (w : World) : List (Option Fault × Option Fault) :=
  w.buffers.map fun b => (b.refusesWrites, b.refusesFlushes)

def takes (w : World) : Console → Bool
  | .buffer id => w.refusals[id]?.any fun refusal => refusal.1.isNone
  | _ => true

def isSound (w : World) : Bool := w.refusals.all fun refusal => refusal = (none, none)

def shown (w : World) : Console → String
  | .stdout => w.out
  | .stderr => w.err
  | .buffer id => (w.buffers.getD id {}).text

end World

/-- What is written on a console at a time. -/
inductive Piece where
  | line (text : String)
  | report (e : Error)

namespace Piece

def text : Piece → String
  | line text => text ++ "\n"
  | report e => e.display ++ "\n"

def line? : Piece → Option String
  | line text => some text
  | report _ => none

end Piece

/-- What is told at a time: a line to a console, or an error to the trap. -/
inductive Notice where
  | line (console : Console) (text : String)
  | trapped (e : Error)
  deriving DecidableEq, Repr

namespace Notice

/-- What a notice writes on a console. Errors that are not kept are printed on the error output. -/
def on? (trap : Trap) (c : Console) : Notice → Option Piece
  | line console text => if console = c then some (.line text) else none
  | trapped e => if trap = .print ∧ c = .stderr then some (.report e) else none

def kept? (trap : Trap) : Notice → Option Error
  | line .. => none
  | trapped e => if trap = .keep then some e else none

def isFault : Notice → Bool
  | line .. => false
  | trapped e => e.kind = .io

end Notice

/-- From `w` to `w'` some notices were given, and nothing else was. -/
structure Tells (notices : List Notice) (w w' : World) : Prop where
  trap : w'.trap = w.trap
  refusals : w'.refusals = w.refusals
  trapped : w'.trapped = w.trapped ++ notices.filterMap (Notice.kept? w.trap)
  shown : ∀ c, w.takes c →
    w'.shown c = w.shown c ++ String.join ((notices.filterMap (Notice.on? w.trap c)).map Piece.text)

/-- From `w` to `w'` some notices were given in order, and beside them at most faults, if a console
refuses something. -/
def Announces (due : List Notice) (w w' : World) : Prop :=
  ∃ notices, Tells notices w w' ∧ notices.filter (!·.isFault) = due ∧
    (w.isSound = true → notices = due)

variable {w w' w'' : World} {notices more due later : List Notice}

theorem Tells.refl (w : World) : Tells [] w w :=
  ⟨rfl, rfl, (List.append_nil _).symm, fun _ _ => by simp⟩

private theorem Tells.takes (h : Tells notices w w') (c : Console) : w'.takes c = w.takes c := by
  cases c <;> simp only [World.takes, h.refusals]

private theorem Tells.isSound (h : Tells notices w w') : w'.isSound = w.isSound := by
  simp only [World.isSound, h.refusals]

theorem Tells.trans (h : Tells notices w w') (h' : Tells more w' w'') :
    Tells (notices ++ more) w w'' := by
  refine ⟨h'.trap.trans h.trap, h'.refusals.trans h.refusals, ?_, fun c hc => ?_⟩
  · rw [h'.trapped, h.trapped, h.trap, List.filterMap_append, List.append_assoc]
  · rw [h'.shown c ((h.takes c).trans hc), h.shown c hc, h.trap, List.filterMap_append,
      List.map_append, String.join_append, String.append_assoc]

/-- What changes neither a console nor the trap tells nothing. -/
theorem Tells.quiet (trap : w'.trap = w.trap) (trapped : w'.trapped = w.trapped)
    (buffers : w'.buffers = w.buffers) (out : w'.out = w.out) (err : w'.err = w.err) :
    Tells [] w w' := by
  refine ⟨trap, by simp only [World.refusals, buffers], by simp [trapped], fun c _ => ?_⟩
  cases c <;> simp [World.shown, out, err, buffers]

theorem tells_trapError (w : World) (e : Error) : Tells [.trapped e] w (w.trapError e) := by
  cases htrap : w.trap with
  | keep =>
    rw [World.trapError, htrap]
    refine ⟨htrap.symm, rfl, by simp [Notice.kept?, htrap], fun c _ => ?_⟩
    cases c <;> simp [World.shown, Notice.on?, htrap]
  | print =>
    rw [World.trapError, htrap]
    refine ⟨htrap.symm, rfl, by simp [Notice.kept?, htrap], fun c _ => ?_⟩
    cases c <;> simp [World.shown, Notice.on?, Piece.text, htrap, String.append_assoc]

private theorem refusals_set {id : Nat} {b after : Buffer} (hb : w.buffers[id]? = some b)
    (hwrites : after.refusesWrites = b.refusesWrites)
    (hflushes : after.refusesFlushes = b.refusesFlushes) :
    World.refusals { w with buffers := w.buffers.set id after } = w.refusals := by
  obtain ⟨hid, rfl⟩ := List.getElem?_eq_some_iff.mp hb
  rw [World.refusals, World.refusals, List.map_set, hwrites, hflushes]
  refine List.ext_getElem? fun k => ?_
  rw [List.getElem?_set]
  split
  · next hk => simp [← hk, hid]
  · rfl

private theorem tells_writeBuffer {id : Nat} {b : Buffer} (hb : w.buffers[id]? = some b)
    (text : String) : Tells [.line (.buffer id) text] w
      { w with buffers := w.buffers.set id (b.writeLine text).1 } := by
  obtain ⟨hid, hget⟩ := List.getElem?_eq_some_iff.mp hb
  refine ⟨rfl, ?_, (List.append_nil _).symm, fun c hc => ?_⟩
  · refine refusals_set hb ?_ ?_ <;> (unfold Buffer.writeLine; split <;> rfl)
  -- Of a buffer that refuses the write nothing is said: it does not take lines.
  by_cases hid' : .buffer id = c
  · subst hid'
    have htakes : b.refusesWrites = none := by
      simpa [World.takes, World.refusals, hb] using hc
    simp [World.shown, Notice.on?, Piece.text, Buffer.writeLine, htakes,
      List.getD_eq_getElem?_getD, hid, hget, String.append_assoc]
  · cases c with
    | buffer other =>
      have hother : id ≠ other := fun h => hid' (congrArg _ h)
      simp [World.shown, Notice.on?, List.getD_eq_getElem?_getD, hother]
    | stdout => simp [World.shown, Notice.on?]
    | stderr => simp [World.shown, Notice.on?]

private theorem tells_writeLine (w : World) (console : Console) (text : String) :
    Tells [.line console text] w (w.writeLine console text).1 := by
  cases console with
  | stdout | stderr =>
    refine ⟨rfl, rfl, (List.append_nil _).symm, fun c _ => ?_⟩
    cases c <;> simp [World.writeLine, World.shown, Notice.on?, Piece.text, String.append_assoc]
  | buffer id =>
    rw [World.writeLine]
    cases hb : w.buffers[id]? with
    | some b => exact tells_writeBuffer hb text
    | none =>
      refine ⟨rfl, rfl, (List.append_nil _).symm, fun c hc => ?_⟩
      by_cases hid : .buffer id = c
      · subst hid
        simp [World.takes, World.refusals, hb] at hc
      · simp [Notice.on?, hid]

private theorem isSound_eq_false {id : Nat} {b : Buffer} (hb : w.buffers[id]? = some b)
    (h : (b.refusesWrites, b.refusesFlushes) ≠ (none, none)) : w.isSound = false := by
  refine Bool.eq_false_iff.mpr fun hsound => h ?_
  have hall := List.all_eq_true.mp hsound (b.refusesWrites, b.refusesFlushes)
    (List.mem_map_of_mem (List.mem_of_getElem? hb))
  exact of_decide_eq_true hall

private theorem flush_eq_error {b : Buffer} {fault : Fault} (h : b.flush = .error fault) :
    b.refusesFlushes = some fault := by
  unfold Buffer.flush at h
  split at h <;> cases h
  assumption

private theorem isSound_of_flushConsole {console : Console} {fault : Fault}
    (h : w.flushConsole console = .error fault) : w.isSound = false := by
  cases console with
  | stdout => cases h
  | stderr => cases h
  | buffer id =>
    rw [World.flushConsole] at h
    cases hb : w.buffers[id]? with
    | none => simp [hb] at h
    | some b =>
      rw [hb] at h
      have hflushes := flush_eq_error h
      exact isSound_eq_false hb (by simp [hflushes])

private theorem isSound_of_writeLine {console : Console} {line : String} {fault : Fault}
    (h : (w.writeLine console line).2 = .error fault) : w.isSound = false := by
  cases console with
  | stdout => cases h
  | stderr => cases h
  | buffer id =>
    rw [World.writeLine] at h
    cases hb : w.buffers[id]? with
    | none => simp [hb] at h
    | some b =>
      refine isSound_eq_false hb fun hnone => ?_
      obtain ⟨hwrites, hflushes⟩ := Prod.mk.inj hnone
      simp [hb, Buffer.writeLine, Buffer.flush, hwrites, hflushes] at h

theorem Announces.refl (w : World) : Announces [] w w := ⟨[], .refl w, rfl, fun _ => rfl⟩

theorem Announces.trans (h : Announces due w w') (h' : Announces later w' w'') :
    Announces (due ++ later) w w'' := by
  obtain ⟨notices, htells, hdue, hall⟩ := h
  obtain ⟨more, hmore, hlater, hall'⟩ := h'
  refine ⟨notices ++ more, htells.trans hmore, ?_, fun hsound => ?_⟩
  · rw [List.filter_append, hdue, hlater]
  · rw [hall hsound, hall' (htells.isSound.trans hsound)]

theorem Tells.announces (h : Tells notices w w') (hdue : ∀ n ∈ notices, n.isFault = false) :
    Announces notices w w' := by
  refine ⟨notices, h, List.filter_eq_self.mpr fun n hn => ?_, fun _ => rfl⟩
  rw [hdue n hn, Bool.not_false]

/-- A fault may come beside what is due, if the consoles are unsound. -/
theorem announces_trapError (h : w.isSound = false) {e : Error} (he : e.kind = .io) :
    Announces [] w (w.trapError e) := by
  refine ⟨[.trapped e], tells_trapError w e, by simp [Notice.isFault, he], fun hsound => ?_⟩
  rw [h] at hsound
  cases hsound

namespace Simple

variable {s : Simple}

private theorem announces_trapFault {result : Except Fault Unit} {report : Fault → Error}
    (h : ∀ fault, result = .error fault → s.world.isSound = false)
    (hreport : ∀ fault, (report fault).kind = .io) :
    Announces [] s.world (s.trapResult (result.mapError report)).world := by
  cases result with
  | ok => exact .refl _
  | error fault => exact announces_trapError (h fault rfl) (hreport fault)

theorem announces_print (s : Simple) (channel text : String) :
    Announces [.line s.console text] s.world (s.print channel text).world := by
  have hwritten := tells_writeLine s.world s.console text
  exact (hwritten.announces (by simp [Notice.isFault])).trans
    (announces_trapFault (s := { s with world := (s.world.writeLine s.console text).1 })
      (fun _ hfault => hwritten.isSound.trans (isSound_of_writeLine hfault)) fun _ => rfl)

theorem announces_flushConsole (s : Simple) : Announces [] s.world s.flushConsole.world :=
  announces_trapFault (fun _ => isSound_of_flushConsole) fun _ => rfl

theorem announces_setConsole (s : Simple) (console : Console) :
    Announces [] s.world (s.setConsole console).world :=
  announces_trapFault (s := { s with console }) (fun _ => isSound_of_flushConsole) fun _ => rfl

end Simple

end EventLog
