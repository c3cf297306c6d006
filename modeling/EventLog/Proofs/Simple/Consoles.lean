import EventLog.Proofs.Simple.Notices

/-! What consoles show. A console that takes lines shows every line that was written on it, in
order; the error output may show reports of trapped errors between them, if a console refuses
something. -/
namespace EventLog

/-- Whether reports of trapped errors may appear on a console. -/
def World.mayReport (w : World) (console : Console) : Bool :=
  console = .stderr && w.trap = .print && !w.isSound

/-- From `w` to `w'` a console shows some lines more, each once and in order, and at most where
reports may appear anything else. -/
def Shows (c : Console) (lines : List String) (w w' : World) : Prop :=
  ∃ pieces : List Piece, w'.shown c = w.shown c ++ String.join (pieces.map Piece.text) ∧
    pieces.filterMap Piece.line? = lines ∧
    (w.mayReport c = false → pieces = lines.map Piece.line)

/-- From `w` to `w'` every console that takes lines shows its own, and none takes other lines than
before. -/
structure Says (lines : Console → List String) (w w' : World) : Prop where
  trap : w'.trap = w.trap
  refusals : w'.refusals = w.refusals
  shows : ∀ c, w.takes c → Shows c (lines c) w w'

variable {w w' w'' : World} {lines more : Console → List String}

private theorem Says.takes (h : Says lines w w') (c : Console) : w'.takes c = w.takes c := by
  cases c <;> simp only [World.takes, h.refusals]

private theorem Says.isSound (h : Says lines w w') : w'.isSound = w.isSound := by
  simp only [World.isSound, h.refusals]

private theorem Says.mayReport (h : Says lines w w') (c : Console) :
    w'.mayReport c = w.mayReport c := by
  simp only [World.mayReport, h.trap, h.isSound]

/-- What changes neither a console nor the trap says nothing. -/
theorem Says.quiet (trap : w'.trap = w.trap) (buffers : w'.buffers = w.buffers)
    (out : w'.out = w.out) (err : w'.err = w.err) : Says (fun _ => []) w w' := by
  refine ⟨trap, by simp only [World.refusals, buffers], fun c _ => ⟨[], ?_, rfl, fun _ => rfl⟩⟩
  cases c <;> simp [World.shown, out, err, buffers]

theorem Says.refl (w : World) : Says (fun _ => []) w w := .quiet rfl rfl rfl rfl

theorem Says.trans (h : Says lines w w') (h' : Says more w' w'') :
    Says (fun c => lines c ++ more c) w w'' := by
  refine ⟨h'.trap.trans h.trap, h'.refusals.trans h.refusals, fun c hc => ?_⟩
  obtain ⟨pieces, hshown, hlines, hall⟩ := h.shows c hc
  obtain ⟨pieces', hshown', hlines', hall'⟩ := h'.shows c ((h.takes c).trans hc)
  refine ⟨pieces ++ pieces', ?_, ?_, fun hquiet => ?_⟩
  · rw [hshown', hshown, List.map_append, String.join_append, String.append_assoc]
  · rw [List.filterMap_append, hlines, hlines']
  · rw [hall hquiet, hall' ((h.mayReport c).trans hquiet), List.map_append]

theorem Says.trans_quiet (h : Says lines w w') (h' : Says (fun _ => []) w' w'') :
    Says lines w w'' := by
  have hboth := h.trans h'
  simp only [List.append_nil] at hboth
  exact hboth

def Notice.lineOn? (c : Console) : Notice → Option String
  | line console text => if console = c then some text else none
  | trapped _ => none

private theorem line?_on? (trap : Trap) (c : Console) (n : Notice) :
    (n.on? trap c).bind Piece.line? = n.lineOn? c := by
  cases n <;> simp only [Notice.on?, Notice.lineOn?] <;> split <;> rfl

private theorem lineOn?_of_isFault (c : Console) {n : Notice} (h : n.isFault = true) :
    n.lineOn? c = none := by
  cases n with
  | line => cases h
  | trapped => rfl

private theorem lines_of_notices (trap : Trap) (c : Console) (notices : List Notice) :
    (notices.filterMap (Notice.on? trap c)).filterMap Piece.line? =
      (notices.filter (!·.isFault)).filterMap (Notice.lineOn? c) := by
  rw [List.filterMap_filterMap, List.filterMap_filter]
  refine congrArg (List.filterMap · notices) (funext fun n => ?_)
  rw [line?_on?]
  cases h : n.isFault
  · rfl
  · exact lineOn?_of_isFault c h

private theorem eq_map_line {pieces : List Piece} (h : ∀ e, Piece.report e ∉ pieces) :
    pieces = (pieces.filterMap Piece.line?).map Piece.line := by
  induction pieces with
  | nil => rfl
  | cons piece rest ih =>
    have hrest := ih fun e he => h e (List.mem_cons_of_mem _ he)
    cases piece with
    | line text => exact congrArg (Piece.line text :: ·) hrest
    | report e => exact absurd List.mem_cons_self (h e)

/-- Where only lines are due, consoles show those. -/
theorem Announces.toSays {due : List Notice} (h : Announces due w w')
    (hdue : ∀ e, .trapped e ∉ due) : Says (fun c => due.filterMap (Notice.lineOn? c)) w w' := by
  obtain ⟨notices, htells, rfl, hall⟩ := h
  refine ⟨htells.trap, htells.refusals, fun c hc => ?_⟩
  refine ⟨_, htells.shown c hc, lines_of_notices w.trap c notices, fun hquiet => ?_⟩
  rw [← lines_of_notices w.trap c notices]
  refine eq_map_line fun e he => ?_
  obtain ⟨n, hn, hon⟩ := List.mem_filterMap.mp he
  -- A report comes of an error that is printed, so it may appear here and the consoles are unsound.
  cases n with
  | line console text =>
    rw [Notice.on?] at hon
    split at hon <;> cases hon
  | trapped error =>
    rw [Notice.on?] at hon
    split at hon
    · next hprinted =>
      have hsound : w.isSound = true := by
        simpa [World.mayReport, hprinted.1, hprinted.2] using hquiet
      exact hdue error (hall hsound ▸ hn)
    · cases hon

namespace Simple

theorem says_print (s : Simple) (channel text : String) :
    Says (fun c => if s.console = c then [text] else []) s.world (s.print channel text).world := by
  have hsays := (announces_print s channel text).toSays (by simp)
  have hlines (c : Console) : [Notice.line s.console text].filterMap (Notice.lineOn? c) =
      if s.console = c then [text] else [] := by
    by_cases hc : s.console = c <;> simp [Notice.lineOn?, hc]
  simp only [hlines] at hsays
  exact hsays

theorem says_flushConsole (s : Simple) : Says (fun _ => []) s.world s.flushConsole.world :=
  (announces_flushConsole s).toSays (by simp)

theorem says_setConsole (s : Simple) (console : Console) :
    Says (fun _ => []) s.world (s.setConsole console).world :=
  (announces_setConsole s console).toSays (by simp)

end Simple

end EventLog
