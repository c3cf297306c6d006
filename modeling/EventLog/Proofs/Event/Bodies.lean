import EventLog.Event

/-! The lines that the text of an event comes to. They are what stands between its line feeds, where
a carriage return right before a feed goes with it; empty ones are left out, and an event with no
other still has a line. -/
namespace EventLog.Text

/-- A text without the carriage returns that stand right before a line feed. -/
def unreturned : List Char → List Char
  | [] => []
  | c :: rest => if c = '\r' ∧ rest.head? = some '\n' then unreturned rest else c :: unreturned rest

private theorem unreturned_of_kept {c : Char} {rest : List Char}
    (h : ∀ more, c = '\r' → rest = '\n' :: more → False) :
    unreturned (c :: rest) = c :: unreturned rest := by
  rw [unreturned, if_neg]
  rintro ⟨hreturn, hfeed⟩
  obtain ⟨more, hmore⟩ := List.head?_eq_some_iff.mp hfeed
  exact h more hreturn hmore

private theorem unreturned_feed (rest : List Char) :
    unreturned ('\n' :: rest) = '\n' :: unreturned rest := by
  rw [unreturned, if_neg fun h => absurd h.1 (by decide)]

private theorem unreturned_return_feed (rest : List Char) :
    unreturned ('\r' :: '\n' :: rest) = '\n' :: unreturned rest := by
  rw [unreturned, if_pos ⟨rfl, rfl⟩, unreturned_feed]

private theorem feed_notMem_lines {cs line : List Char} (h : line ∈ lines cs) : '\n' ∉ line := by
  fun_induction lines cs generalizing line with
  | case1 => cases h
  | case2 rest ih =>
    rcases List.mem_cons.mp h with rfl | h
    · exact List.not_mem_nil
    · exact ih h
  | case3 rest ih =>
    rcases List.mem_cons.mp h with rfl | h
    · exact List.not_mem_nil
    · exact ih h
  | case4 c rest hfeed hreturn hnil ih =>
    rw [List.mem_singleton.mp h, List.mem_singleton]
    exact fun hc => hfeed hc.symm
  | case5 c rest hfeed hreturn first more hrest ih =>
    rcases List.mem_cons.mp h with rfl | h
    · rw [List.mem_cons, not_or]
      refine ⟨fun hc => hfeed hc.symm, ih ?_⟩
      rw [hrest]
      exact List.mem_cons_self
    · apply ih
      rw [hrest]
      exact List.mem_cons_of_mem _ h

/-- The lines are cut at the line feeds, and what follows the last of them is one if it is not
empty. -/
theorem splitOn_unreturned (cs : List Char) :
    (unreturned cs).splitOn '\n' = lines cs ∨ (unreturned cs).splitOn '\n' = lines cs ++ [[]] := by
  fun_induction lines cs with
  | case1 => exact .inr rfl
  | case2 rest ih =>
    rw [unreturned_feed, List.splitOn_cons_eq_if_modifyHead, if_pos (beq_self_eq_true _)]
    exact ih.imp (congrArg ([] :: ·)) (congrArg ([] :: ·))
  | case3 rest ih =>
    rw [unreturned_return_feed, List.splitOn_cons_eq_if_modifyHead, if_pos (beq_self_eq_true _)]
    exact ih.imp (congrArg ([] :: ·)) (congrArg ([] :: ·))
  | case4 c rest hfeed hreturn hnil ih =>
    have hc : (c == '\n') = false := beq_eq_false_iff_ne.mpr hfeed
    rw [unreturned_of_kept hreturn, List.splitOn_cons_eq_if_modifyHead, hc]
    rw [hnil] at ih
    rcases ih with h | h
    · exact absurd h (List.splitOn_ne_nil _ _)
    · rw [h]
      exact .inl rfl
  | case5 c rest hfeed hreturn first more hrest ih =>
    have hc : (c == '\n') = false := beq_eq_false_iff_ne.mpr hfeed
    rw [unreturned_of_kept hreturn, List.splitOn_cons_eq_if_modifyHead, hc]
    rw [hrest] at ih
    rcases ih with h | h
    · rw [h]
      exact .inl rfl
    · rw [h]
      exact .inr rfl

/-- The lines together are the text without the line feeds and what goes with them. -/
theorem flatten_lines (cs : List Char) :
    (lines cs).flatten = (unreturned cs).filter (· ≠ '\n') := by
  fun_induction lines cs with
  | case1 => rfl
  | case2 rest ih =>
    rw [unreturned_feed, List.filter_cons_of_neg (by decide)]
    exact ih
  | case3 rest ih =>
    rw [unreturned_return_feed, List.filter_cons_of_neg (by decide)]
    exact ih
  | case4 c rest hfeed hreturn hnil ih =>
    rw [unreturned_of_kept hreturn, List.filter_cons_of_pos (by simpa using hfeed), ← ih, hnil]
    rfl
  | case5 c rest hfeed hreturn first more hrest ih =>
    rw [unreturned_of_kept hreturn, List.filter_cons_of_pos (by simpa using hfeed), ← ih, hrest]
    rfl

end EventLog.Text

namespace EventLog.Event

variable (zone : Zone) (e : Event)

private theorem header_of_text (text : String) :
    ({ e with text := text } : Event).header zone = e.header zone := rfl

theorem lines_eq_flatMap :
    e.lines zone = e.bodies.flatMap fun line => e.header zone ++ line ++ ['\n'] := by
  rw [lines, pieces]
  induction e.bodies with
  | nil => rfl
  | cons line rest ih =>
    rw [List.flatMap_cons, List.flatten_append, ih, List.flatMap_cons]
    simp

/-- The lines of an event are those of its text that are not empty, or an empty one if there are
none. -/
theorem bodies_cases :
    e.bodies ≠ [] ∧ e.bodies = (Text.lines e.text.toList).filter (· ≠ []) ∨
      (∀ line ∈ Text.lines e.text.toList, line = []) ∧ e.bodies = [[]] := by
  unfold bodies
  split
  · next hnone =>
    refine .inr ⟨fun line hline => ?_, rfl⟩
    simpa using List.filter_eq_nil_iff.mp hnone line hline
  · next hsome => exact .inl ⟨hsome, rfl⟩

private theorem flatten_bodies : e.bodies.flatten = (Text.lines e.text.toList).flatten := by
  rcases e.bodies_cases with ⟨-, hbodies⟩ | ⟨hempty, hbodies⟩
  · rw [hbodies, List.flatten_filter_ne_nil]
  · rw [hbodies, eq_comm, List.flatten_eq_nil_iff.mpr hempty]
    rfl

/-- Every line of an event has the same header, which does not look at the text, and ends in a line
feed. Between the two stand the lines of the text that are not empty, or nothing once if there are
none: no line feed is left in them, and together they are the text without its line feeds and the
carriage returns right before these. -/
theorem header_before_every_line (zone : Zone) (e : Event) :
    (∀ text, ({ e with text := text } : Event).header zone = e.header zone) ∧
    e.lines zone = (e.bodies.flatMap fun line => e.header zone ++ line ++ ['\n']) ∧
    e.bodies ≠ [] ∧ (∀ line ∈ e.bodies, '\n' ∉ line) ∧
    ((∀ line ∈ e.bodies, line ≠ []) ∨
      (∀ line ∈ Text.lines e.text.toList, line = []) ∧ e.bodies = [[]]) ∧
    e.bodies.flatten = (Text.unreturned e.text.toList).filter (· ≠ '\n') ∧
    e.bodies.filter (· ≠ []) =
      ((Text.unreturned e.text.toList).splitOn '\n').filter (· ≠ []) := by
  have hcut : (Text.lines e.text.toList).filter (· ≠ []) =
      ((Text.unreturned e.text.toList).splitOn '\n').filter (· ≠ []) := by
    rcases Text.splitOn_unreturned e.text.toList with h | h
    · rw [h]
    · rw [h, List.filter_append]
      simp
  have hflatten := e.flatten_bodies.trans (Text.flatten_lines _)
  refine ⟨header_of_text zone e, lines_eq_flatMap zone e, ?_⟩
  rcases e.bodies_cases with ⟨hsome, hbodies⟩ | ⟨hempty, hbodies⟩
  · refine ⟨hsome, fun line hline => ?_, .inl fun line hline => ?_, hflatten, ?_⟩
    · rw [hbodies] at hline
      exact Text.feed_notMem_lines (List.mem_filter.mp hline).1
    · rw [hbodies] at hline
      simpa using (List.mem_filter.mp hline).2
    · rw [← hcut, hbodies, List.filter_filter]
      simp
  · refine ⟨?_, fun line hline => ?_, .inr ⟨hempty, hbodies⟩, hflatten, ?_⟩
    · rw [hbodies]
      exact List.cons_ne_nil _ _
    · rw [hbodies] at hline
      rw [List.mem_singleton.mp hline]
      exact List.not_mem_nil
    · rw [← hcut, hbodies, eq_comm, List.filter_eq_nil_iff.mpr fun line hline => ?_]
      · rfl
      · simpa using hempty line hline

-- Of two carriage returns before a feed one stays, and so does one at the end.
example : (⟨0, .info, ⟨0⟩, "svc", "a\r\r\n\nb\r"⟩ : Event).bodies = [['a', '\r'], ['b', '\r']] := by
  decide

end EventLog.Event
