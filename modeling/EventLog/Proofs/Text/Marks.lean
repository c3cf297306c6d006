import EventLog.Text.Lines
import Mathlib.Data.List.Infix

/-! Texts between `::` marks. A text is told from what a mark after it sets apart, unless it has a
mark of its own or runs into that one with a colon. -/
namespace EventLog.Text

def mark : List Char := [':', ':']

/-- A text that has no mark and does not end in half of one. -/
structure Unmarked (cs : List Char) : Prop where
  noMark : ¬ mark <:+: cs
  noColon : cs.getLast? ≠ some ':'

theorem Unmarked.of_no_colon {cs : List Char} (h : ':' ∉ cs) : Unmarked cs where
  noMark hm := h (hm.subset (List.mem_cons_self ..))
  noColon hl := h (List.mem_of_getLast? hl)

private theorem Unmarked.tail {c : Char} {rest : List Char} (h : Unmarked (c :: rest)) :
    Unmarked rest where
  noMark hm := h.noMark (hm.trans (List.suffix_cons c rest).isInfix)
  noColon hl := by
    have hne : rest ≠ [] := by
      rintro rfl
      cases hl
    exact h.noColon (by rw [List.getLast?_cons_of_ne_nil hne]; exact hl)

private theorem Unmarked.not_prefix {c : Char} {rest : List Char} (h : Unmarked (c :: rest))
    (more : List Char) : ¬ mark <+: c :: (rest ++ more) := by
  intro hp
  obtain ⟨rfl, hnext⟩ := List.cons_prefix_cons.mp hp
  cases rest with
  | nil => exact h.noColon rfl
  | cons d rest =>
    obtain ⟨rfl, -⟩ := List.cons_prefix_cons.mp hnext
    exact h.noMark ⟨[], rest, rfl⟩

/-- An unmarked text may go on after a single colon. -/
theorem Unmarked.colon {cs more : List Char} (h : Unmarked cs) (hm : Unmarked more)
    (hne : more ≠ []) (hhead : more.head? ≠ some ':') : Unmarked (cs ++ ':' :: more) := by
  refine ⟨?_, ?_⟩
  · induction cs with
    | nil =>
      intro hi
      rcases List.infix_cons_iff.mp hi with hp | hi
      · obtain ⟨-, hp⟩ := List.cons_prefix_cons.mp hp
        obtain ⟨after, rfl⟩ := hp
        exact hhead rfl
      · exact hm.noMark hi
    | cons c cs ih =>
      intro hi
      rcases List.infix_cons_iff.mp hi with hp | hi
      · exact h.not_prefix (':' :: more) hp
      · exact ih h.tail hi
  · rw [List.getLast?_append, List.getLast?_cons_of_ne_nil hne]
    rw [Option.or_of_isSome (by simpa using hne)]
    exact hm.noColon

private theorem segments_ne_nil (cs : List Char) : segments cs ≠ [] := by
  fun_cases segments cs <;> simp_all

private theorem segments_cons {c : Char} {rest : List Char} (h : ¬ mark <+: c :: rest) :
    ∃ s more, segments rest = s :: more ∧ segments (c :: rest) = (c :: s) :: more := by
  obtain ⟨s, more, hs⟩ := List.exists_cons_of_ne_nil (segments_ne_nil rest)
  refine ⟨s, more, hs, ?_⟩
  rw [segments.eq_3, hs]
  rintro after rfl rfl
  exact h ⟨after, rfl⟩

/-- A text without a mark is its only piece. -/
theorem segments_of_noMark {cs : List Char} (h : ¬ mark <:+: cs) : segments cs = [cs] := by
  induction cs with
  | nil => rfl
  | cons c cs ih =>
    obtain ⟨s, more, hs, hcons⟩ := segments_cons fun hp => h hp.isInfix
    rw [ih fun hm => h (hm.trans (List.suffix_cons c cs).isInfix)] at hs
    obtain ⟨rfl, rfl⟩ := List.cons.inj hs
    exact hcons

/-- A mark that no colon runs into parts the pieces before it from those after it. -/
theorem segments_append {front : List Char} (h : front.getLast? ≠ some ':') (back : List Char) :
    segments (front ++ mark ++ back) = segments front ++ segments back := by
  fun_induction segments front with
  | case1 => rfl
  | case2 rest ih =>
    have hrest : rest.getLast? ≠ some ':' := by
      cases rest with
      | nil => exact absurd rfl h
      | cons c rest => exact h
    exact congrArg ([] :: ·) (ih hrest)
  | case3 c rest hmark hnil => exact absurd hnil (segments_ne_nil rest)
  | case4 c rest hmark s more hs ih =>
    have hrest : rest.getLast? ≠ some ':' := by
      cases rest with
      | nil => simp
      | cons d rest => exact h
    have hp : ¬ mark <+: c :: (rest ++ mark ++ back) := by
      intro hp
      obtain ⟨rfl, hnext⟩ := List.cons_prefix_cons.mp hp
      cases rest with
      | nil => exact h rfl
      | cons d rest =>
        obtain ⟨rfl, -⟩ := List.cons_prefix_cons.mp hnext
        exact hmark rest rfl rfl
    obtain ⟨s', more', hs', hcons⟩ := segments_cons hp
    rw [ih hrest, hs, List.cons_append] at hs'
    obtain ⟨rfl, rfl⟩ := List.cons.inj hs'
    exact hcons

/-- What stands before a mark is the first piece. -/
theorem segments_append_mark {cs : List Char} (h : Unmarked cs) (rest : List Char) :
    segments (cs ++ mark ++ rest) = cs :: segments rest := by
  rw [segments_append h.noColon, segments_of_noMark h.noMark]
  rfl

/-- The pieces with marks between them are the text. -/
theorem intercalate_segments (cs : List Char) : List.intercalate mark (segments cs) = cs := by
  fun_induction segments cs with
  | case1 => rfl
  | case2 rest ih =>
    rw [List.intercalate_cons_of_ne_nil (segments_ne_nil rest), ih]
    rfl
  | case3 c rest hmark hnil => exact absurd hnil (segments_ne_nil rest)
  | case4 c rest hmark s more hs ih =>
    rw [hs] at ih
    cases more with
    | nil => simpa using ih
    | cons next more =>
      rw [List.intercalate_cons_cons] at ih ⊢
      simpa using ih

/-- The first mark after an unmarked text cuts it off. -/
theorem Unmarked.cut {cs ds rest more : List Char} (hc : Unmarked cs) (hd : Unmarked ds)
    (h : cs ++ mark ++ rest = ds ++ mark ++ more) : cs = ds ∧ rest = more := by
  have hpieces := congrArg segments h
  rw [segments_append_mark hc, segments_append_mark hd] at hpieces
  obtain ⟨rfl, -⟩ := List.cons.inj hpieces
  exact ⟨rfl, List.append_cancel_left h⟩

private theorem segments_concat {c : Char} (hc : c ≠ ':') (cs : List Char) :
    ∃ front last, segments (cs ++ [c]) = front ++ [last ++ [c]] := by
  fun_induction segments cs with
  | case1 =>
    refine ⟨[], [], segments_of_noMark fun hm => hc ?_⟩
    exact (List.mem_singleton.mp (hm.subset List.mem_cons_self)).symm
  | case2 rest ih =>
    obtain ⟨front, last, h⟩ := ih
    exact ⟨[] :: front, last, congrArg ([] :: ·) h⟩
  | case3 d rest hmark hnil => exact absurd hnil (segments_ne_nil rest)
  | case4 d rest hmark s more hs ih =>
    obtain ⟨front, last, h⟩ := ih
    have hp : ¬ mark <+: d :: (rest ++ [c]) := by
      intro hp
      obtain ⟨rfl, hnext⟩ := List.cons_prefix_cons.mp hp
      cases rest with
      | nil => exact hc (List.cons_prefix_cons.mp hnext).1.symm
      | cons e rest =>
        obtain ⟨rfl, -⟩ := List.cons_prefix_cons.mp hnext
        exact hmark rest rfl rfl
    obtain ⟨s', more', hs', hcons⟩ := segments_cons hp
    rw [List.cons_append, hcons]
    rw [h] at hs'
    cases front with
    | nil =>
      obtain ⟨rfl, rfl⟩ := List.cons.inj hs'
      exact ⟨[], d :: last, rfl⟩
    | cons first front =>
      obtain ⟨rfl, rfl⟩ := List.cons.inj hs'
      exact ⟨(d :: first) :: front, last, rfl⟩

/-! The same from the end of a text. -/

theorem segmentsFromEnd_ne_nil (cs : List Char) : segmentsFromEnd cs ≠ [] := by
  rw [segmentsFromEnd, ne_eq, List.map_eq_nil_iff]
  exact segments_ne_nil cs.reverse

theorem segmentsFromEnd_of_noMark {cs : List Char} (h : ¬ mark <:+: cs) :
    segmentsFromEnd cs = [cs] := by
  have hreverse : ¬ mark <:+: cs.reverse := by
    rw [← List.reverse_infix, List.reverse_reverse]
    exact h
  rw [segmentsFromEnd, segments_of_noMark hreverse, List.map_singleton, List.reverse_reverse]

/-- From the end, a mark parts the pieces after it from those before it if no colon follows it. -/
theorem segmentsFromEnd_append (front : List Char) {back : List Char}
    (h : back.head? ≠ some ':') :
    segmentsFromEnd (front ++ mark ++ back) = segmentsFromEnd back ++ segmentsFromEnd front := by
  have hreverse : (front ++ mark ++ back).reverse = back.reverse ++ mark ++ front.reverse := by
    rw [List.reverse_append, List.reverse_append, List.append_assoc]
    rfl
  have hlast : back.reverse.getLast? ≠ some ':' := by rwa [List.getLast?_reverse]
  rw [segmentsFromEnd, hreverse, segments_append hlast, List.map_append]
  rfl

/-- The first piece starts as the text does, unless that is with a colon. -/
theorem segmentsFromEnd_cons {c : Char} (hc : c ≠ ':') (cs : List Char) :
    ∃ more first, segmentsFromEnd (c :: cs) = more ++ [c :: first] := by
  obtain ⟨front, last, h⟩ := segments_concat hc cs.reverse
  refine ⟨front.map List.reverse, last.reverse, ?_⟩
  rw [segmentsFromEnd, List.reverse_cons, h]
  simp

/-- The last piece ends as the text does, unless that is with a colon. -/
theorem segmentsFromEnd_concat {c : Char} (hc : c ≠ ':') (cs : List Char) :
    ∃ last more, segmentsFromEnd (cs ++ [c]) = (last ++ [c]) :: more := by
  have hp : ¬ mark <+: c :: cs.reverse := fun hp => hc (List.cons_prefix_cons.mp hp).1.symm
  obtain ⟨s, more, -, h⟩ := segments_cons hp
  refine ⟨s.reverse, more.map List.reverse, ?_⟩
  rw [segmentsFromEnd, List.reverse_concat, h]
  simp

/-- A text of some parts with marks between them, of which only the first may be empty or start with
a colon, has the pieces of its parts. -/
theorem segmentsFromEnd_intercalate {parts : List (List Char)} (hne : parts ≠ [])
    (h : ∀ part ∈ parts.tail, part ≠ [] ∧ part.head? ≠ some ':') :
    segmentsFromEnd (List.intercalate mark parts) = parts.reverse.flatMap segmentsFromEnd := by
  induction parts with
  | nil => exact absurd rfl hne
  | cons first rest ih =>
    cases rest with
    | nil => simp
    | cons next rest =>
      obtain ⟨hnext, hcolon⟩ := h next List.mem_cons_self
      have hhead : (List.intercalate mark (next :: rest)).head? ≠ some ':' := by
        obtain ⟨c, cs, rfl⟩ := List.exists_cons_of_ne_nil hnext
        cases rest with
        | nil => simpa using hcolon
        | cons other rest => simpa [List.intercalate_cons_cons] using hcolon
      rw [List.intercalate_cons_cons, segmentsFromEnd_append first hhead,
        ih (List.cons_ne_nil _ _) fun part hpart => h part (List.mem_cons_of_mem _ hpart)]
      simp

/-- A text with marks has a last one: after it stands no other, nor a colon that would move it. -/
theorem exists_last_mark {cs : List Char} (h : mark <:+: cs) :
    ∃ front back, cs = front ++ mark ++ back ∧ ¬ mark <:+: back ∧ back.head? ≠ some ':' := by
  induction cs with
  | nil => exact absurd (List.infix_nil.mp h) (List.cons_ne_nil _ _)
  | cons c cs ih =>
    by_cases hmark : mark <:+: cs
    · obtain ⟨front, back, rfl, hback⟩ := ih hmark
      exact ⟨c :: front, back, rfl, hback⟩
    -- The mark at the start is the last: another one, or a colon behind it, would lie in `cs`.
    · obtain ⟨back, hcs⟩ := (List.infix_cons_iff.mp h).resolve_right hmark
      obtain ⟨rfl, rfl⟩ := List.cons.inj hcs
      refine ⟨[], back, rfl, fun hm => hmark ?_, fun hhead => hmark ?_⟩
      · exact hm.trans (List.suffix_cons ':' back).isInfix
      · obtain ⟨rest, rfl⟩ := List.head?_eq_some_iff.mp hhead
        exact ⟨[], rest, rfl⟩

/-- The text after the last mark is the last piece. -/
theorem segmentsFromEnd_of_last (front : List Char) {back : List Char}
    (hmark : ¬ mark <:+: back) (hhead : back.head? ≠ some ':') :
    segmentsFromEnd (front ++ mark ++ back) = back :: segmentsFromEnd front := by
  rw [segmentsFromEnd_append front hhead, segmentsFromEnd_of_noMark hmark]
  rfl

theorem cutAtLastMark_of_last (front : List Char) {back : List Char}
    (hmark : ¬ mark <:+: back) (hhead : back.head? ≠ some ':') :
    cutAtLastMark (front ++ mark ++ back) = some (front, back) := by
  obtain ⟨first, more, hfront⟩ := List.exists_cons_of_ne_nil (segmentsFromEnd_ne_nil front)
  have htake : (front ++ mark ++ back).take ((front ++ mark ++ back).length - back.length - 2) =
      front := by
    have hlength : (front ++ mark ++ back).length - back.length - 2 = front.length := by
      simp only [List.length_append, mark, List.length_cons, List.length_nil]
      omega
    rw [hlength, List.append_assoc, List.take_left]
  unfold cutAtLastMark
  rw [segmentsFromEnd_of_last front hmark hhead, hfront]
  simp only [htake]

theorem cutAtLastMark_of_noMark {cs : List Char} (h : ¬ mark <:+: cs) :
    cutAtLastMark cs = none := by
  unfold cutAtLastMark
  rw [segmentsFromEnd_of_noMark h]

end EventLog.Text
