import EventLog.Proofs.Template.Rendering

/-! The arguments of a template are a queue. Every placeholder that shows an argument takes the
first that is left, and no other token takes any; so a template never looks at more arguments than
it has such placeholders, and it misses one only where the queue is empty. -/
namespace EventLog.Template

/-- The text of a token with a queue of arguments before it, and the arguments that it leaves. -/
inductive Token.Draws (r : Renderer) (site : CallSite) (disk : Disk) :
    List Value → Token → List Char → List Value → Prop
  | text (args c) : Draws r site disk args (.text c) [c] args
  | brace (args) : Draws r site disk args .brace ['\x7b'] args
  | named {args operation own} (asks : operation.head? = some '@')
      (resolved : r.macros.resolve (String.ofList operation) site = .ok own) :
      Draws r site disk args (.placeholder operation) own.toList args
  | argument {v args operation own} (shows : operation.head? ≠ some '@')
      (formatted :
        Formatter.formatArgument r.formatters disk v (String.ofList operation) = .ok own) :
      Draws r site disk (v :: args) (.placeholder operation) own.toList args

/-- The text of tokens that draw on a queue of arguments in turn, and the arguments that they
leave. -/
inductive Dealt (r : Renderer) (site : CallSite) (disk : Disk) :
    List Value → List Token → List Char → List Value → Prop
  | nil (args) : Dealt r site disk args [] [] args
  | cons {args t own queue ts more left} (first : t.Draws r site disk args own queue)
      (rest : Dealt r site disk queue ts more left) :
      Dealt r site disk args (t :: ts) (own ++ more) left

/-- A template comes to a placeholder that no argument is left for: as many arguments as there are
were shown before it, and no token before it fails. -/
def RunsOut (r : Renderer) (on : Occasion) (template : String) : Prop :=
  ∃ before operation after, tokens template.toList = before ++ .placeholder operation :: after ∧
    operation.head? ≠ some '@' ∧ shown before = on.args.length ∧
    ∀ first t more, before = first ++ t :: more →
      ∃ text, meaningAfter r on template first t = .ok text

private theorem shown_singleton (t : Token) : shown [t] = if t.showsArgument then 1 else 0 :=
  List.countP_singleton

private theorem showsArgument_placeholder {operation : List Char} :
    (Token.placeholder operation).showsArgument = true ↔ operation.head? ≠ some '@' :=
  decide_eq_true_iff

variable (r : Renderer) (site : CallSite) (disk : Disk) (template : String)

private theorem meaning_of_short {on : Occasion} {index : Nat} {t : Token}
    (hshows : t.showsArgument = true) (hshort : on.args.length ≤ index) (position : Nat) :
    t.meaning r on template position index = .error (missingArgument template index) := by
  cases t with
  | text c => cases hshows
  | brace => cases hshows
  | unclosed rest => cases hshows
  | placeholder operation =>
    simp only [Token.meaning, if_neg (showsArgument_placeholder.mp hshows),
      List.getElem?_eq_none hshort]
    rfl

/-- A token that shows an argument and does not miss it has one. -/
theorem index_lt_of_meaning (on : Occasion) {position index : Nat} {t : Token}
    (hshows : t.showsArgument = true)
    (h : ∀ e, t.meaning r on template position index = .error e → e.kind ≠ .missingArgument) :
    index < on.args.length := by
  rcases Nat.lt_or_ge index on.args.length with hlt | hshort
  · exact hlt
  · exact absurd rfl (h _ (meaning_of_short r template hshows hshort position))

/-- What an argument that is missing tells of its token. -/
theorem missing_of_meaning {on : Occasion} {position index : Nat} {t : Token} {e : Error}
    (h : t.meaning r on template position index = .error e) (hkind : e.kind = .missingArgument) :
    t.showsArgument = true ∧ on.args.length ≤ index ∧ e = missingArgument template index := by
  obtain ⟨hshows, hshort⟩ : t.showsArgument = true ∧ on.args.length ≤ index := by
    have hfails := meaning_fails r on template h
    cases t with
    | text c => exact hfails.elim
    | brace => exact hfails.elim
    | unclosed rest =>
      rw [hfails.1] at hkind
      cases hkind
    | placeholder operation =>
      simp only [Token.FailsWith] at hfails
      split at hfails
      · rw [hfails.1] at hkind
        cases hkind
      · next hshows =>
        split at hfails
        · next hshort => exact ⟨showsArgument_placeholder.mpr hshows, hshort⟩
        · rw [hfails.1] at hkind
          cases hkind
  rw [meaning_of_short r template hshows hshort] at h
  exact ⟨hshows, hshort, (Except.error.inj h).symm⟩

/-- A token looks at no argument but the one that it shows. -/
theorem meaning_congr {args other : List Value} {index : Nat} {t : Token}
    (h : t.showsArgument = true → args[index]? = other[index]?) (position : Nat) :
    t.meaning r ⟨args, site, disk⟩ template position index =
      t.meaning r ⟨other, site, disk⟩ template position index := by
  cases t with
  | text c => rfl
  | brace => rfl
  | unclosed rest => rfl
  | placeholder operation =>
    by_cases ha : operation.head? = some '@'
    · simp only [Token.meaning, if_pos ha]
    · simp only [Token.meaning, if_neg ha, h (showsArgument_placeholder.mpr ha)]

private theorem evaluate_congr {args other : List Value} {before ts : List Token}
    (h : ∀ i < shown (before ++ ts), args[i]? = other[i]?) :
    evaluate r ⟨args, site, disk⟩ template before ts =
      evaluate r ⟨other, site, disk⟩ template before ts := by
  induction ts generalizing before with
  | nil => rfl
  | cons t ts ih =>
    have hone : meaningAfter r ⟨args, site, disk⟩ template before t =
        meaningAfter r ⟨other, site, disk⟩ template before t := by
      apply meaning_congr
      intro hshows
      apply h
      rw [List.append_cons, shown_append, shown_append, shown_singleton, if_pos hshows]
      omega
    rw [List.append_cons] at h
    rw [evaluate, evaluate, hone, ih h]

/-- Further arguments are not looked at where none is missing without them. -/
theorem evaluate_of_longer {args : List Value} (extra : List Value) {before ts : List Token}
    (h : ∀ e, evaluate r ⟨args, site, disk⟩ template before ts = .error e →
      e.kind ≠ .missingArgument) :
    evaluate r ⟨args ++ extra, site, disk⟩ template before ts =
      evaluate r ⟨args, site, disk⟩ template before ts := by
  induction ts generalizing before with
  | nil => rfl
  | cons t ts ih =>
    have hone : meaningAfter r ⟨args ++ extra, site, disk⟩ template before t =
        meaningAfter r ⟨args, site, disk⟩ template before t := by
      apply meaning_congr
      intro hshows
      apply List.getElem?_append_left
      apply index_lt_of_meaning r template ⟨args, site, disk⟩ hshows
      intro e he
      apply h e
      rw [evaluate, meaningAfter, he]
    rw [evaluate, evaluate, hone]
    cases ht : meaningAfter r ⟨args, site, disk⟩ template before t with
    | error e => rfl
    | ok text =>
      simp only []
      rw [ih]
      intro e he
      apply h e
      rw [evaluate, ht]
      simp only [he]
      rfl

/-- Tokens that do not fail show no more arguments than there are. -/
theorem shown_le_of_ok {on : Occasion} (before : List Token) {ts : List Token}
    (hle : shown before ≤ on.args.length)
    (h : ∀ first t more, ts = first ++ t :: more →
      ∃ text, meaningAfter r on template (before ++ first) t = .ok text) :
    shown (before ++ ts) ≤ on.args.length := by
  induction ts generalizing before with
  | nil => rwa [List.append_nil]
  | cons t ts ih =>
    obtain ⟨text, htext⟩ := h [] t ts rfl
    rw [List.append_nil] at htext
    rw [List.append_cons]
    apply ih
    · rw [shown_append, shown_singleton]
      split
      · next hshows =>
        apply index_lt_of_meaning r template on hshows
        intro e he
        rw [meaningAfter, he] at htext
        cases htext
      · exact hle
    · intro first s more hts
      rw [List.append_assoc]
      exact h (t :: first) s more (congrArg (t :: ·) hts)

/-- Tokens miss an argument just where the queue of arguments is empty before one of them. -/
theorem evaluate_missing_iff {on : Occasion} {e : Error} :
    (evaluate r on template [] (tokens template.toList) = .error e ∧ e.kind = .missingArgument) ↔
      RunsOut r on template ∧ e = missingArgument template on.args.length := by
  constructor
  · rintro ⟨he, hkind⟩
    obtain ⟨before, t, after, hts, hdone, ht⟩ := (evaluate_eq_error_iff r on template _ _ _).mp he
    obtain ⟨hshows, hshort, rfl⟩ := missing_of_meaning r template ht hkind
    -- None is missing before the token, and one is at it.
    have hlong : shown before ≤ on.args.length :=
      shown_le_of_ok r template [] (Nat.zero_le _) hdone
    have hcount : shown before = on.args.length := Nat.le_antisymm hlong hshort
    cases t with
    | text c => cases hshows
    | brace => cases hshows
    | unclosed rest => cases hshows
    | placeholder operation =>
      refine ⟨⟨before, operation, after, hts, ?_, hcount, hdone⟩, ?_⟩
      · exact showsArgument_placeholder.mp hshows
      · rw [← hcount]
        rfl
  · rintro ⟨⟨before, operation, after, hts, hshows, hcount, hdone⟩, rfl⟩
    refine ⟨?_, rfl⟩
    apply (evaluate_eq_error_iff r on template _ _ _).mpr
    refine ⟨before, .placeholder operation, after, hts, hdone, ?_⟩
    rw [List.nil_append, meaningAfter, ← hcount]
    have hshort := Nat.le_of_eq hcount.symm
    exact meaning_of_short r template (showsArgument_placeholder.mpr hshows) hshort _

variable {r site disk template} {args left : List Value} {ts : List Token} {out : List Char}

private theorem map_toList_eq_ok {x : Except Error String} {text : List Char} :
    x.map String.toList = .ok text ↔ ∃ own, x = .ok own ∧ own.toList = text := by
  cases x with
  | error e => simp [Except.map]
  | ok own => simp [Except.map]

/-- The queue before a token is what is left of the arguments from its index on. -/
theorem draws_iff (template : String) (position : Nat) {index : Nat} {t : Token} :
    t.Draws r site disk (args.drop index) out left ↔
      t.meaning r ⟨args, site, disk⟩ template position index = .ok out ∧
        left = args.drop (index + shown [t]) := by
  rw [shown_singleton]
  constructor
  · intro h
    generalize hqueue : args.drop index = queue at h
    cases h with
    | text args c => exact ⟨rfl, hqueue.symm⟩
    | brace args => exact ⟨rfl, hqueue.symm⟩
    | named asks resolved =>
      refine ⟨?_, ?_⟩
      · simp only [Token.meaning, if_pos asks, resolved, Except.map]
      · rw [if_neg (mt showsArgument_placeholder.mp (not_not_intro asks))]
        exact hqueue.symm
    | @argument v rest operation own shows formatted =>
      have hv : args[index]? = some v := by
        rw [← List.head?_drop, hqueue]
        rfl
      refine ⟨?_, ?_⟩
      · simp only [Token.meaning, if_neg shows, hv, formatted, Except.map]
      · rw [if_pos (showsArgument_placeholder.mpr shows), ← List.tail_drop, hqueue]
        rfl
  · rintro ⟨hmeaning, rfl⟩
    cases t with
    | text c =>
      cases hmeaning
      exact .text _ c
    | brace =>
      cases hmeaning
      exact .brace _
    | unclosed rest => cases hmeaning
    | placeholder operation =>
      obtain ⟨own, hown, rfl⟩ := map_toList_eq_ok.mp hmeaning
      by_cases asks : operation.head? = some '@'
      · rw [if_neg (mt showsArgument_placeholder.mp (not_not_intro asks))]
        rw [if_pos asks] at hown
        exact .named asks hown
      · rw [if_pos (showsArgument_placeholder.mpr asks), ← List.tail_drop]
        rw [if_neg asks] at hown
        cases hv : args[index]? with
        | none =>
          rw [hv] at hown
          cases hown
        | some v =>
          rw [hv] at hown
          rw [← List.head?_drop] at hv
          obtain ⟨queue, hqueue⟩ := List.head?_eq_some_iff.mp hv
          rw [hqueue]
          exact .argument asks hown

private theorem dealt_iff (before : List Token) :
    Dealt r site disk (args.drop (shown before)) ts out left ↔
      evaluate r ⟨args, site, disk⟩ template before ts = .ok out ∧
        left = args.drop (shown (before ++ ts)) := by
  induction ts generalizing before out with
  | nil =>
    rw [List.append_nil, evaluate]
    constructor
    · intro h
      cases h
      exact ⟨rfl, rfl⟩
    · rintro ⟨hout, rfl⟩
      cases hout
      exact .nil _
  | cons t ts ih =>
    have hqueue : args.drop (shown (before ++ [t])) = args.drop (shown before + shown [t]) := by
      rw [shown_append]
    rw [evaluate_cons_eq_ok, List.append_cons before t ts]
    constructor
    · intro h
      cases h with
      | cons first rest =>
        obtain ⟨hfirst, rfl⟩ := (draws_iff template (span before)).mp first
        rw [← hqueue] at rest
        obtain ⟨hrest, hleft⟩ := (ih _).mp rest
        exact ⟨⟨_, _, hfirst, hrest, rfl⟩, hleft⟩
    · rintro ⟨⟨own, more, hfirst, hrest, rfl⟩, hleft⟩
      have hdraws : t.Draws r site disk (args.drop (shown before)) own
          (args.drop (shown before + shown [t])) := (draws_iff _ _).mpr ⟨hfirst, rfl⟩
      apply Dealt.cons hdraws
      rw [← hqueue]
      exact (ih _).mpr ⟨hrest, hleft⟩

/-- Rendering deals the arguments out in order. It looks at no more of them than there are
placeholders that show one; what comes after them changes nothing unless one is missing; and one is
missing just where the queue is empty before a placeholder that shows one, which is then told by the
number of arguments that there are. A name, an escaped brace and a character leave the queue as it
is, so a placeholder shows, or fails on, the argument that those like it before it have left. -/
theorem arguments_dealt_in_order (r : Renderer) (site : CallSite) (disk : Disk)
    (template : String) (args : List Value) :
    (∀ other : List Value, other.take (shown (tokens template.toList)) =
        args.take (shown (tokens template.toList)) →
      render r ⟨other, site, disk⟩ template = render r ⟨args, site, disk⟩ template) ∧
    ((∀ e, render r ⟨args, site, disk⟩ template = .error e → e.kind ≠ .missingArgument) →
      ∀ extra, render r ⟨args ++ extra, site, disk⟩ template =
        render r ⟨args, site, disk⟩ template) ∧
    ((∃ e, render r ⟨args, site, disk⟩ template = .error e ∧ e.kind = .missingArgument) ↔
      RunsOut r ⟨args, site, disk⟩ template) ∧
    (∀ e, render r ⟨args, site, disk⟩ template = .error e → e.kind = .missingArgument →
      e.context? "index" = some (Text.number args.length)) ∧
    (∀ out, render r ⟨args, site, disk⟩ template = .ok out ↔
      ∃ left, Dealt r site disk args (tokens template.toList) out.toList left) ∧
    ∀ before operation after text v left e,
      tokens template.toList = before ++ .placeholder operation :: after →
      operation.head? ≠ some '@' → Dealt r site disk args before text (v :: left) →
      Formatter.formatArgument r.formatters disk v (String.ofList operation) = .error e →
      render r ⟨args, site, disk⟩ template = .error e := by
  simp only [render_eq_ok_iff, render_eq_error_iff]
  refine ⟨fun other hsame => ?_, fun hthere extra => ?_, ?_, fun e he hkind => ?_, fun out => ?_,
    ?_⟩
  · have hget : ∀ i < shown ([] ++ tokens template.toList), other[i]? = args[i]? := by
      intro i hi
      have hi : i < shown (tokens template.toList) := hi
      rw [← List.getElem?_take_of_lt hi, hsame, List.getElem?_take_of_lt hi]
    rw [render_eq_evaluate, render_eq_evaluate, evaluate_congr r site disk template hget]
  · rw [render_eq_evaluate, render_eq_evaluate,
      evaluate_of_longer r site disk template extra hthere]
  · constructor
    · rintro ⟨e, hmissing⟩
      exact ((evaluate_missing_iff r template).mp hmissing).1
    · intro hout
      exact ⟨_, (evaluate_missing_iff r template).mpr ⟨hout, rfl⟩⟩
  · obtain ⟨-, rfl⟩ := (evaluate_missing_iff r template).mp ⟨he, hkind⟩
    rfl
  · constructor
    · intro hout
      exact ⟨_, (dealt_iff []).mpr ⟨hout, rfl⟩⟩
    · rintro ⟨left, hdealt⟩
      exact ((dealt_iff []).mp hdealt).1
  · intro before operation after text v left e hts hshows hdealt hfails
    obtain ⟨htext, hleft⟩ := (dealt_iff []).mp hdealt
    have hv : args[shown before]? = some v := by
      rw [List.nil_append] at hleft
      rw [← List.head?_drop, ← hleft]
      rfl
    have hmeaning : meaningAfter r ⟨args, site, disk⟩ template before (.placeholder operation) =
        .error e := by
      simp only [meaningAfter, Token.meaning, if_neg hshows, hv, hfails, Except.map]
    rw [hts, evaluate_append, htext, List.nil_append, evaluate, hmeaning]
    rfl

end EventLog.Template
