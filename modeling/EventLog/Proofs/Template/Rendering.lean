import EventLog.Proofs.Template.Tokens

/-! Rendering goes through a template once, from left to right, and is the same as reading it into
tokens and evaluating those in turn. An error is that of the leftmost token that fails. -/
namespace EventLog.Template

variable (r : Renderer) (on : Occasion) (template : String)

private theorem size_cons (c : Char) (cs : List Char) :
    (String.ofList (c :: cs)).utf8ByteSize = c.utf8Size + (String.ofList cs).utf8ByteSize := by
  rw [← List.singleton_append, String.ofList_append, String.utf8ByteSize_append]
  simp

private theorem map_map {α β γ : Type} (x : Except Error α) (f : α → β) (g : β → γ) :
    (x.map f).map g = x.map (g ∘ f) := by cases x <;> rfl

private theorem scan_char (offset index : Nat) (recent cs : List Char) {c : Char}
    (h : c ≠ '\x7b') :
    scan r on template offset index (.text recent) (c :: cs) =
      scan r on template (offset + c.utf8Size) index (.text (c :: recent)) cs := by
  by_cases hr : ∃ before, recent = '\\' :: before
  · obtain ⟨before, rfl⟩ := hr
    rw [scan.eq_3, if_neg h]
  · rw [scan.eq_4 _ _ _ _ _ _ _ _ fun before hb => hr ⟨before, hb⟩, if_neg h]

private theorem scan_open (offset index : Nat) (recent cs : List Char)
    (h : recent.head? ≠ some '\\') :
    scan r on template offset index (.text recent) ('\x7b' :: cs) =
      (scan r on template (offset + 1) index (.placeholder offset []) cs).map
        (recent.reverse ++ ·) := by
  rw [scan.eq_4 _ _ _ _ _ _ _ _ fun before hb => h (by rw [hb]; rfl), if_pos rfl]

private theorem scan_placeholder (offset index start : Nat) (read : List Char) {cs : List Char}
    (h : '\x7d' ∈ cs) :
    scan r on template offset index (.placeholder start read) cs =
      scan r on template (offset + (String.ofList (cs.takeWhile (· ≠ '\x7d'))).utf8ByteSize) index
        (.placeholder start ((cs.takeWhile (· ≠ '\x7d')).reverse ++ read))
        ('\x7d' :: afterClose cs) := by
  induction cs generalizing offset read with
  | nil => simp at h
  | cons c rest ih =>
    by_cases hc : c = '\x7d'
    · simp [hc, afterClose]
    · have hr : '\x7d' ∈ rest := by simpa [Ne.symm hc] using h
      rw [scan, if_neg hc, ih _ _ hr]
      simp [hc, afterClose, Nat.add_assoc]

private theorem scan_unclosed (offset index start : Nat) (read : List Char) {cs : List Char}
    (h : '\x7d' ∉ cs) :
    scan r on template offset index (.placeholder start read) cs =
      .error (unterminated template start) := by
  induction cs generalizing offset read with
  | nil => simp [scan]
  | cons c rest ih =>
    simp only [List.mem_cons, not_or] at h
    rw [scan, if_neg (Ne.symm h.1), ih _ _ h.2]

/-- What fills a placeholder is what its token means. -/
theorem fill_eq_meaning (position index : Nat) (operation : List Char) :
    (fill r on template index operation).map String.toList =
      (Token.placeholder operation).meaning r on template position index := by
  by_cases h : operation.head? = some '@'
  · simp [fill, asksForMacro, SiteMacro.sigil, Token.meaning, h]
  · simp only [fill, asksForMacro, SiteMacro.sigil, Token.meaning, h]
    cases on.args[index]? <;> rfl

theorem shown_placeholder (before : List Token) (operation : List Char) :
    shown (before ++ [.placeholder operation]) =
      if asksForMacro operation then shown before else shown before + 1 := by
  by_cases h : operation.head? = some '@' <;>
    simp [shown, Token.showsArgument, asksForMacro, SiteMacro.sigil, h]

private theorem span_placeholder (before : List Token) (operation : List Char) :
    span (before ++ [.placeholder operation]) =
      span before + 1 + (String.ofList operation).utf8ByteSize + 1 := by
  have hp : span [.placeholder operation] = 1 + ((String.ofList operation).utf8ByteSize + 1) := by
    simp only [span, List.flatMap_singleton, Token.source, List.cons_append, size_cons,
      String.ofList_append, String.utf8ByteSize_append]
    rfl
  rw [span_append, hp]
  omega

private theorem scan_eq_evaluate (before : List Token) (recent cs : List Char)
    (h : recent.head? = some '\\' → cs.head? ≠ some '\x7b') :
    scan r on template (span before) (shown before) (.text recent) cs =
      (evaluate r on template before (tokens cs)).map (recent.reverse ++ ·) := by
  -- Some tokens stand before the rest, and then a text that is not yet written.
  fun_induction tokens cs generalizing before recent with
  | case1 => simp [scan, evaluate, Except.map]
  | case2 rest ih =>
    have hrest := ih (before ++ [.brace]) ['\x7b'] (by simp)
    have hspan : span (before ++ [.brace]) = span before + 1 + 1 := by
      rw [span_append]
      rfl
    have hshown : shown (before ++ [.brace]) = shown before := by simp [shown, Token.showsArgument]
    rw [hspan, hshown] at hrest
    rw [scan_char _ _ _ _ _ _ _ (by decide), scan.eq_3, if_pos rfl]
    simp only [show Char.utf8Size '\\' = 1 from rfl, hrest, evaluate, meaningAfter, Token.meaning,
      map_map]
    rfl
  | case3 rest hclose ih =>
    rw [scan_open _ _ _ _ _ _ _ (fun hr => h hr rfl), scan_placeholder _ _ _ _ _ _ _ hclose,
      scan.eq_5, if_pos rfl]
    simp only [List.append_nil, List.reverse_reverse, evaluate, meaningAfter]
    rw [← fill_eq_meaning r on template (span before)]
    have hrest := ih (before ++ [.placeholder (rest.takeWhile (· ≠ '\x7d'))]) [] (by simp)
    rw [span_placeholder, shown_placeholder] at hrest
    cases hfill : fill r on template (shown before) (rest.takeWhile (· ≠ '\x7d')) with
    | error e => rfl
    | ok text =>
      simp only [hrest]
      generalize evaluate r on template _ (tokens (afterClose rest)) = more
      cases more <;> rfl
  | case4 rest hclose =>
    rw [scan_open _ _ _ _ _ _ _ (fun hr => h hr rfl), scan_unclosed _ _ _ _ _ _ _ hclose]
    rfl
  | case5 c rest hesc hopen ih =>
    have hrest := ih (before ++ [.text c]) (c :: recent) (fun hb hr => by
      simp only [List.head?_cons, Option.some.injEq] at hb
      obtain ⟨more, rfl⟩ := List.head?_eq_some_iff.mp hr
      exact hesc more hb rfl)
    have hspan : span (before ++ [.text c]) = span before + c.utf8Size := by
      simp [span, Token.source]
    have hshown : shown (before ++ [.text c]) = shown before := by simp [shown, Token.showsArgument]
    rw [hspan, hshown] at hrest
    rw [scan_char _ _ _ _ _ _ _ (fun hc => hopen hc), hrest]
    simp only [evaluate, meaningAfter, Token.meaning, map_map, List.reverse_cons, List.append_assoc]
    rfl

theorem render_eq_evaluate :
    render r on template =
      (evaluate r on template [] (tokens template.toList)).map String.ofList := by
  have h : scan r on template 0 0 (.text []) template.toList = _ :=
    scan_eq_evaluate r on template [] [] template.toList (by simp)
  rw [render, h]
  cases evaluate r on template [] (tokens template.toList) <;> rfl

theorem render_eq_ok_iff {out : String} : render r on template = .ok out ↔
    evaluate r on template [] (tokens template.toList) = .ok out.toList := by
  rw [render_eq_evaluate]
  cases evaluate r on template [] (tokens template.toList) with
  | error e => simp [Except.map]
  | ok text => simp [Except.map, ← String.toList_inj]

theorem render_eq_error_iff {e : Error} : render r on template = .error e ↔
    evaluate r on template [] (tokens template.toList) = .error e := by
  rw [render_eq_evaluate]
  cases evaluate r on template [] (tokens template.toList) <;> simp [Except.map]

/-- Renderers that ask the same formatters render a template alike if they find the same text under
every name that it asks for. -/
theorem render_congr_of_asked (r r' : Renderer) (formatters : r.formatters = r'.formatters)
    (on : Occasion) (template : String)
    (found : ∀ operation, .placeholder operation ∈ tokens template.toList →
      r.macros.find? (String.ofList operation) = r'.macros.find? (String.ofList operation)) :
    render r on template = render r' on template := by
  have hmeaning (before : List Token) {t : Token} (ht : t ∈ tokens template.toList) :
      meaningAfter r on template before t = meaningAfter r' on template before t := by
    cases t with
    | placeholder operation =>
      simp only [meaningAfter, Token.meaning, formatters, Macros.resolve, found operation ht]
    | _ => rfl
  have hevaluate (before ts : List Token) (hts : ts ⊆ tokens template.toList) :
      evaluate r on template before ts = evaluate r' on template before ts := by
    induction ts generalizing before with
    | nil => rfl
    | cons t ts ih =>
      obtain ⟨ht, hts⟩ := List.cons_subset.mp hts
      simp only [evaluate, hmeaning _ ht, ih _ hts]
  rw [render_eq_evaluate, render_eq_evaluate, hevaluate _ _ (List.Subset.refl _)]

/-- Renderers that ask the same formatters and find the same text under every name render alike. -/
theorem render_congr {r r' : Renderer} (formatters : r.formatters = r'.formatters)
    (found : ∀ name, r.macros.find? name = r'.macros.find? name) (on : Occasion)
    (template : String) : render r on template = render r' on template :=
  render_congr_of_asked r r' formatters on template fun _ _ => found _

private theorem evaluate_cons_error_iff {before : List Token} {t : Token} {ts : List Token}
    {text : List Char} {e : Error} (h : meaningAfter r on template before t = .ok text) :
    evaluate r on template before (t :: ts) = .error e ↔
      evaluate r on template (before ++ [t]) ts = .error e := by
  simp only [evaluate, h]
  cases evaluate r on template (before ++ [t]) ts <;> simp [Except.map]

theorem evaluate_cons_eq_ok {before : List Token} {t : Token} {ts : List Token}
    {text : List Char} :
    evaluate r on template before (t :: ts) = .ok text ↔
      ∃ own more, meaningAfter r on template before t = .ok own ∧
        evaluate r on template (before ++ [t]) ts = .ok more ∧ text = own ++ more := by
  rw [evaluate]
  cases meaningAfter r on template before t with
  | error e => simp
  | ok own =>
    cases evaluate r on template (before ++ [t]) ts with
    | error e => simp [Except.map]
    | ok more => simp [Except.map, eq_comm]

theorem evaluate_append (before ts us : List Token) :
    evaluate r on template before (ts ++ us) =
      (evaluate r on template before ts).bind fun text =>
        (evaluate r on template (before ++ ts) us).map (text ++ ·) := by
  induction ts generalizing before with
  | nil =>
    simp only [List.nil_append, evaluate, Except.bind, List.append_nil]
    cases evaluate r on template before us <;> rfl
  | cons t ts ih =>
    rw [List.cons_append, evaluate, evaluate]
    cases meaningAfter r on template before t with
    | error e => rfl
    | ok text =>
      simp only [ih, List.append_assoc, List.singleton_append]
      cases evaluate r on template (before ++ [t]) ts with
      | error e => rfl
      | ok more =>
        simp only [Except.bind, Except.map]
        cases evaluate r on template (before ++ t :: ts) us <;> simp

/-- Tokens fail as the first of them that fails. -/
theorem evaluate_eq_error_iff (before ts : List Token) (e : Error) :
    evaluate r on template before ts = .error e ↔
      ∃ done t rest, ts = done ++ t :: rest ∧
        (∀ first s more, done = first ++ s :: more →
          ∃ text, meaningAfter r on template (before ++ first) s = .ok text) ∧
        meaningAfter r on template (before ++ done) t = .error e := by
  induction ts generalizing before with
  | nil => simp [evaluate]
  | cons t ts ih =>
    constructor
    · intro h
      cases ht : meaningAfter r on template before t with
      | error e' =>
        have he : e' = e := by simpa [evaluate, ht] using h
        exact ⟨[], t, ts, rfl, by simp, by simpa [he] using ht⟩
      | ok text =>
        rw [evaluate_cons_error_iff r on template ht, ih] at h
        obtain ⟨done, u, rest, rfl, hdone, hu⟩ := h
        refine ⟨t :: done, u, rest, rfl, ?_, by simpa using hu⟩
        intro first s more hs
        cases first with
        | nil =>
          obtain ⟨rfl, -⟩ := List.cons.inj hs
          exact ⟨text, by simpa using ht⟩
        | cons t' first =>
          obtain ⟨rfl, hmore⟩ := List.cons.inj hs
          simpa using hdone first s more hmore
    · rintro ⟨done, u, rest, hts, hdone, hu⟩
      cases done with
      | nil =>
        obtain ⟨rfl, rfl⟩ := List.cons.inj hts
        have hu : meaningAfter r on template before t = .error e := by simpa using hu
        simp [evaluate, hu]
      | cons t' done =>
        obtain ⟨rfl, rfl⟩ := List.cons.inj hts
        obtain ⟨text, ht⟩ := hdone [] t done rfl
        rw [evaluate_cons_error_iff r on template (by simpa using ht), ih]
        refine ⟨done, u, rest, rfl, fun first s more hs => ?_, by simpa using hu⟩
        simpa using hdone (t :: first) s more (by rw [hs]; rfl)

private theorem formatArgument_fails {chain : List Formatter} {disk : Disk} {v : Value}
    {operation : String} {e : Error}
    (h : Formatter.formatArgument chain disk v operation = .error e) :
    e.kind = .unsupportedFormatOperation ∧ e.context? "operation" = some operation := by
  unfold Formatter.formatArgument at h
  split at h
  · cases h
  · split at h
    · cases h
    · split at h
      · cases h
      · cases h
        exact ⟨rfl, rfl⟩

private theorem resolve_fails {ms : Macros} {name : String} {site : CallSite} {e : Error}
    (h : ms.resolve name site = .error e) :
    e.kind = .unknownMacro ∧ e.context? "name" = some name := by
  unfold Macros.resolve at h
  split at h
  · cases h
  · cases h
    exact ⟨rfl, rfl⟩

private theorem map_eq_error {α β : Type} {x : Except Error α} {f : α → β} {e : Error}
    (h : x.map f = .error e) : x = .error e := by
  cases x with
  | error e' => simpa [Except.map] using h
  | ok a => cases h

/-- Every error of a token is of the kind that its spelling and its place ask for. -/
theorem meaning_fails {position index : Nat} {t : Token} {e : Error}
    (h : t.meaning r on template position index = .error e) :
    t.FailsWith on position index e := by
  cases t with
  | text c => cases h
  | brace => cases h
  | unclosed rest =>
    cases h
    exact ⟨rfl, rfl⟩
  | placeholder operation =>
    have h := map_eq_error h
    simp only [Token.FailsWith]
    split at h
    · next ha => rw [if_pos ha]; exact resolve_fails h
    · next ha =>
      rw [if_neg ha]
      split at h
      · next v hv =>
        obtain ⟨hlt, -⟩ := List.getElem?_eq_some_iff.mp hv
        rw [if_neg (Nat.not_le.mpr hlt)]
        exact formatArgument_fails h
      · next hv =>
        cases h
        rw [if_pos (List.getElem?_eq_none_iff.mp hv)]
        exact ⟨rfl, rfl⟩

/-- Rendering is reading and then evaluating: nothing of the template is lost or read twice, and an
error is that of the leftmost token that fails, told by where that token stands. -/
theorem render_eq_leftmost :
    (tokens template.toList).flatMap Token.source = template.toList ∧
    render r on template =
      (evaluate r on template [] (tokens template.toList)).map String.ofList ∧
    ∀ e, render r on template = .error e ↔
      ∃ before t after, tokens template.toList = before ++ t :: after ∧
        (∀ first s more, before = first ++ s :: more →
          ∃ text, meaningAfter r on template first s = .ok text) ∧
        meaningAfter r on template before t = .error e ∧
        t.FailsWith on (span before) (shown before) e := by
  refine ⟨flatMap_source_tokens _, render_eq_evaluate r on template, fun e => ?_⟩
  have hmap : render r on template = .error e ↔
      evaluate r on template [] (tokens template.toList) = .error e := by
    rw [render_eq_evaluate]
    cases evaluate r on template [] (tokens template.toList) <;> simp [Except.map]
  rw [hmap, evaluate_eq_error_iff]
  constructor
  · rintro ⟨before, t, after, hts, hdone, ht⟩
    exact ⟨before, t, after, hts, hdone, ht, meaning_fails r on template ht⟩
  · rintro ⟨before, t, after, hts, hdone, ht, -⟩
    exact ⟨before, t, after, hts, hdone, ht⟩

end EventLog.Template
