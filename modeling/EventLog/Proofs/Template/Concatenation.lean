import EventLog.Proofs.Template.Rendering
import EventLog.Proofs.Text.Spelling
import Mathlib

/-! Templates one after the other. Where no backslash at the seam escapes a brace, the tokens of
both are those that each has alone, and the second goes on with the arguments that the first
left. -/
namespace EventLog.Template

private def Seam (cs ds : List Char) : Prop := cs.getLast? ≠ some '\\' ∨ ds.head? ≠ some '\x7b'

private theorem Seam.of_suffix {cs cs' ds : List Char} (h : Seam cs ds) (hs : cs' <:+ cs) :
    Seam cs' ds := by
  obtain ⟨front, rfl⟩ := hs
  cases cs' with
  | nil => exact .inl (by simp)
  | cons c rest =>
    refine h.imp (fun hlast => ?_) id
    rwa [List.getLast?_append, Option.or_of_isSome (by simp)] at hlast

private theorem afterClose_suffix (cs : List Char) : afterClose cs <:+ cs :=
  (List.tail_suffix _).trans (List.dropWhile_suffix _)

private theorem takeWhile_append_of_close {cs : List Char} (h : '\x7d' ∈ cs) (ds : List Char) :
    (cs ++ ds).takeWhile (· ≠ '\x7d') = cs.takeWhile (· ≠ '\x7d') ∧
      afterClose (cs ++ ds) = afterClose cs ++ ds := by
  induction cs with
  | nil => cases h
  | cons c rest ih =>
    by_cases hc : c = '\x7d'
    · simp [afterClose, hc]
    · have hr : '\x7d' ∈ rest := by simpa [Ne.symm hc] using h
      simpa [afterClose, hc] using ih hr

private theorem tokens_append {cs ds : List Char} (h : Seam cs ds)
    (hc : ∀ rest, .unclosed rest ∉ tokens cs) : tokens (cs ++ ds) = tokens cs ++ tokens ds := by
  fun_induction tokens cs with
  | case1 => rfl
  | case2 rest ih =>
    have hmore := ih (h.of_suffix ⟨['\\', '\x7b'], rfl⟩) (by simpa using hc)
    simp [tokens, hmore]
  | case3 rest hclose ih =>
    have hs : afterClose rest <:+ '\x7b' :: rest :=
      (afterClose_suffix rest).trans (List.suffix_cons _ _)
    have hmore := ih (h.of_suffix hs) (by simpa using hc)
    obtain ⟨htake, hafter⟩ := takeWhile_append_of_close hclose ds
    have hclose' : '\x7d' ∈ rest ++ ds := List.mem_append_left _ hclose
    rw [List.cons_append, tokens.eq_3, if_pos hclose', htake, hafter, hmore]
    rfl
  | case4 rest hclose => exact absurd (List.mem_singleton_self _) (hc rest)
  | case5 c rest hesc hopen ih =>
    have hmore := ih (h.of_suffix (List.suffix_cons _ _)) (by simpa using hc)
    rw [List.cons_append, tokens.eq_4 c (rest ++ ds) ?_ hopen, hmore]
    · rfl
    · rintro more rfl hbrace
      cases rest with
      | nil =>
        -- The backslash is the last character before the seam.
        rcases h with hlast | hhead
        · exact hlast rfl
        · exact hhead (by rw [List.nil_append] at hbrace; rw [hbrace]; rfl)
      | cons d rest =>
        rw [List.cons_append] at hbrace
        obtain ⟨rfl, -⟩ := List.cons.inj hbrace
        exact hesc rest rfl rfl

variable (r : Renderer) (site : CallSite) (disk : Disk)

private theorem meaning_of_more {first : List Value} (second : List Value) {part : String}
    (whole : String) {position index : Nat} {t : Token} {text : List Char}
    (h : t.meaning r ⟨first, site, disk⟩ part position index = .ok text) :
    t.meaning r ⟨first ++ second, site, disk⟩ whole position index = .ok text := by
  cases t with
  | text c => exact h
  | brace => exact h
  | unclosed rest => cases h
  | placeholder operation =>
    simp only [Token.meaning] at h ⊢
    split
    · next ha => rwa [if_pos ha] at h
    · next ha =>
      rw [if_neg ha] at h
      cases hv : first[index]? with
      | none =>
        rw [hv] at h
        cases h
      | some v =>
        have hlt : index < first.length := (List.getElem?_eq_some_iff.mp hv).1
        rw [hv] at h
        rwa [List.getElem?_append_left hlt, hv]

private theorem evaluate_of_more {first : List Value} (second : List Value) {part : String}
    (whole : String) {before ts : List Token} {text : List Char}
    (h : evaluate r ⟨first, site, disk⟩ part before ts = .ok text) :
    evaluate r ⟨first ++ second, site, disk⟩ whole before ts = .ok text := by
  induction ts generalizing before text with
  | nil => exact h
  | cons t ts ih =>
    rw [evaluate] at h ⊢
    cases ht : meaningAfter r ⟨first, site, disk⟩ part before t with
    | error e =>
      rw [ht] at h
      cases h
    | ok own =>
      have hown : meaningAfter r ⟨first ++ second, site, disk⟩ whole before t = .ok own :=
        meaning_of_more r site disk second whole ht
      rw [ht] at h
      simp only [hown] at h ⊢
      cases hmore : evaluate r ⟨first, site, disk⟩ part (before ++ [t]) ts with
      | error e =>
        rw [hmore] at h
        cases h
      | ok more =>
        rw [hmore] at h
        rw [ih hmore]
        exact h

private theorem not_unclosed_of_evaluate {on : Occasion} {template : String}
    {before ts : List Token} {text : List Char} (h : evaluate r on template before ts = .ok text)
    (rest : List Char) : .unclosed rest ∉ ts := by
  intro hmem
  obtain ⟨done, more, rfl⟩ := List.append_of_mem hmem
  rw [evaluate_append] at h
  cases hdone : evaluate r on template before done with
  | error e =>
    rw [hdone] at h
    cases h
  | ok own =>
    rw [hdone] at h
    cases h

/-- What a part comes to alone, and what it comes to `bytes` bytes and `args` arguments into a
whole: the same text, or the same error told by where it stands in the whole. -/
inductive Moved (part whole : String) (bytes args : Nat) :
    Except Error (List Char) → Except Error (List Char) → Prop
  | ok (text) : Moved part whole bytes args (.ok text) (.ok text)
  | unterminated (position) : Moved part whole bytes args (.error (unterminated part position))
      (.error (unterminated whole (position + bytes)))
  | missing (index) : Moved part whole bytes args (.error (missingArgument part index))
      (.error (missingArgument whole (index + args)))
  | other {e} (position : e.kind ≠ .unterminatedPlaceholder) (index : e.kind ≠ .missingArgument) :
      Moved part whole bytes args (.error e) (.error e)

private theorem Moved.map {part whole : String} {bytes args : Nat}
    {x y : Except Error (List Char)} (h : Moved part whole bytes args x y)
    (f : List Char → List Char) : Moved part whole bytes args (x.map f) (y.map f) := by
  cases h with
  | ok text => exact .ok (f text)
  | unterminated position => exact .unterminated position
  | missing index => exact .missing index
  | other position index => exact .other position index

variable (part whole : String)

private theorem moved_meaning {bytes : Nat} (first second : List Value) (position index : Nat)
    (t : Token) :
    Moved part whole bytes first.length (t.meaning r ⟨second, site, disk⟩ part position index)
      (t.meaning r ⟨first ++ second, site, disk⟩ whole (position + bytes)
        (index + first.length)) := by
  cases t with
  | text c => exact .ok _
  | brace => exact .ok _
  | unclosed rest => exact .unterminated position
  | placeholder operation =>
    have hsame (x : Except Error (List Char))
        (h : ∀ e, x = .error e → e.kind ≠ .unterminatedPlaceholder ∧ e.kind ≠ .missingArgument) :
        Moved part whole bytes first.length x x := by
      cases x with
      | ok text => exact .ok text
      | error e => exact .other (h e rfl).1 (h e rfl).2
    have hfails (e : Error) (he : (Token.placeholder operation).meaning r ⟨second, site, disk⟩ part
        position index = .error e) := meaning_fails r _ part he
    simp only [Token.meaning, Token.FailsWith] at hfails ⊢
    by_cases ha : operation.head? = some '@'
    · simp only [if_pos ha] at hfails ⊢
      refine hsame _ fun e he => ?_
      rw [(hfails e he).1]
      decide
    · simp only [if_neg ha] at hfails ⊢
      have harg : (first ++ second)[index + first.length]? = second[index]? := by
        rw [List.getElem?_append_right (Nat.le_add_left _ _), Nat.add_sub_cancel]
      rw [harg]
      cases hv : second[index]? with
      | none => exact .missing index
      | some v =>
        have hlt := (List.getElem?_eq_some_iff.mp hv).1
        rw [hv] at hfails
        refine hsame _ fun e he => ?_
        have hkind := hfails e he
        rw [if_neg (Nat.not_le.mpr hlt)] at hkind
        rw [hkind.1]
        decide

private theorem moved_evaluate (first second : List Value) {done : List Token}
    (hshown : shown done = first.length) (before ts : List Token) :
    Moved part whole (span done) first.length (evaluate r ⟨second, site, disk⟩ part before ts)
      (evaluate r ⟨first ++ second, site, disk⟩ whole (done ++ before) ts) := by
  induction ts generalizing before with
  | nil => exact .ok []
  | cons t ts ih =>
    have hone : Moved part whole (span done) first.length
        (meaningAfter r ⟨second, site, disk⟩ part before t)
        (meaningAfter r ⟨first ++ second, site, disk⟩ whole (done ++ before) t) := by
      rw [meaningAfter, meaningAfter, span_append, shown_append, hshown, Nat.add_comm (span done),
        Nat.add_comm first.length]
      exact moved_meaning r site disk part whole first second _ _ t
    rw [evaluate, evaluate]
    generalize meaningAfter r ⟨second, site, disk⟩ part before t = x at hone ⊢
    generalize meaningAfter r ⟨first ++ second, site, disk⟩ whole (done ++ before) t = y at hone ⊢
    cases hone with
    | ok text =>
      rw [List.append_assoc]
      exact (ih (before ++ [t])).map _
    | unterminated position => exact .unterminated position
    | missing index => exact .missing index
    | other position index => exact .other position index

private theorem span_tokens (template : String) :
    span (tokens template.toList) = template.utf8ByteSize := by
  rw [span, flatMap_source_tokens, String.ofList_toList]

/-- A template that renders and takes all its arguments may be followed by another. The texts follow
one another too, and if the second fails so does the whole, in the same way: the place of a brace
that nothing closes is told by as many more bytes as the first template has, the number of an
argument that is missing is larger by as many as the first takes, and any other error is the
same. -/
theorem render_append {t₁ t₂ o₁ : String} {a₁ a₂ : List Value}
    (hseam : t₁.toList.getLast? ≠ some '\\' ∨ t₂.toList.head? ≠ some '\x7b')
    (hrender : render r ⟨a₁, site, disk⟩ t₁ = .ok o₁)
    (hargs : a₁.length = shown (tokens t₁.toList)) :
    (∀ o₂, render r ⟨a₂, site, disk⟩ t₂ = .ok o₂ →
      render r ⟨a₁ ++ a₂, site, disk⟩ (t₁ ++ t₂) = .ok (o₁ ++ o₂)) ∧
    ∀ e, render r ⟨a₂, site, disk⟩ t₂ = .error e →
      ∃ e', render r ⟨a₁ ++ a₂, site, disk⟩ (t₁ ++ t₂) = .error e' ∧ e'.kind = e.kind ∧
        (e.kind = .unterminatedPlaceholder → ∃ position,
          e.context? "position" = some (Text.number position) ∧
          e'.context? "position" = some (Text.number (position + t₁.utf8ByteSize))) ∧
        (e.kind = .missingArgument → ∃ index,
          e.context? "index" = some (Text.number index) ∧
          e'.context? "index" = some (Text.number (index + a₁.length))) ∧
        (e.kind ≠ .unterminatedPlaceholder → e.kind ≠ .missingArgument → e' = e) := by
  rw [render_eq_evaluate] at hrender
  obtain ⟨text, htext, rfl⟩ : ∃ text, evaluate r ⟨a₁, site, disk⟩ t₁ [] (tokens t₁.toList) =
      .ok text ∧ String.ofList text = o₁ := by
    cases htext : evaluate r ⟨a₁, site, disk⟩ t₁ [] (tokens t₁.toList) with
    | error e =>
      rw [htext] at hrender
      cases hrender
    | ok text =>
      rw [htext] at hrender
      exact ⟨text, rfl, Except.ok.inj hrender⟩
  have htokens : tokens (t₁ ++ t₂).toList = tokens t₁.toList ++ tokens t₂.toList := by
    rw [String.toList_append]
    exact tokens_append hseam (not_unclosed_of_evaluate r htext)
  have hmoved :=
    moved_evaluate r site disk t₂ (t₁ ++ t₂) a₁ a₂ hargs.symm [] (tokens t₂.toList)
  rw [List.append_nil, span_tokens] at hmoved
  simp only [render_eq_evaluate, htokens, evaluate_append, List.nil_append,
    evaluate_of_more r site disk a₂ (t₁ ++ t₂) htext, Except.bind]
  generalize evaluate r ⟨a₂, site, disk⟩ t₂ [] (tokens t₂.toList) = x at hmoved ⊢
  generalize evaluate r ⟨a₁ ++ a₂, site, disk⟩ (t₁ ++ t₂) (tokens t₁.toList) (tokens t₂.toList) = y
    at hmoved ⊢
  cases hmoved with
  | ok more =>
    refine ⟨fun o₂ ho => ?_, fun e he => ?_⟩
    · cases ho
      simp [Except.map, String.ofList_append]
    · cases he
  | unterminated position =>
    refine ⟨fun o₂ ho => ?_, fun e he => ?_⟩
    · cases ho
    · cases he
      exact ⟨_, rfl, rfl, fun _ => ⟨position, rfl, rfl⟩, (fun hk => by cases hk),
        fun hk => (hk rfl).elim⟩
  | missing index =>
    refine ⟨fun o₂ ho => ?_, fun e he => ?_⟩
    · cases ho
    · cases he
      exact ⟨_, rfl, rfl, (fun hk => by cases hk), fun _ => ⟨index, rfl, rfl⟩,
        fun _ hk => (hk rfl).elim⟩
  | other position index =>
    refine ⟨fun o₂ ho => ?_, fun e he => ?_⟩
    · cases ho
    · cases he
      exact ⟨_, rfl, rfl, fun hk => (position hk).elim, fun hk => (index hk).elim, fun _ _ => rfl⟩

/-- A template with an escaped brace and a letter of two bytes, followed by one that is missing an
argument: the first takes one, so the second that the other asks for is the third. -/
theorem render_append_missing_argument :
    let first := "über \\\x7b\x7d \x7b\x7d"
    let second := "\x7b\x7d of \x7b\x7d"
    let site : CallSite := ⟨"svc.rs", 7, none, none, [], none⟩
    render .standard ⟨[.text "a"], site, {}⟩ first = .ok "über \x7b\x7d a" ∧
      [Value.text "a"].length = shown (tokens first.toList) ∧
      ∃ e, render .standard ⟨[.text "a"] ++ [.text "b"], site, {}⟩ (first ++ second) = .error e ∧
        e.kind = .missingArgument ∧ e.context? "index" = some "2" := by
  intro first second site
  have hseam : first.toList.getLast? ≠ some '\\' ∨ second.toList.head? ≠ some '\x7b' :=
    .inl (by decide)
  have hrender : render .standard ⟨[.text "a"], site, {}⟩ first = .ok "über \x7b\x7d a" := by cbv
  have hargs : [Value.text "a"].length = shown (tokens first.toList) := by cbv
  have hfails : render .standard ⟨[.text "b"], site, {}⟩ second =
      .error (missingArgument second 1) := by cbv
  obtain ⟨e, hwhole, hkind, -, hindex, -⟩ :=
    (render_append .standard site {} hseam hrender hargs).2 _ hfails
  obtain ⟨index, hpart, hcount⟩ := hindex rfl
  have hone : index = 1 := Text.number_injective (Option.some.inj hpart).symm
  subst hone
  exact ⟨hrender, hargs, e, hwhole, hkind, hcount⟩

end EventLog.Template
