import EventLog.Proofs.Template.Rendering

/-! Texts as templates. With a backslash before every opening brace any text is a template that
stands for the text itself, whatever backslashes and braces it has: the reader takes each of those
backslashes together with the brace after it, and no other. -/
namespace EventLog.Template

/-- A text with a backslash before every opening brace. -/
def escape (text : String) : String :=
  String.ofList (text.toList.flatMap fun c => if c = '\x7b' then ['\\', '\x7b'] else [c])

def Token.ofChar (c : Char) : Token := if c = '\x7b' then .brace else .text c

private theorem toList_escape (text : String) : (escape text).toList =
    text.toList.flatMap fun c => if c = '\x7b' then ['\\', '\x7b'] else [c] :=
  String.toList_ofList

private theorem head?_escaped (cs : List Char) :
    (cs.flatMap fun c => if c = '\x7b' then ['\\', '\x7b'] else [c]).head? ≠ some '\x7b' := by
  -- So a backslash of the text before it escapes none.
  cases cs with
  | nil => simp
  | cons c rest => by_cases hc : c = '\x7b' <;> simp [hc]

private theorem tokens_escaped (cs : List Char) :
    tokens (cs.flatMap fun c => if c = '\x7b' then ['\\', '\x7b'] else [c]) =
      cs.map Token.ofChar := by
  induction cs with
  | nil => simp [tokens]
  | cons c rest ih =>
    have hhead := head?_escaped rest
    rw [List.flatMap_cons, List.map_cons, ← ih]
    by_cases hc : c = '\x7b'
    · subst hc
      rw [if_pos rfl, List.cons_append, List.singleton_append, tokens.eq_2]
      rfl
    · rw [if_neg hc, List.singleton_append, tokens.eq_4 c _ ?_ hc, Token.ofChar, if_neg hc]
      intro more _ hmore
      rw [hmore] at hhead
      exact hhead rfl

/-- An escaped text is read character by character. -/
theorem tokens_escape (text : String) :
    tokens (escape text).toList = text.toList.map Token.ofChar := by
  rw [toList_escape, tokens_escaped]

private theorem meaning_ofChar (r : Renderer) (on : Occasion) (template : String)
    (position index : Nat) (c : Char) :
    (Token.ofChar c).meaning r on template position index = .ok [c] := by
  by_cases hc : c = '\x7b'
  · simp [Token.ofChar, hc, Token.meaning]
  · simp [Token.ofChar, hc, Token.meaning]

private theorem evaluate_ofChar (r : Renderer) (on : Occasion) (template : String)
    (before : List Token) (cs : List Char) :
    evaluate r on template before (cs.map Token.ofChar) = .ok cs := by
  induction cs generalizing before with
  | nil => rfl
  | cons c rest ih =>
    rw [List.map_cons, evaluate, meaningAfter, meaning_ofChar]
    simp only [ih]
    rfl

private theorem not_placeholder (cs : List Char) (operation : List Char) :
    .placeholder operation ∉ cs.map Token.ofChar := by
  intro hmem
  obtain ⟨c, -, hc⟩ := List.mem_map.mp hmem
  unfold Token.ofChar at hc
  split at hc <;> cases hc

/-- Every text renders to itself once its opening braces are escaped, whatever there is to fill
placeholders with: the template has no placeholder, so it shows no argument and asks for no name. -/
theorem render_escape (r : Renderer) (on : Occasion) (text : String) :
    render r on (escape text) = .ok text ∧ shown (tokens (escape text).toList) = 0 ∧
      ∀ operation, .placeholder operation ∉ tokens (escape text).toList := by
  have hrender : render r on (escape text) = .ok text := by
    rw [render_eq_evaluate, tokens_escape, evaluate_ofChar]
    exact congrArg Except.ok String.ofList_toList
  rw [tokens_escape]
  refine ⟨hrender, List.countP_eq_zero.mpr fun t ht => ?_, not_placeholder text.toList⟩
  cases t with
  | placeholder operation => exact absurd ht (not_placeholder text.toList operation)
  | text c => exact Bool.false_ne_true
  | brace => exact Bool.false_ne_true
  | unclosed rest => exact Bool.false_ne_true

end EventLog.Template
