import Mathlib
import EventLog.Proofs.Macros.Registration
import EventLog.Proofs.Template.Rendering

/-! Adding to a renderer. Formatters at the end of the chain are asked only where none before them
answers, and a name that is registered is not registered again. So more of both never changes a
text, nor an error that is not about a formatter or a name that was not there. -/
namespace EventLog

def Renderer.extend (r : Renderer) (more : List Formatter) (extra : List SiteMacro) : Renderer :=
  ⟨r.formatters ++ more, ⟨r.macros.renderers ++ extra⟩⟩

namespace Template

/-- An error that another formatter or another name may mend. -/
def Mendable (e : Error) : Prop := e.kind = .unsupportedFormatOperation ∨ e.kind = .unknownMacro

/-- A result and what becomes of it with more to fill placeholders with: it stays as it is, unless
it is an error that can be mended. -/
def Kept {α : Type} (x y : Except Error α) : Prop := y = x ∨ ∃ e, x = .error e ∧ Mendable e

private theorem Kept.map {α β : Type} {x y : Except Error α} (h : Kept x y) (f : α → β) :
    Kept (x.map f) (y.map f) := by
  rcases h with rfl | ⟨e, rfl, he⟩
  · exact .inl rfl
  · exact .inr ⟨e, rfl, he⟩

private theorem Kept.eq_of_not_mendable {α : Type} {x y : Except Error α} (h : Kept x y)
    (hx : ∀ e, x = .error e → ¬ Mendable e) : y = x := by
  rcases h with hsame | ⟨e, he, hmend⟩
  · exact hsame
  · exact absurd hmend (hx e he)

/-- Formatters at the end of a chain are asked where all others have no answer. -/
theorem kept_formatArgument (chain more : List Formatter) (disk : Disk) (v : Value)
    (operation : String) :
    Kept (Formatter.formatArgument chain disk v operation)
      (Formatter.formatArgument (chain ++ more) disk v operation) := by
  unfold Formatter.formatArgument
  split
  · exact .inl rfl
  · split
    · exact .inl rfl
    · rw [List.findSome?_append]
      cases chain.findSome? fun formatter => formatter disk v operation with
      | some text => exact .inl rfl
      | none => exact .inr ⟨_, rfl, .inl rfl⟩

/-- A name that is found is found first. -/
theorem kept_resolve (before more : List SiteMacro) (name : String) (site : CallSite) :
    Kept ((Macros.mk before).resolve name site)
      ((Macros.mk (before ++ more)).resolve name site) := by
  unfold Macros.resolve Macros.find?
  rw [List.find?_append]
  cases before.find? (·.name = name) with
  | some m => exact .inl rfl
  | none => exact .inr ⟨_, rfl, .inr rfl⟩

variable (r : Renderer) (more : List Formatter) (extra : List SiteMacro) (on : Occasion)
  (template : String)

private theorem kept_meaning (before : List Token) (t : Token) :
    Kept (meaningAfter r on template before t)
      (meaningAfter (r.extend more extra) on template before t) := by
  cases t with
  | text c => exact .inl rfl
  | brace => exact .inl rfl
  | unclosed rest => exact .inl rfl
  | placeholder operation =>
    apply Kept.map
    split
    · exact kept_resolve r.macros.renderers extra _ _
    · split
      · exact kept_formatArgument r.formatters more _ _ _
      · exact .inl rfl

/-- Tokens stay together as each of them does, up to the first that could be mended. -/
theorem kept_evaluate (before ts : List Token) :
    Kept (evaluate r on template before ts)
      (evaluate (r.extend more extra) on template before ts) := by
  induction ts generalizing before with
  | nil => exact .inl rfl
  | cons t ts ih =>
    rw [evaluate, evaluate]
    rcases kept_meaning r more extra on template before t with hsame | ⟨e, he, hmend⟩
    · rw [hsame]
      cases meaningAfter r on template before t with
      | error e => exact .inl rfl
      | ok own => exact (ih (before ++ [t])).map _
    · rw [he]
      exact .inr ⟨e, rfl, hmend⟩

private theorem kept_render :
    Kept (render r on template) (render (r.extend more extra) on template) := by
  rw [render_eq_evaluate, render_eq_evaluate]
  exact (kept_evaluate r more extra on template [] (tokens template.toList)).map _

/-- Formatters at the end of the chain and names that the registry accepts leave every text as it
is, and every error about a brace that nothing closes or an argument that is missing. Where a
template comes out differently with them, it failed without them on an operation or on a name. -/
theorem render_of_more_plugins {r : Renderer} {extra : List SiteMacro} {macros : Macros}
    (h : r.macros.registerAll extra = .ok macros) (more : List Formatter) (on : Occasion)
    (template : String) :
    (∀ out, render r on template = .ok out →
      render ⟨r.formatters ++ more, macros⟩ on template = .ok out) ∧
    (∀ e, render r on template = .error e →
      e.kind = .unterminatedPlaceholder ∨ e.kind = .missingArgument →
      render ⟨r.formatters ++ more, macros⟩ on template = .error e) ∧
    (render ⟨r.formatters ++ more, macros⟩ on template ≠ render r on template →
      ∃ e, render r on template = .error e ∧
        (e.kind = .unsupportedFormatOperation ∨ e.kind = .unknownMacro)) := by
  obtain rfl := Macros.registerAll_eq_ok h
  have hkept : Kept _ (render ⟨r.formatters ++ more, _⟩ on template) :=
    kept_render r more extra on template
  refine ⟨fun out hout => ?_, fun e he hkind => ?_, fun hdiffer => ?_⟩
  · rw [hkept.eq_of_not_mendable, hout]
    intro e he
    rw [hout] at he
    cases he
  · rw [hkept.eq_of_not_mendable, he]
    intro e' he' hmend
    rw [he] at he'
    cases he'
    rcases hkind with hkind | hkind <;> rcases hmend with hmend | hmend <;>
      · rw [hkind] at hmend
        cases hmend
  · rcases hkept with hsame | hmend
    · exact absurd hsame hdiffer
    · exact hmend

/-- A formatter and a name more: what rendered and what missed an argument stay, and what asked for
either of the two comes out differently. -/
theorem render_of_more_plugins_at_call :
    let r := Renderer.standard
    let host := SiteMacro.fixed "@host" "node"
    let shout := Formatter.fixed "shout" "A!"
    let macros : Macros := ⟨r.macros.renderers ++ [host]⟩
    let on : Occasion := ⟨[.text "a"], ⟨"svc.rs", 7, none, none, [], none⟩, {}⟩
    r.macros.registerAll [host] = .ok macros ∧
      render ⟨r.formatters ++ [shout], macros⟩ on "\\\x7b\x7d \x7b\x7d at \x7b@line\x7d" =
        .ok "\x7b\x7d a at 7" ∧
      render ⟨r.formatters ++ [shout], macros⟩ on "\x7b\x7d \x7bshout\x7d" =
        .error (missingArgument "\x7b\x7d \x7bshout\x7d" 1) ∧
      render ⟨r.formatters ++ [shout], macros⟩ on "\x7bshout\x7d on \x7b@host\x7d" ≠
        render r on "\x7bshout\x7d on \x7b@host\x7d" := by
  intro r host shout macros on
  have hmacros : r.macros.registerAll [host] = .ok macros := by cbv
  have hkeeps := render_of_more_plugins hmacros [shout] on
  have htext : render r on "\\\x7b\x7d \x7b\x7d at \x7b@line\x7d" = .ok "\x7b\x7d a at 7" := by cbv
  have hshort : render r on "\x7b\x7d \x7bshout\x7d" =
      .error (missingArgument "\x7b\x7d \x7bshout\x7d" 1) := by cbv
  refine ⟨hmacros, (hkeeps _).1 _ htext, (hkeeps _).2.1 _ hshort (.inr rfl), ?_⟩
  have hmended : render ⟨r.formatters ++ [shout], macros⟩ on "\x7bshout\x7d on \x7b@host\x7d" =
      .ok "A! on node" := by cbv
  have hfailed : render r on "\x7bshout\x7d on \x7b@host\x7d" =
      .error (Formatter.unsupported (.text "a") "shout") := by cbv
  rw [hmended, hfailed]
  intro h
  cases h

end Template

end EventLog
