import EventLog.Proofs.Macros.Calls
import EventLog.Proofs.Template.Cursor
import Mathlib

/-! Asking for registered texts. A placeholder ends at the first closing brace, so a name without
one can be spelled between braces and gives its text; a name with one can be registered, but no
template asks for it. -/
namespace EventLog.Macros

/-- The template that asks for a name and nothing else. -/
def request (name : String) : String := "\x7b" ++ name ++ "\x7d"

def without (ms : Macros) (name : String) : Macros := ⟨ms.renderers.filter (·.name ≠ name)⟩

private theorem toList_request (name : String) :
    (request name).toList = '\x7b' :: (name.toList ++ '\x7d' :: []) := by
  simp [request]

private theorem find?_without {name other : String} (h : other ≠ name) (ms : Macros) :
    (ms.without name).find? other = ms.find? other := by
  rw [find?, find?, without, List.find?_filter]
  congr 1
  funext m
  by_cases hm : m.name = other
  · simp [hm, h]
  · simp [hm]

/-- The template that asks for a name without a closing brace is what the name stands for. -/
theorem render_request {r : Renderer} {on : Occasion} {name : String}
    (hnamed : name.toList.head? = some '@') (hname : '\x7d' ∉ name.toList) :
    Template.render r on (request name) = r.macros.resolve name on.site := by
  rw [Template.render_eq_evaluate, toList_request, Template.tokens_placeholder hname]
  simp only [Template.tokens, Template.evaluate, Template.meaningAfter, Template.Token.meaning,
    if_pos hnamed, String.ofList_toList]
  cases r.macros.resolve name on.site with
  | error e => rfl
  | ok text => simp [Except.map]

/-- A text whose name has a closing brace is of no account in any template. -/
theorem render_without {r : Renderer} {name : String} (hname : '\x7d' ∈ name.toList)
    (on : Occasion) (template : String) :
    Template.render r on template =
      Template.render ⟨r.formatters, r.macros.without name⟩ on template := by
  refine Template.render_congr_of_asked r ⟨r.formatters, r.macros.without name⟩ rfl on template
    fun operation hasked => (find?_without ?_ r.macros).symm
  rintro rfl
  rw [String.toList_ofList] at hname
  exact Template.notMem_of_placeholder_mem_tokens hasked hname

/-- After any calls to register texts, each text that is held is what the template with its name
between braces gives at every call site, unless there is a closing brace in the name. Such a name is
held as any other, but each template gives the same with its text and without it. -/
theorem names_without_brace_can_be_asked_for (base : Macros)
    (hbase : base = {} ∨ base = .standard) (calls : List SiteMacro) (formatters : List Formatter)
    (on : Occasion) :
    let after := (base.attempts calls).1
    ∀ m ∈ base.renderers ++ base.accepted calls,
      ('\x7d' ∉ m.name.toList →
        Template.render ⟨formatters, after⟩ on (request m.name) = .ok (m.render on.site)) ∧
      ('\x7d' ∈ m.name.toList → ∀ template,
        Template.render ⟨formatters, after⟩ on template =
          Template.render ⟨formatters, after.without m.name⟩ on template) := by
  intro after m hm
  have hregistrable : Registrable base.renderers := by
    rcases hbase with rfl | rfl
    · exact .nil
    · exact registrable_standard
  have hheld := hregistrable.attempts calls
  refine ⟨fun hname => ?_, fun hname template => render_without hname on template⟩
  rw [render_request (hheld.named m hm) hname]
  change after.resolve m.name on.site = _
  rw [show after = _ from attempts_eq base.renderers calls, resolve,
    find?_of_distinct hheld.distinct hm]

/-- Of two new names, one with a closing brace, both are held, and one gives its text. -/
theorem names_without_brace_can_be_asked_for_of_two :
    let calls := [SiteMacro.fixed "@host" "node", .fixed "@a\x7db" "lost", .fixed "@host" "other"]
    let after := (Macros.standard.attempts calls).1
    (Macros.standard = {} ∨ Macros.standard = .standard) ∧
      (Macros.standard.accepted calls).map SiteMacro.name = ["@host", "@a\x7db"] ∧
      ∀ formatters on,
        Template.render ⟨formatters, after⟩ on "\x7b@host\x7d" = .ok "node" ∧
        Template.render ⟨formatters, after⟩ on "\x7b@line\x7d" = .ok (Text.number on.site.line) ∧
        ∀ template, Template.render ⟨formatters, after⟩ on template =
          Template.render ⟨formatters, after.without "@a\x7db"⟩ on template := by
  intro calls after
  have haccepted : Macros.standard.accepted calls =
      [.fixed "@host" "node", .fixed "@a\x7db" "lost"] := rfl
  refine ⟨.inr rfl, by rw [haccepted]; rfl, fun formatters on => ?_⟩
  have hheld := names_without_brace_can_be_asked_for .standard (.inr rfl) calls formatters on
  refine ⟨(hheld (.fixed "@host" "node") (by simp [haccepted])).1 (by decide),
    (hheld .line (by simp [standard])).1 (by decide),
    (hheld (.fixed "@a\x7db" "lost") (by simp [haccepted])).2 (by decide)⟩

/-- A name with a closing brace is accepted, and its request asks for another name. -/
theorem request_of_name_with_brace_fails :
    (attempts {} [.fixed "@a\x7d" "A"]).2 = [.ok ()] ∧
      Template.render ⟨Formatter.standard, (attempts {} [.fixed "@a\x7d" "A"]).1⟩
          { site := { file := "main", line := 1 } } (request "@a\x7d") =
        .error { kind := .unknownMacro, message := "no macro renderer registered"
                 context := [("name", "@a")] } ∧
      Template.render ⟨Formatter.standard, (attempts {} [.fixed "@a\x7d" "A"]).1⟩
          { site := { file := "main", line := 1 } } (request "@a\x7d") ≠ .ok "A" := by
  have hafter : (attempts {} [.fixed "@a\x7d" "A"]).1 = ⟨[.fixed "@a\x7d" "A"]⟩ := rfl
  have hfails : Template.render ⟨Formatter.standard, ⟨[.fixed "@a\x7d" "A"]⟩⟩
      { site := { file := "main", line := 1 } } (request "@a\x7d") =
      .error { kind := .unknownMacro, message := "no macro renderer registered"
               context := [("name", "@a")] } := by
    cbv
  rw [hafter, hfails]
  refine ⟨rfl, rfl, fun h => ?_⟩
  cases h

end EventLog.Macros
