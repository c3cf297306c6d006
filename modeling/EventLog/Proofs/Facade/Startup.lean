import EventLog.Capture
import EventLog.Facade
import EventLog.Proofs.Macros.Registration
import EventLog.Proofs.Template.Rendering
import Mathlib

/-! What plugins make. Without exactly one backend they make nothing, whatever else is among them;
with one, the texts about the call site decide, and the facade renders by all plugins in the order
in which they were registered. -/
namespace EventLog

/-- Placeholders are filled by some formatters in this order, and by some texts each under its own
name; no other name has a text. -/
structure Renderer.Binds (r : Renderer) (formatters : List Formatter) (macros : List SiteMacro) :
    Prop where
  formatters : r.formatters = formatters
  bound : ∀ m ∈ macros, r.macros.find? m.name = some m
  unbound : ∀ name, name ∉ macros.map SiteMacro.name → r.macros.find? name = none

/-- Formatters in their order and texts under their names leave nothing open. -/
theorem Renderer.Binds.render_eq {r r' : Renderer} {formatters : List Formatter}
    {macros : List SiteMacro} (h : r.Binds formatters macros) (h' : r'.Binds formatters macros)
    (on : Occasion) (template : String) :
    Template.render r on template = Template.render r' on template := by
  refine Template.render_congr (h.formatters.trans h'.formatters.symm) (fun name => ?_) on template
  by_cases hname : name ∈ macros.map SiteMacro.name
  · obtain ⟨m, hm, rfl⟩ := List.mem_map.mp hname
    rw [h.bound m hm, h'.bound m hm]
  · rw [h.unbound name hname, h'.unbound name hname]

namespace Facade
open Macros (Registrable Refusal)

variable {σ : Type} {p : Plugins σ}

private theorem binds_of_registrable (h : Registrable p.macros) :
    Renderer.Binds ⟨p.formatters, ⟨p.macros⟩⟩ p.formatters p.macros :=
  ⟨rfl, fun _ hm => Macros.find?_of_distinct h.distinct hm,
    fun _ hname => Macros.find?_eq_none_iff.mpr hname⟩

private theorem ofPlugins_one {b : Backend σ} (h : p.backends = [b]) :
    (Registrable p.macros ∧ ofPlugins p = .ok ⟨b, ⟨p.formatters, ⟨p.macros⟩⟩⟩) ∨
      ∃ before m after e, p.macros = before ++ m :: after ∧ Registrable before ∧
        Refusal before m e ∧ ofPlugins p = .error e := by
  have hone : p.theBackend = .ok b := by rw [Plugins.theBackend, h]
  rcases Macros.registerAll_cases .nil p.macros with
    ⟨hall, heq⟩ | ⟨before, m, after, e, hsplit, hbefore, hrefusal, heq⟩
  · have hmacros : Macros.registerAll {} p.macros = .ok ⟨p.macros⟩ := heq
    refine .inl ⟨hall, ?_⟩
    simp only [ofPlugins, hone, hmacros]
  · have hmacros : Macros.registerAll {} p.macros = .error e := heq
    refine .inr ⟨before, m, after, e, hsplit, hbefore, hrefusal, ?_⟩
    simp only [ofPlugins, hone, hmacros]

private theorem ofPlugins_of_error {e : Error} (h : p.theBackend = .error e) :
    ofPlugins p = .error e := by
  simp only [ofPlugins, h]

private theorem ofPlugins_none (h : p.backends = []) :
    ∃ e, ofPlugins p = .error e ∧ e.kind = .noBackendFound := by
  obtain ⟨e, he, hkind⟩ : ∃ e, p.theBackend = .error e ∧ e.kind = .noBackendFound := by
    rw [Plugins.theBackend, h]
    exact ⟨_, rfl, rfl⟩
  exact ⟨e, ofPlugins_of_error he, hkind⟩

private theorem ofPlugins_several (h : 2 ≤ p.backends.length) :
    ∃ e, ofPlugins p = .error e ∧ e.kind = .ambiguousBackend ∧
      e.context? "count" = some (Text.number p.backends.length) ∧
      e.context? "managers" = some (", ".intercalate (p.backends.map Backend.name)) := by
  obtain ⟨e, he, hsaid⟩ : ∃ e, p.theBackend = .error e ∧ e.kind = .ambiguousBackend ∧
      e.context? "count" = some (Text.number p.backends.length) ∧
      e.context? "managers" = some (", ".intercalate (p.backends.map Backend.name)) := by
    unfold Plugins.theBackend
    split
    · next hone => simp [hone] at h
    · next hnone => simp [hnone] at h
    · exact ⟨_, rfl, rfl, rfl, rfl⟩
  exact ⟨e, ofPlugins_of_error he, hsaid⟩

private theorem length_of_ok {f : Facade σ} (h : ofPlugins p = .ok f) :
    p.backends.length = 1 := by
  match hbackends : p.backends with
  | [b] => rfl
  | [] =>
    obtain ⟨e, he, -⟩ := ofPlugins_none hbackends
    rw [he] at h
    cases h
  | b :: c :: more =>
    obtain ⟨e, he, -⟩ := ofPlugins_several (p := p) (by simp [hbackends])
    rw [he] at h
    cases h

private theorem ofPlugins_eq_ok {f : Facade σ} (h : ofPlugins p = .ok f) :
    Registrable p.macros ∧ p.backends = [f.backend] ∧ f.renderer = ⟨p.formatters, ⟨p.macros⟩⟩ := by
  obtain ⟨b, hb⟩ := List.length_eq_one_iff.mp (length_of_ok h)
  rcases ofPlugins_one hb with ⟨hall, heq⟩ | ⟨-, -, -, e, -, -, -, heq⟩
  · rw [h] at heq
    cases heq
    exact ⟨hall, hb, rfl⟩
  · rw [h] at heq
    cases heq

/-- A facade comes about just if there is one backend and the texts can all be registered. Without
one backend the error says so, whatever the texts are, and gives the number and the names of
several; with one it is that of the first text whose name is none or was registered before. What
came about has that backend and renders every template as any renderer does that asks the formatters
in their order and finds each text under its name; so the plugins that are always known make, with a
backend, the facade that the backend has without them. -/
theorem ofPlugins_outcome (p : Plugins σ) :
    ((∃ f, ofPlugins p = .ok f) ↔ p.backends.length = 1 ∧ Registrable p.macros) ∧
    (p.backends = [] → ∃ e, ofPlugins p = .error e ∧ e.kind = .noBackendFound) ∧
    (2 ≤ p.backends.length → ∃ e, ofPlugins p = .error e ∧ e.kind = .ambiguousBackend ∧
      e.context? "count" = some (Text.number p.backends.length) ∧
      e.context? "managers" = some (", ".intercalate (p.backends.map Backend.name))) ∧
    (p.backends.length = 1 → ¬Registrable p.macros →
      ∃ before m after e, p.macros = before ++ m :: after ∧ Registrable before ∧
        Refusal before m e ∧ ofPlugins p = .error e) ∧
    (∀ f, ofPlugins p = .ok f → p.backends = [f.backend] ∧
      f.renderer.Binds p.formatters p.macros ∧
      ∀ r : Renderer, r.Binds p.formatters p.macros → ∀ on template,
        Template.render f.renderer on template = Template.render r on template) ∧
    ∀ b : Backend σ, ofPlugins (Plugins.standard.addBackend b) =
      .ok { backend := b, renderer := .standard } := by
  refine ⟨⟨fun ⟨f, hf⟩ => ⟨length_of_ok hf, (ofPlugins_eq_ok hf).1⟩, fun ⟨hone, hall⟩ => ?_⟩,
    ofPlugins_none, ofPlugins_several, fun hone hnot => ?_, fun f hf => ?_, fun b => ?_⟩
  · obtain ⟨b, hb⟩ := List.length_eq_one_iff.mp hone
    rcases ofPlugins_one hb with ⟨-, heq⟩ | ⟨before, m, after, e, hsplit, -, hrefusal, -⟩
    · exact ⟨_, heq⟩
    · rw [hsplit] at hall
      exact absurd hall (hrefusal.not_registrable after)
  · obtain ⟨b, hb⟩ := List.length_eq_one_iff.mp hone
    rcases ofPlugins_one hb with ⟨hall, -⟩ | hrefused
    · exact absurd hall hnot
    · exact hrefused
  · obtain ⟨hall, hbackend, hrenderer⟩ := ofPlugins_eq_ok hf
    have hbinds : f.renderer.Binds p.formatters p.macros := by
      rw [hrenderer]
      exact binds_of_registrable hall
    exact ⟨hbackend, hbinds, fun r hr => hbinds.render_eq hr⟩
  · rfl

def pluginsWithHost : Plugins Capture :=
  (Plugins.standard.addBackend Capture.backend).addMacro (.fixed "@host" "web")

/-- The same texts in the other order, which finds the same text under every name. -/
def hostFirst : Renderer := ⟨Formatter.standard, ⟨pluginsWithHost.macros.reverse⟩⟩

private theorem hostFirst_binds :
    hostFirst.Binds pluginsWithHost.formatters pluginsWithHost.macros := by
  have hdistinct : (pluginsWithHost.macros.reverse.map SiteMacro.name).Nodup := by decide
  refine ⟨rfl, fun m hm => ?_, fun name hname => ?_⟩
  · exact Macros.find?_of_distinct hdistinct (List.mem_reverse.mpr hm)
  · refine Macros.find?_eq_none_iff.mpr ?_
    rwa [List.map_reverse, List.mem_reverse]

/-- Nothing comes of no backend, of two, or of a name that comes again; of one backend and new names
a facade comes that renders as the texts do in any order. -/
theorem ofPlugins_outcome_of_few :
    (∃ e, ofPlugins ({} : Plugins Capture) = .error e ∧ e.kind = .noBackendFound) ∧
      (∃ e, ofPlugins (pluginsWithHost.addBackend Capture.backend) = .error e ∧
        e.kind = .ambiguousBackend ∧ e.context? "count" = some "2" ∧
        e.context? "managers" = some "testing, testing") ∧
      (¬Registrable (pluginsWithHost.addMacro (.fixed "@file" "again")).macros ∧
        ∃ before m after e,
          (pluginsWithHost.addMacro (.fixed "@file" "again")).macros = before ++ m :: after ∧
          Registrable before ∧ Refusal before m e ∧
          ofPlugins (pluginsWithHost.addMacro (.fixed "@file" "again")) = .error e) ∧
      ∃ f, ofPlugins pluginsWithHost = .ok f ∧ ∀ on template,
        Template.render f.renderer on template = Template.render hostFirst on template := by
  have hrepeated : ¬Registrable (pluginsWithHost.addMacro (.fixed "@file" "again")).macros :=
    fun h => absurd h.distinct (by decide)
  have hregistrable : Registrable pluginsWithHost.macros := ⟨by decide, by decide⟩
  obtain ⟨f, hf⟩ := (ofPlugins_outcome pluginsWithHost).1.mpr ⟨rfl, hregistrable⟩
  obtain ⟨-, hnone, -⟩ := ofPlugins_outcome ({} : Plugins Capture)
  obtain ⟨-, -, hseveral, -⟩ := ofPlugins_outcome (pluginsWithHost.addBackend Capture.backend)
  obtain ⟨-, -, -, hone, -⟩ :=
    ofPlugins_outcome (pluginsWithHost.addMacro (.fixed "@file" "again"))
  obtain ⟨-, -, -, -, hmade, -⟩ := ofPlugins_outcome pluginsWithHost
  obtain ⟨-, -, hrender⟩ := hmade f hf
  exact ⟨hnone rfl, hseveral (Nat.le_refl 2), ⟨hrepeated, hone rfl hrepeated⟩, f, hf,
    hrender hostFirst hostFirst_binds⟩

end Facade

end EventLog
