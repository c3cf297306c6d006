import EventLog.Macros
import Mathlib.Data.List.Nodup

/-! Registering texts one after the other. It comes through just if the names of all are names and
no two are the same; the first text that breaks this is the one that is refused, and without it each
is found under its own name. -/
namespace EventLog.Macros

/-- Texts that one registry can hold: their names start with the sigil, and no two are the same. -/
structure Registrable (ms : List SiteMacro) : Prop where
  named : ∀ m ∈ ms, m.name.toList.head? = some '@'
  distinct : (ms.map SiteMacro.name).Nodup

/-- How a text is refused after some others: its name is none, or one of theirs. The error gives
the name. -/
inductive Refusal (before : List SiteMacro) (m : SiteMacro) (e : Error) : Prop
  | unnamed (named : m.name.toList.head? ≠ some '@') (kind : e.kind = .invalidMacroName)
      (context : e.context? "name" = some m.name)
  | repeated (named : m.name.toList.head? = some '@')
      (earlier : m.name ∈ before.map SiteMacro.name) (kind : e.kind = .duplicateMacro)
      (context : e.context? "name" = some m.name)

private theorem isName_iff {name : String} :
    SiteMacro.isName name = true ↔ name.toList.head? = some '@' := decide_eq_true_iff

variable {before ms : List SiteMacro} {m : SiteMacro}

theorem find?_eq_none_iff {name : String} :
    (Macros.mk ms).find? name = none ↔ name ∉ ms.map SiteMacro.name := by
  simp [find?]

theorem contains_iff {name : String} :
    (Macros.mk ms).contains name = true ↔ name ∈ ms.map SiteMacro.name := by
  simp [contains, find?]

/-- Where no two names are the same, each text is found under its own. -/
theorem find?_of_distinct (h : (ms.map SiteMacro.name).Nodup) (hm : m ∈ ms) :
    (Macros.mk ms).find? m.name = some m := by
  cases hfind : (Macros.mk ms).find? m.name with
  | none => exact absurd (List.mem_map_of_mem hm) (find?_eq_none_iff.mp hfind)
  | some found =>
    have hname : found.name = m.name := by simpa using List.find?_some hfind
    have hmem : found ∈ ms := List.mem_of_find?_eq_some hfind
    rw [List.inj_on_of_nodup_map h hmem hm hname]

theorem Registrable.nil : Registrable [] := ⟨fun _ hm => absurd hm List.not_mem_nil, List.nodup_nil⟩

theorem registrable_snoc_iff : Registrable (before ++ [m]) ↔
    Registrable before ∧ m.name.toList.head? = some '@' ∧
      m.name ∉ before.map SiteMacro.name := by
  constructor
  · rintro ⟨named, distinct⟩
    rw [List.map_append, List.map_singleton, List.nodup_append] at distinct
    refine ⟨⟨fun other ho => named other (List.mem_append_left _ ho), distinct.1⟩,
      named m (by simp), fun hm => ?_⟩
    exact distinct.2.2 _ hm _ (List.mem_singleton_self _) rfl
  · rintro ⟨⟨named, distinct⟩, hm, hnew⟩
    refine ⟨fun other ho => ?_, ?_⟩
    · rcases List.mem_append.mp ho with ho | ho
      · exact named other ho
      · rw [List.mem_singleton.mp ho]
        exact hm
    · rw [List.map_append, List.map_singleton]
      refine List.nodup_append.mpr ⟨distinct, List.nodup_singleton _, fun a ha b hb => ?_⟩
      rw [List.mem_singleton.mp hb]
      rintro rfl
      exact hnew ha

private theorem Registrable.of_append (h : Registrable (before ++ ms)) : Registrable before := by
  refine ⟨fun m hm => h.named m (List.mem_append_left _ hm), ?_⟩
  have hall := h.distinct
  rw [List.map_append, List.nodup_append] at hall
  exact hall.1

/-- A text is refused, or it is a new one after the others. -/
theorem register_cases (before : List SiteMacro) (m : SiteMacro) :
    (∃ e, (Macros.mk before).register m = .error e ∧ Refusal before m e) ∨
      (m.name.toList.head? = some '@' ∧ m.name ∉ before.map SiteMacro.name ∧
        (Macros.mk before).register m = .ok ⟨before ++ [m]⟩) := by
  unfold register
  split
  · next hsigil =>
    rw [Bool.not_eq_true', ← Bool.not_eq_true, isName_iff] at hsigil
    exact .inl ⟨_, rfl, .unnamed hsigil rfl rfl⟩
  · next hsigil =>
    rw [Bool.not_eq_true', Bool.not_eq_false, isName_iff] at hsigil
    split
    · next htaken => exact .inl ⟨_, rfl, .repeated hsigil (contains_iff.mp htaken) rfl rfl⟩
    · next hfree => exact .inr ⟨hsigil, mt contains_iff.mpr hfree, rfl⟩

private theorem register_eq_ok {registry after : Macros} (h : registry.register m = .ok after) :
    after = ⟨registry.renderers ++ [m]⟩ := by
  rcases register_cases registry.renderers m with ⟨e, he, -⟩ | ⟨-, -, hok⟩
  · rw [h] at he
    cases he
  · rw [h] at hok
    exact Except.ok.inj hok

/-- Texts that are all accepted stand after those that were there, in the order of their
registration. -/
theorem registerAll_eq_ok {registry after : Macros} (h : registry.registerAll ms = .ok after) :
    after = ⟨registry.renderers ++ ms⟩ := by
  induction ms generalizing registry with
  | nil =>
    rw [List.append_nil]
    exact (Except.ok.inj h).symm
  | cons m rest ih =>
    rw [registerAll] at h
    cases hm : registry.register m with
    | error e =>
      rw [hm] at h
      cases h
    | ok more =>
      rw [hm] at h
      rw [ih h, register_eq_ok hm, List.append_assoc]
      rfl

/-- What cannot be registered after some others cannot be held together with them. -/
theorem Refusal.not_registrable {e : Error} (h : Refusal before m e) (after : List SiteMacro) :
    ¬Registrable (before ++ m :: after) := by
  intro hall
  rw [List.append_cons] at hall
  obtain ⟨-, hnamed, hnew⟩ := registrable_snoc_iff.mp hall.of_append
  cases h with
  | unnamed named => exact named hnamed
  | repeated _ earlier => exact hnew earlier

/-- After some texts more are registered either all, where that can be, or up to the first that is
refused. -/
theorem registerAll_cases (h : Registrable before) (ms : List SiteMacro) :
    (Registrable (before ++ ms) ∧ registerAll ⟨before⟩ ms = .ok ⟨before ++ ms⟩) ∨
      ∃ first m after e, ms = first ++ m :: after ∧ Registrable (before ++ first) ∧
        Refusal (before ++ first) m e ∧ registerAll ⟨before⟩ ms = .error e := by
  induction ms generalizing before with
  | nil =>
    rw [List.append_nil]
    exact .inl ⟨h, rfl⟩
  | cons m rest ih =>
    rcases register_cases before m with ⟨e, he, hrefusal⟩ | ⟨hnamed, hnew, hok⟩
    · refine .inr ⟨[], m, rest, e, rfl, ?_, ?_, by rw [registerAll, he]⟩
      · rwa [List.append_nil]
      · rwa [List.append_nil]
    · rw [registerAll, hok]
      rcases ih (registrable_snoc_iff.mpr ⟨h, hnamed, hnew⟩) with
        ⟨hall, heq⟩ | ⟨first, m', after, e, rfl, hfirst, hrefusal, heq⟩
      · rw [← List.append_cons] at hall heq
        exact .inl ⟨hall, heq⟩
      · rw [← List.append_cons] at hfirst hrefusal
        exact .inr ⟨m :: first, m', after, e, rfl, hfirst, hrefusal, heq⟩

end EventLog.Macros
