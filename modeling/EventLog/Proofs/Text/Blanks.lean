import EventLog.Text.Blank
import Mathlib.Data.List.DropRight

/-! White space around a text. Trimming takes away what there is of it and nothing else. -/
namespace EventLog.Text

def Blank (cs : List Char) : Prop := ∀ c ∈ cs, isBlank c = true

instance (cs : List Char) : Decidable (Blank cs) :=
  List.decidableBAll _ cs

structure Tight (cs : List Char) : Prop where
  first : ∀ c ∈ cs.head?, isBlank c = false
  last : ∀ c ∈ cs.getLast?, isBlank c = false

/-- `padded` is `cs` with blanks before it and after it, or with none. -/
def Padded (cs padded : List Char) : Prop :=
  ∃ before after, Blank before ∧ Blank after ∧ padded = before ++ cs ++ after

theorem Blank.replicate {c : Char} (h : isBlank c = true) (n : Nat) :
    Blank (List.replicate n c) := by
  intro d hd
  rw [List.eq_of_mem_replicate hd]
  exact h

private theorem isBlank_of_visible {c : Char} (h : 33 ≤ c.toNat ∧ c.toNat ≤ 126) :
    isBlank c = false := by
  simp only [isBlank, Bool.or_eq_false_iff, Bool.and_eq_false_iff, decide_eq_false_iff_not,
    beq_eq_false_iff_ne]
  omega

theorem isBlank_of_isDigit {c : Char} (h : c.isDigit = true) : isBlank c = false := by
  have hrange : 48 ≤ c.toNat ∧ c.toNat ≤ 57 := by
    simpa [Char.isDigit, UInt32.le_iff_toNat_le] using h
  exact isBlank_of_visible (by omega)

/-- In lower case the blanks are blanks, and nothing else is. -/
theorem isBlank_toLower (c : Char) : isBlank c.toLower = isBlank c := by
  by_cases h : c.val ≥ 'A'.val ∧ c.val ≤ 'Z'.val
  · have hupper : 65 ≤ c.toNat ∧ c.toNat ≤ 90 := by
      simpa [UInt32.le_iff_toNat_le] using h
    have hlower : c.toLower.toNat = c.toNat + 32 := by
      refine (congrArg Char.toNat (dif_pos h : c.toLower = _)).trans ?_
      change (c.val + 32).toNat = c.val.toNat + 32
      rw [UInt32.toNat_add]
      exact Nat.mod_eq_of_lt (Nat.lt_of_le_of_lt (Nat.add_le_add_right hupper.2 _) (by decide))
    rw [isBlank_of_visible (by omega), isBlank_of_visible (by omega)]
  · exact congrArg isBlank (dif_neg h)

theorem trimStartChars_append {before : List Char} (h : Blank before) (cs : List Char) :
    trimStartChars (before ++ cs) = trimStartChars cs :=
  List.dropWhile_append_of_pos h

theorem trimStartChars_of_first {cs : List Char} (h : ∀ c ∈ cs.head?, isBlank c = false) :
    trimStartChars cs = cs := by
  cases cs with
  | nil => rfl
  | cons c cs =>
    have hc : ¬ isBlank c = true := by simpa using h c rfl
    exact List.dropWhile_cons_of_neg hc

private theorem first_trimStartChars (cs : List Char) :
    ∀ c ∈ (trimStartChars cs).head?, isBlank c = false := by
  intro c hc
  have hfirst := List.head?_dropWhile_not isBlank cs
  rw [trimStartChars, Option.mem_def] at hc
  rwa [hc] at hfirst

theorem exists_blank_start (cs : List Char) :
    ∃ before, Blank before ∧ cs = before ++ trimStartChars cs :=
  ⟨cs.takeWhile isBlank, fun _ => List.mem_takeWhile_imp, List.takeWhile_append_dropWhile.symm⟩

private theorem trimStartChars_eq_nil_iff {cs : List Char} : trimStartChars cs = [] ↔ Blank cs :=
  List.dropWhile_eq_nil_iff

/-- What is left of a text without the blanks at its start loses those at its end. -/
theorem trimChars_eq (cs : List Char) :
    trimChars cs = (trimStartChars (trimStartChars cs).reverse).reverse := rfl

/-- Blanks around a text are trimmed away with the others. -/
theorem trimChars_append {before after : List Char} (hbefore : Blank before)
    (hafter : Blank after) (cs : List Char) : trimChars (before ++ cs ++ after) = trimChars cs := by
  rw [trimChars_eq, trimChars_eq cs, List.append_assoc, trimStartChars_append hbefore]
  have hreverse : Blank after.reverse := fun c hc => hafter c (List.mem_reverse.mp hc)
  -- Where `cs` is all blank, the blanks after it are reached from the start.
  by_cases hcs : Blank cs
  · rw [trimStartChars_append hcs, trimStartChars_eq_nil_iff.mpr hafter,
      trimStartChars_eq_nil_iff.mpr hcs]
  · have hstart : trimStartChars (cs ++ after) = trimStartChars cs ++ after := by
      have hne : ¬ (cs.dropWhile isBlank).isEmpty = true := by
        rwa [List.isEmpty_iff, List.dropWhile_eq_nil_iff]
      exact List.dropWhile_append.trans (if_neg hne)
    rw [hstart, List.reverse_append, trimStartChars_append hreverse]

theorem Padded.trimChars_eq {cs padded : List Char} (h : Padded cs padded) :
    trimChars padded = trimChars cs := by
  obtain ⟨before, after, hbefore, hafter, rfl⟩ := h
  exact trimChars_append hbefore hafter cs

theorem Tight.trimChars_eq {cs : List Char} (h : Tight cs) : trimChars cs = cs := by
  rw [Text.trimChars_eq, trimStartChars_of_first h.first, trimStartChars_of_first,
    List.reverse_reverse]
  rw [List.head?_reverse]
  exact h.last

/-- Nothing but blanks is trimmed away. -/
theorem padded_trimChars (cs : List Char) : Padded (trimChars cs) cs := by
  obtain ⟨before, hbefore, hstart⟩ := exists_blank_start cs
  obtain ⟨after, hafter, hend⟩ := exists_blank_start (trimStartChars cs).reverse
  refine ⟨before, after.reverse, hbefore, fun c hc => hafter c (List.mem_reverse.mp hc), ?_⟩
  rw [List.append_assoc, trimChars_eq, ← List.reverse_append, ← hend, List.reverse_reverse]
  exact hstart

/-- No blank is left at the ends. -/
theorem tight_trimChars (cs : List Char) : Tight (trimChars cs) where
  first := by
    have hprefix : trimChars cs <+: trimStartChars cs := List.rdropWhile_prefix isBlank _
    intro c hc
    obtain ⟨more, hmore⟩ := List.head?_eq_some_iff.mp hc
    obtain ⟨rest, hrest⟩ := hmore ▸ hprefix
    exact first_trimStartChars cs c (by rw [← hrest]; rfl)
  last := by
    rw [trimChars_eq, List.getLast?_reverse]
    exact first_trimStartChars _

/-- A trimmed text is the one that stands between the blanks and neither starts nor ends in one. -/
theorem trimChars_eq_iff {cs inner : List Char} :
    trimChars cs = inner ↔ Tight inner ∧ Padded inner cs := by
  constructor
  · rintro rfl
    exact ⟨tight_trimChars cs, padded_trimChars cs⟩
  · rintro ⟨htight, hpadded⟩
    rw [hpadded.trimChars_eq, htight.trimChars_eq]

theorem trimChars_eq_self_iff {cs : List Char} : trimChars cs = cs ↔ Tight cs :=
  ⟨fun h => h ▸ tight_trimChars cs, Tight.trimChars_eq⟩

theorem trim_of_padded {s t : String} (h : Padded s.toList t.toList) : trim t = trim s := by
  rw [trim, trim, h.trimChars_eq]

theorem trimChars_eq_nil_iff {cs : List Char} : trimChars cs = [] ↔ Blank cs := by
  constructor
  · intro h c hc
    obtain ⟨before, after, hbefore, hafter, hcs⟩ := padded_trimChars cs
    rw [hcs, h, List.append_nil] at hc
    exact (List.mem_append.mp hc).elim (hbefore c) (hafter c)
  · intro h
    rw [trimChars_eq, trimStartChars_eq_nil_iff.mpr h]
    rfl

/-- Trimming goes past a change of characters that leaves the blanks as they are. -/
theorem trimChars_map {f : Char → Char} (h : ∀ c, isBlank (f c) = isBlank c) (cs : List Char) :
    trimChars (cs.map f) = (trimChars cs).map f := by
  have hstart (cs : List Char) : trimStartChars (cs.map f) = (trimStartChars cs).map f := by
    rw [trimStartChars, List.dropWhile_map]
    exact congrArg (fun p => (cs.dropWhile p).map f) (funext h)
  simp only [trimChars_eq, hstart, ← List.map_reverse]

end EventLog.Text
