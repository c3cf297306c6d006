import EventLog.Level
import EventLog.Proofs.Text.Blanks

/-! The names of levels, written and read. Blanks around a name and the case of its letters are
free, so a level that was laid out between blanks is read as what it was. -/
namespace EventLog
open Text (Padded Tight trimChars)

namespace Level

/-- Texts that differ in the case of ASCII letters at most. -/
def SameLetters (a b : List Char) : Prop := a.map Char.toLower = b.map Char.toLower

instance (a b : List Char) : Decidable (SameLetters a b) :=
  inferInstanceAs (Decidable (a.map Char.toLower = b.map Char.toLower))

private theorem sameIgnoringCase_iff {a b : List Char} :
    sameIgnoringCase a b = true ↔ SameLetters a b :=
  beq_iff_eq

private theorem mem_all (level : Level) : level ∈ all := by
  cases level <;> decide

private theorem tight_name (level : Level) : Tight level.name.toList := by
  rw [← Text.trimChars_eq_self_iff]
  cases level <;> decide +kernel

/-- No two levels have the same name in different case. -/
theorem eq_of_sameLetters {a b : Level} (h : SameLetters a.name.toList b.name.toList) : a = b := by
  revert h
  cases a <;> cases b <;> decide

/-- What is left between the blanks is the name of the level that is read. -/
theorem parse?_eq_some_iff {s : String} {level : Level} :
    parse? s = some level ↔ SameLetters (trimChars s.toList) level.name.toList := by
  have hsound {found : Level} (h : parse? s = some found) :
      SameLetters (trimChars s.toList) found.name.toList := by
    unfold parse? at h
    simpa [sameIgnoringCase_iff] using List.find?_some h
  refine ⟨hsound, fun h => ?_⟩
  have hfound : (parse? s).isSome := by
    rw [parse?, List.find?_isSome]
    exact ⟨level, mem_all level, sameIgnoringCase_iff.mpr h⟩
  -- The first level that matches need not be the one asked for, but no other has its name.
  obtain ⟨found, hfound⟩ := Option.isSome_iff_exists.mp hfound
  rw [hfound, eq_of_sameLetters ((hsound hfound).symm.trans h)]

theorem parse?_eq_none_iff {s : String} :
    parse? s = none ↔ ∀ level : Level, ¬SameLetters (trimChars s.toList) level.name.toList := by
  rw [Option.eq_none_iff_forall_ne_some]
  exact forall_congr' fun level => not_congr parse?_eq_some_iff

private theorem read_eq_ok_iff {s : String} {level : Level} :
    read s = .ok level ↔ parse? s = some level := by
  unfold read
  cases parse? s <;> simp

/-- Texts of the same letters are of the same letters without their blanks. -/
theorem SameLetters.trimmed {a b : List Char} (h : SameLetters a b) :
    SameLetters (trimChars a) (trimChars b) := by
  unfold SameLetters at *
  rw [← Text.trimChars_map Text.isBlank_toLower, h, Text.trimChars_map Text.isBlank_toLower]

/-- Blanks around a text and the case of its letters do not change which level it names. -/
theorem parse?_congr {s t recased : String} (hcase : SameLetters s.toList recased.toList)
    (hpadded : Padded recased.toList t.toList) : parse? t = parse? s := by
  refine Option.ext fun level => ?_
  rw [parse?_eq_some_iff, parse?_eq_some_iff, hpadded.trimChars_eq]
  exact ⟨hcase.trimmed.trans, hcase.trimmed.symm.trans⟩

end Level

/-- A text that is not cut has its fill before it and after it, or no fill at all. -/
theorem Spec.exists_layText {spec : Spec} (h : spec.precision = none) (body : List Char) :
    ∃ m n, spec.layText body =
      List.replicate m spec.fill ++ body ++ List.replicate n spec.fill := by
  unfold layText
  rw [h]
  cases spec.width with
  | none => exact ⟨0, 0, by simp⟩
  | some w =>
    cases spec.side.getD .left with
    | left => exact ⟨0, w - body.length, by simp [inField]⟩
    | middle => exact ⟨_, _, rfl⟩
    | right => exact ⟨w - body.length, 0, by simp [inField]⟩

/-- A level laid out with blanks is read back. -/
theorem Level.read_display {spec : Spec} (hfill : Text.isBlank spec.fill = true)
    (hprecision : spec.precision = none) (level : Level) :
    Level.read (level.display spec) = .ok level := by
  obtain ⟨m, n, hlaid⟩ := spec.exists_layText hprecision level.name.toList
  rw [read_eq_ok_iff, parse?_eq_some_iff, display, String.toList_ofList, hlaid,
    Text.trimChars_append (.replicate hfill m) (.replicate hfill n), level.tight_name.trimChars_eq]
  rfl

end EventLog
