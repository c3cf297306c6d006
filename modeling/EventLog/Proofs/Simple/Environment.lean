import EventLog.Simple.Settings
import EventLog.Proofs.Level
import Mathlib

/-! Settings read from an environment. Two variables are looked up, each decides one setting, and
only the level can be refused. -/
namespace EventLog.Settings
open Text (Blank Padded trimChars)

variable {fallback : Path} {lookup : String → Option String}

def levelAsked? : Option String → Option Level
  | none => some .info
  | some text => Level.parse? text

private theorem exists_levelAsked {given : Option String} (h : ∀ text, given = some text →
    ∃ level : Level, Level.SameLetters (trimChars text.toList) level.name.toList) :
    ∃ level, levelAsked? given = some level := by
  cases given with
  | none => exact ⟨.info, rfl⟩
  | some text =>
    obtain ⟨level, hlevel⟩ := h text rfl
    exact ⟨level, Level.parse?_eq_some_iff.mpr hlevel⟩

def malformedLevel (text : String) : Error :=
  { kind := .invalidLevel
    message := "malformed level"
    context := [("level", Text.trim text), ("variable", levelVariable)] }

private theorem ofEnvironment_eq_ok_iff {settings : Settings} :
    ofEnvironment fallback lookup = .ok settings ↔
      ∃ level, levelAsked? (lookup levelVariable) = some level ∧
        settings = { directory := readDirectory fallback (lookup directoryVariable), level } := by
  unfold ofEnvironment levelAsked?
  cases lookup levelVariable with
  | none => simp [eq_comm]
  | some text => cases hparse : Level.parse? text <;> simp [Level.read, hparse, eq_comm]

private theorem ofEnvironment_eq_error_iff {e : Error} :
    ofEnvironment fallback lookup = .error e ↔
      ∃ text, lookup levelVariable = some text ∧ Level.parse? text = none ∧
        e = malformedLevel text := by
  unfold ofEnvironment
  cases lookup levelVariable with
  | none => simp
  | some text =>
    cases hparse : Level.parse? text <;>
      simp [Level.read, hparse, malformedLevel, Error.withContext, eq_comm]

private theorem fails_iff : (∃ e, ofEnvironment fallback lookup = .error e) ↔
    levelAsked? (lookup levelVariable) = none := by
  simp only [ofEnvironment_eq_error_iff, levelAsked?]
  cases lookup levelVariable <;> simp

private theorem trim_eq_empty_iff {text : String} : Text.trim text = "" ↔ Blank text.toList := by
  rw [← Text.trimChars_eq_nil_iff, Text.trim, ← String.toList_inj, String.toList_ofList]
  rfl

private theorem readDirectory_eq_none_iff (fallback : Path) {given : Option String} :
    readDirectory fallback given = none ↔
      ∃ text, given = some text ∧ Text.trim text = "<none>" := by
  cases given with
  | none => simp [readDirectory]
  | some text =>
    by_cases hnone : Text.trim text = "<none>"
    · simp [readDirectory, noDirectory, hnone]
    · by_cases hblank : Text.trim text = "" <;> simp [readDirectory, noDirectory, hnone, hblank]

private theorem readDirectory_of_blank {given : Option String}
    (h : ∀ text, given = some text → Blank text.toList) :
    readDirectory fallback given = some fallback := by
  cases given with
  | none => rfl
  | some text => simp [readDirectory, noDirectory, trim_eq_empty_iff.mpr (h text rfl)]

private theorem readDirectory_of_named {text : String} (hnone : Text.trim text ≠ "<none>")
    (hblank : ¬Blank text.toList) :
    readDirectory fallback (some text) = some (Path.ofText (Text.trim text)) := by
  simp [readDirectory, noDirectory, hnone, trim_eq_empty_iff, hblank]

instance : Nontrivial Path := ⟨⟨[]⟩, ⟨[0]⟩, by decide⟩

/-- What an environment asks for: a level, and a directory that may be the default one, whichever
that is. -/
structure AsksFor (lookup : String → Option String) (level : Level)
    (directory : Path → Option Path) : Prop where
  level : (lookup levelVariable = none ∧ level = .info) ∨ ∃ text, lookup levelVariable = some text ∧
    Level.SameLetters (trimChars text.toList) level.name.toList
  disabled : ∀ fallback, directory fallback = none ↔
    ∃ text, lookup directoryVariable = some text ∧ Text.trim text = "<none>"
  default : (∀ fallback, directory fallback = some fallback) ↔
    ∀ text, lookup directoryVariable = some text → Blank text.toList
  named : ∀ text, lookup directoryVariable = some text → Text.trim text ≠ "<none>" →
    ¬Blank text.toList → ∀ fallback, directory fallback = some (Path.ofText (Text.trim text))

private theorem asksFor_of_levelAsked {level : Level}
    (h : levelAsked? (lookup levelVariable) = some level) :
    AsksFor lookup level fun fallback => readDirectory fallback (lookup directoryVariable) where
  level := by
    cases hlevel : lookup levelVariable with
    | none =>
      rw [hlevel] at h
      exact .inl ⟨rfl, (Option.some.inj h).symm⟩
    | some text =>
      rw [hlevel] at h
      exact .inr ⟨text, rfl, Level.parse?_eq_some_iff.mp h⟩
  disabled fallback := readDirectory_eq_none_iff fallback
  default := by
    refine ⟨fun hdefault text htext => ?_, fun hblank fallback => readDirectory_of_blank hblank⟩
    by_contra hblank
    by_cases hnone : Text.trim text = "<none>"
    · have hoff := (readDirectory_eq_none_iff ⟨[]⟩).mpr ⟨text, htext, hnone⟩
      rw [hdefault ⟨[]⟩] at hoff
      cases hoff
    -- A text names one path, which cannot be the default whatever that is.
    · obtain ⟨fallback, hne⟩ := exists_ne (Path.ofText (Text.trim text))
      have hdir := hdefault fallback
      rw [htext, readDirectory_of_named hnone hblank] at hdir
      exact hne (Option.some.inj hdir).symm
  named text htext hnone hblank fallback := by
    rw [htext, readDirectory_of_named hnone hblank]

/-- A value that has come to stand between blanks. -/
abbrev Blanked (given given' : Option String) : Prop :=
  Option.Rel (fun s t => Padded s.toList t.toList) given given'

/-- A value that has come to stand between blanks, perhaps in letters of another case. -/
abbrev Recased (given given' : Option String) : Prop :=
  Option.Rel (fun s t => ∃ recased : String,
    Level.SameLetters s.toList recased.toList ∧ Padded recased.toList t.toList) given given'

private theorem readDirectory_of_blanked {given given' : Option String} (h : Blanked given given') :
    readDirectory fallback given' = readDirectory fallback given := by
  rcases h with hpadded | _
  · rw [readDirectory, readDirectory, Option.map_some, Option.map_some, Text.trim_of_padded hpadded]
  · rfl

private theorem levelAsked?_of_recased {given given' : Option String} (h : Recased given given') :
    levelAsked? given' = levelAsked? given := by
  rcases h with ⟨recased, hcase, hpadded⟩ | _
  · exact Level.parse?_congr hcase hpadded
  · rfl

/-- An environment fails exactly if it names a level that is none, and then with a report that tells
the level and the variable; what else it holds is of no account. Otherwise each of its two variables
decides one setting and nothing else does. Blanks around the values and the case of a level's
letters are free, so a level that was laid out in a field of blanks is read as what it was. -/
theorem ofEnvironment_outcome (lookup : String → Option String) :
    (∀ fallback e, ofEnvironment fallback lookup = .error e ↔
      ∃ text, lookup levelVariable = some text ∧
        (∀ level : Level, ¬Level.SameLetters (trimChars text.toList) level.name.toList) ∧
        e = malformedLevel text) ∧
    ((∀ text, lookup levelVariable = some text →
        ∃ level : Level, Level.SameLetters (trimChars text.toList) level.name.toList) →
      ∃ level directory, AsksFor lookup level directory ∧
        ∀ fallback, ofEnvironment fallback lookup =
          .ok { directory := directory fallback, level }) ∧
    (∀ lookup' fallback settings settings', ofEnvironment fallback lookup = .ok settings →
      ofEnvironment fallback lookup' = .ok settings' →
      (lookup' levelVariable = lookup levelVariable → settings'.level = settings.level) ∧
      (lookup' directoryVariable = lookup directoryVariable →
        settings'.directory = settings.directory)) ∧
    (∀ lookup', Blanked (lookup directoryVariable) (lookup' directoryVariable) →
      Recased (lookup levelVariable) (lookup' levelVariable) →
      ∀ fallback, ((∃ e, ofEnvironment fallback lookup' = .error e) ↔
          ∃ e, ofEnvironment fallback lookup = .error e) ∧
        ∀ settings, ofEnvironment fallback lookup' = .ok settings ↔
          ofEnvironment fallback lookup = .ok settings) ∧
    ∀ (level : Level) (spec : Spec), spec.fill = ' ' → spec.precision = none →
      Level.read (level.display spec) = .ok level := by
  refine ⟨fun fallback e => ?_, fun hnamed => ?_,
    fun lookup' fallback settings settings' h h' => ?_,
    fun lookup' hdirectory hlevel fallback => ⟨?_, fun settings => ?_⟩,
    fun level spec hfill hprecision => ?_⟩
  · rw [ofEnvironment_eq_error_iff]
    simp only [Level.parse?_eq_none_iff]
  · obtain ⟨level, hlevel⟩ := exists_levelAsked hnamed
    refine ⟨level, _, asksFor_of_levelAsked hlevel, fun fallback => ?_⟩
    exact ofEnvironment_eq_ok_iff.mpr ⟨level, hlevel, rfl⟩
  · obtain ⟨level, hlevel, rfl⟩ := ofEnvironment_eq_ok_iff.mp h
    obtain ⟨level', hlevel', rfl⟩ := ofEnvironment_eq_ok_iff.mp h'
    refine ⟨fun hsame => ?_, fun hsame => ?_⟩
    · rw [hsame, hlevel] at hlevel'
      exact (Option.some.inj hlevel').symm
    · exact congrArg (readDirectory fallback) hsame
  · rw [fails_iff, fails_iff, levelAsked?_of_recased hlevel]
  · rw [ofEnvironment_eq_ok_iff, ofEnvironment_eq_ok_iff, readDirectory_of_blanked hdirectory,
      levelAsked?_of_recased hlevel]
  · have hblank : Text.isBlank spec.fill = true := by
      rw [hfill]
      rfl
    exact Level.read_display hblank hprecision level

/-- In another environment the level has capitals and blanks and the directory has blanks: the
settings are the same. A level in a field of blanks is read back, and `verbose` is refused. -/
theorem ofEnvironment_outcome_of_three :
    let asked (level directory : String) : String → Option String := fun name =>
      if name = levelVariable then some level
      else if name = directoryVariable then some directory
      else none
    let fallback : Path := ⟨[0x2F]⟩
    let spec : Spec := { side := some .middle, width := some 9 }
    ofEnvironment fallback (asked "warn" "logs") =
        .ok { directory := some (Path.ofText "logs"), level := .warn } ∧
      ofEnvironment fallback (asked "\u2003wArN\t" " logs\n") =
        .ok { directory := some (Path.ofText "logs"), level := .warn } ∧
      Level.display spec .warn = "  WARN   " ∧ Level.read (Level.display spec .warn) = .ok .warn ∧
      ofEnvironment fallback (asked " verbose" "<none>") = .error (malformedLevel " verbose") := by
  intro asked fallback spec
  have haskedLevel (level directory : String) :
      asked level directory levelVariable = some level := if_pos rfl
  have haskedDirectory (level directory : String) :
      asked level directory directoryVariable = some directory := by
    have hne : directoryVariable ≠ levelVariable := by decide
    exact (if_neg hne).trans (if_pos rfl)
  have hplain : ofEnvironment fallback (asked "warn" "logs") =
      .ok { directory := some (Path.ofText "logs"), level := .warn } := by
    have hlogs : readDirectory fallback (some "logs") = some (Path.ofText "logs") := by
      decide +kernel
    rw [ofEnvironment_eq_ok_iff, haskedLevel, haskedDirectory, hlogs]
    exact ⟨.warn, by decide +kernel, rfl⟩
  have hdirectory : Blanked (some "logs") (some " logs\n") :=
    .some ⟨[' '], ['\n'], by decide +kernel, by decide +kernel, by decide +kernel⟩
  have hlevel : Recased (some "warn") (some "\u2003wArN\t") :=
    .some ⟨"wArN", by decide +kernel, ['\u2003'], ['\t'], by decide +kernel, by decide +kernel,
      by decide +kernel⟩
  obtain ⟨-, -, -, hsame, hread⟩ := ofEnvironment_outcome (asked "warn" "logs")
  obtain ⟨hfails, -⟩ := ofEnvironment_outcome (asked " verbose" "<none>")
  refine ⟨hplain, ((hsame (asked "\u2003wArN\t" " logs\n") ?_ ?_ fallback).2 _).mpr hplain,
    by decide +kernel, hread .warn spec rfl rfl,
    (hfails fallback _).mpr ⟨" verbose", haskedLevel _ _, ?_, rfl⟩⟩
  · rwa [haskedDirectory, haskedDirectory]
  · rwa [haskedLevel, haskedLevel]
  · intro level
    cases level <;> decide +kernel

end EventLog.Settings
