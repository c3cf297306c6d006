import EventLog.Frame
import EventLog.Text.Digits
import EventLog.Proofs.Text.Blanks
import Mathlib

/-! Lines of a rendered stack. A frame is told by its index, digits that a colon and a space follow,
and whatever stands behind the first such pair is its symbol; remarks between the frames start with
a letter and are passed over. -/
namespace EventLog.Frame
open Text (Blank Padded Tight isBlank trimChars trimStartChars)

def colon : List Char := [':', ' ']

structure Digits (cs : List Char) : Prop where
  ne_nil : cs ≠ []
  digit : ∀ c ∈ cs, c.isDigit = true

/-- A line that shows a frame: an index behind its blanks, then a colon and a space, then `rest`. -/
def Shows (line rest : List Char) : Prop :=
  ∃ indent index, Blank indent ∧ Digits index ∧ line = indent ++ index ++ colon ++ rest

private theorem eq_of_cutAtColon {cs before after : List Char}
    (h : cutAtColon cs = some (before, after)) : cs = before ++ colon ++ after := by
  fun_induction cutAtColon cs generalizing before with
  | case1 => cases h
  | case2 rest =>
    cases h
    rfl
  | case3 c rest _ ih =>
    obtain ⟨⟨front, back⟩, hcut, hsplit⟩ := Option.map_eq_some_iff.mp h
    cases hsplit
    exact congrArg (c :: ·) (ih hcut)

/-- Where no colon stands before it, a colon with a space is where a text is cut. -/
theorem cutAtColon_append {before : List Char} (h : ':' ∉ before) (after : List Char) :
    cutAtColon (before ++ colon ++ after) = some (before, after) := by
  induction before with
  | nil => rfl
  | cons c cs ih =>
    rw [List.mem_cons, not_or] at h
    rw [List.cons_append, List.cons_append, cutAtColon, ih h.2]
    · rfl
    · rintro rest rfl
      exact absurd rfl h.1

/-- An index behind an indentation is where a line starts once its blanks are gone. -/
theorem Digits.trimStartChars_eq {indent index : List Char} (hindex : Digits index)
    (hindent : Blank indent) (rest : List Char) :
    trimStartChars (indent ++ index ++ rest) = index ++ rest := by
  rw [List.append_assoc, Text.trimStartChars_append hindent, Text.trimStartChars_of_first]
  intro c hc
  obtain ⟨first, more, rfl⟩ := List.exists_cons_of_ne_nil hindex.ne_nil
  cases hc
  exact Text.isBlank_of_isDigit (hindex.digit _ List.mem_cons_self)

/-- What stands behind the index of a frame is read without the blanks around it. -/
theorem Shows.symbol?_eq {line rest : List Char} (h : Shows line rest) :
    symbol? line = some (trimChars rest) := by
  obtain ⟨indent, index, hindent, hindex, rfl⟩ := h
  have hcolon : ':' ∉ index := fun hc => absurd (hindex.digit ':' hc) (by decide)
  have hcut : cutAtColon (trimStartChars (indent ++ index ++ colon ++ rest)) =
      some (index, rest) := by
    rw [List.append_assoc (indent ++ index), hindex.trimStartChars_eq hindent,
      ← List.append_assoc, cutAtColon_append hcolon]
  unfold symbol?
  rw [hcut]
  exact if_pos ⟨hindex.ne_nil, List.all_eq_true.mpr hindex.digit⟩

/-- No other line has a symbol. -/
theorem exists_shows {line symbol : List Char} (h : symbol? line = some symbol) :
    ∃ rest, Shows line rest := by
  unfold symbol? at h
  split at h
  · next index rest hcut =>
    split at h
    · next hindex =>
      obtain ⟨indent, hindent, hline⟩ := Text.exists_blank_start line
      refine ⟨rest, indent, index, hindent, ⟨hindex.1, List.all_eq_true.mp hindex.2⟩, ?_⟩
      rw [hline, eq_of_cutAtColon hcut]
      simp only [List.append_assoc]
    · cases h
  · cases h

private theorem isSome_symbol?_iff {line : List Char} :
    (symbol? line).isSome ↔ ∃ rest, Shows line rest := by
  rw [Option.isSome_iff_exists]
  exact ⟨fun ⟨_, h⟩ => exists_shows h, fun ⟨_, h⟩ => ⟨_, h.symbol?_eq⟩⟩

private theorem symbol?_eq_some_iff {line symbol : List Char} : symbol? line = some symbol ↔
    ∃ rest, Shows line rest ∧ Tight symbol ∧ Padded symbol rest := by
  constructor
  · intro h
    obtain ⟨rest, hrest⟩ := exists_shows h
    rw [hrest.symbol?_eq, Option.some.injEq, Text.trimChars_eq_iff] at h
    exact ⟨rest, hrest, h⟩
  · rintro ⟨rest, hrest, h⟩
    rw [hrest.symbol?_eq, Text.trimChars_eq_iff.mpr h]

/-- A line that starts with anything but a digit once its blanks are gone shows no frame. -/
theorem symbol?_of_not_digit {indent rest : List Char} (hindent : Blank indent)
    (hrest : ∀ c ∈ rest.head?, isBlank c = false ∧ c.isDigit = false) :
    symbol? (indent ++ rest) = none := by
  rw [Option.eq_none_iff_forall_ne_some]
  intro symbol h
  obtain ⟨more, indent', index, hindent', hindex, hline⟩ := exists_shows h
  have hstart : rest = index ++ (colon ++ more) := by
    have hsame := congrArg trimStartChars hline
    rwa [Text.trimStartChars_append hindent, Text.trimStartChars_of_first fun c hc =>
      (hrest c hc).1, List.append_assoc (indent' ++ index), hindex.trimStartChars_eq hindent']
      at hsame
  obtain ⟨c, cs, rfl⟩ := List.exists_cons_of_ne_nil hindex.ne_nil
  have hdigit := hindex.digit c List.mem_cons_self
  rw [(hrest c (by rw [hstart]; rfl)).2] at hdigit
  cases hdigit

def frameLine (indent : List Char) (index : Nat) (symbol : List Char) : List Char :=
  indent ++ Text.decimal index ++ colon ++ symbol

private theorem digits_decimal (n : Nat) : Digits (Text.decimal n) where
  ne_nil := Nat.toDigits_ne_nil
  digit _ hc := Nat.isDigit_of_mem_toDigits (by decide) (by decide) hc

private theorem symbol?_frameLine {indent symbol : List Char} (hindent : Blank indent)
    (hsymbol : Tight symbol) (index : Nat) :
    symbol? (frameLine indent index symbol) = some symbol := by
  have hshows : Shows (frameLine indent index symbol) symbol :=
    ⟨indent, Text.decimal index, hindent, digits_decimal index, rfl⟩
  rw [hshows.symbol?_eq, hsymbol.trimChars_eq]

/-- A line that tells where a frame stands, or a note. -/
def Remark (line : List Char) : Prop :=
  ∃ indent rest, Blank indent ∧
    (line = indent ++ ("at ".toList ++ rest) ∨ line = indent ++ ("note".toList ++ rest))

private theorem Remark.symbol?_eq_none {line : List Char} (h : Remark line) :
    symbol? line = none := by
  obtain ⟨indent, rest, hindent, rfl | rfl⟩ := h
  · exact symbol?_of_not_digit hindent fun c hc => by cases hc; decide
  · exact symbol?_of_not_digit hindent fun c hc => by cases hc; decide

/-- The lines of a rendered stack and the symbols of its frames. -/
inductive Rendered : List String → List (List Char) → Prop
  | nil : Rendered [] []
  | frame {lines symbols} {indent symbol : List Char} (index : Nat) (hindent : Blank indent)
      (hsymbol : Tight symbol) (more : Rendered lines symbols) :
      Rendered (String.ofList (frameLine indent index symbol) :: lines) (symbol :: symbols)
  | remark {lines symbols} {line : String} (hline : Remark line.toList)
      (more : Rendered lines symbols) : Rendered (line :: lines) symbols

/-- The symbols that are read off a rendered stack are those of its frames. -/
theorem Rendered.filterMap_symbol? {lines : List String} {symbols : List (List Char)}
    (h : Rendered lines symbols) : lines.filterMap (fun line => symbol? line.toList) = symbols := by
  induction h with
  | nil => rfl
  | frame index hindent hsymbol _ ih =>
    have hread := symbol?_frameLine hindent hsymbol index
    rw [List.filterMap_cons, String.toList_ofList, hread, ih]
  | remark hline _ ih => rw [List.filterMap_cons, hline.symbol?_eq_none, ih]

/-- A line shows a frame just if an index, a colon and a space follow its blanks. The symbol is all
that stands behind the first such colon, but for the blanks around it, so the symbol of every frame
that is rendered is read back, and what is read off a whole stack are the symbols of its frames. -/
theorem frames_told_by_index (line : List Char) :
    ((symbol? line).isSome ↔ ∃ rest, Shows line rest) ∧
    (∀ symbol, symbol? line = some symbol ↔
      ∃ rest, Shows line rest ∧ Tight symbol ∧ Padded symbol rest) ∧
    (∀ indent index symbol, Blank indent → Tight symbol → line = frameLine indent index symbol →
      symbol? line = some symbol) ∧
    (Remark line → symbol? line = none) ∧
    ∀ lines symbols, Rendered lines symbols →
      lines.filterMap (fun line => symbol? line.toList) = symbols ∧
      nameOnStack? lines = (symbols.find? fun s => !isInternal s).bind bareName? := by
  refine ⟨isSome_symbol?_iff, fun symbol => symbol?_eq_some_iff, ?_, Remark.symbol?_eq_none,
    fun lines symbols h => ⟨h.filterMap_symbol?, ?_⟩⟩
  · rintro indent index symbol hindent hsymbol rfl
    exact symbol?_frameLine hindent hsymbol index
  · rw [nameOnStack?, h.filterMap_symbol?]

/-- Two frames, the place of the first and a note: the second symbol has an index and a colon of its
own, and keeps them. -/
theorem frames_told_by_index_of_two :
    let first := frameLine (List.replicate 3 ' ') 0 "std::rt::capture".toList
    let second := frameLine (List.replicate 2 ' ') 12 "7: app::handle".toList
    let lines := [String.ofList first, "          at ./src/main.rs:10:5", String.ofList second,
      "note: some details: omitted"]
    second = "  12: 7: app::handle".toList ∧ symbol? second = some "7: app::handle".toList ∧
      symbol? "          at ./src/main.rs:10:5".toList = none ∧
      lines.filterMap (fun line => symbol? line.toList) =
        ["std::rt::capture".toList, "7: app::handle".toList] ∧
      nameOnStack? lines = some "handle".toList := by
  intro first second lines
  have hindent (n : Nat) : Blank (List.replicate n ' ') := .replicate (by decide) n
  have hplace : Remark "          at ./src/main.rs:10:5".toList :=
    ⟨List.replicate 10 ' ', "./src/main.rs:10:5".toList, hindent 10, .inl (by cbv)⟩
  have hnote : Remark "note: some details: omitted".toList :=
    ⟨[], ": some details: omitted".toList, hindent 0, .inr (by cbv)⟩
  have hcapture : Tight "std::rt::capture".toList := Text.trimChars_eq_self_iff.mp (by cbv)
  have hhandle : Tight "7: app::handle".toList := Text.trimChars_eq_self_iff.mp (by cbv)
  have hstack : Rendered lines ["std::rt::capture".toList, "7: app::handle".toList] :=
    .frame 0 (hindent 3) hcapture <| .remark hplace <|
      .frame 12 (hindent 2) hhandle <| .remark hnote .nil
  obtain ⟨-, -, hframe, -, hread⟩ := frames_told_by_index second
  obtain ⟨-, -, -, hremark, -⟩ := frames_told_by_index "          at ./src/main.rs:10:5".toList
  obtain ⟨hsymbols, hname⟩ := hread lines _ hstack
  refine ⟨by cbv, hframe _ 12 _ (hindent 2) hhandle rfl, hremark hplace, hsymbols, ?_⟩
  rw [hname]
  decide +kernel

end EventLog.Frame
