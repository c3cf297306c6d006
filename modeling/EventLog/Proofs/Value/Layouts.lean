import EventLog.Formatter.Standard

/-! Where a layout reaches. A text is made of parts: characters that stand as they are, and leaves
that lay themselves out. The leaves are those that sequences alone lead to; whatever stands in a map
has its natural text, sequences there included. -/
namespace EventLog.Value

/-- A value that has a text of its own under every layout. -/
inductive Leaf where
  | bool (b : Bool)
  | char (c : Char)
  | int (n : Int64)
  | nat (n : UInt64)
  | float (x : Binary64)
  | path (p : Path)
  | failure (error : Captured) (causes : List String)
  | captured (value : Captured)

namespace Leaf

def toValue : Leaf → Value
  | bool b => .bool b
  | char c => .char c
  | int n => .int n
  | nat n => .nat n
  | float x => .float x
  | path p => .path p
  | failure error causes => .failure error causes
  | captured value => .captured value

def text (spec : Spec) : Leaf → List Char
  | bool b => spec.layText (flag b)
  | char c => spec.layText [c]
  | int n => Captured.integerText spec n.toInt
  | nat n => Captured.integerText spec n.toNat
  | float x => x.display spec
  | path p => p.display spec
  | failure error _ => (error.render spec).toList
  | captured value => (value.render spec).toList

end Leaf

/-- A part of the text of a value: characters that no layout changes, or a leaf. -/
inductive Part where
  | fixed (cs : List Char)
  | leaf (l : Leaf)

namespace Part

def text (spec : Spec) : Part → List Char
  | fixed cs => cs
  | leaf l => l.text spec

/-- A part with its natural text, whatever the layout. -/
def freeze (p : Part) : Part := .fixed (p.text .natural)

end Part

def textOf (spec : Spec) (ps : List Part) : List Char := ps.flatMap (Part.text spec)

def bracketedParts (opening closing : Char) (items : List (List Part)) : List Part :=
  .fixed [opening] :: [Part.fixed [',', ' ']].intercalate items ++ [.fixed [closing]]

mutual

def parts : Value → List Part
  | null => [.fixed "null".toList]
  | bool b => [.leaf (.bool b)]
  | char c => [.leaf (.char c)]
  | int n => [.leaf (.int n)]
  | nat n => [.leaf (.nat n)]
  | float x => [.leaf (.float x)]
  | text s => [.fixed s.toList]
  | seq values => bracketedParts '[' ']' (partsOfEach values)
  | map entries => bracketedParts '\x7b' '\x7d' (partsOfEntries entries)
  | path p => [.leaf (.path p)]
  | failure error causes => [.leaf (.failure error causes)]
  | captured value => [.leaf (.captured value)]

def partsOfEach : List Value → List (List Part)
  | [] => []
  | v :: rest => parts v :: partsOfEach rest

/-- The parts of each of some entries, whose keys and values have their natural texts. -/
def partsOfEntries : List (Value × Value) → List (List Part)
  | [] => []
  | (k, v) :: rest =>
    ((parts k).map Part.freeze ++ .fixed [':', ' '] :: (parts v).map Part.freeze)
      :: partsOfEntries rest

end

/-- A value leads to another through sequences alone. -/
inductive Reached : Value → Value → Prop
  | here (v) : Reached v v
  | within {values v w} (h : v ∈ values) (more : Reached v w) : Reached (.seq values) w

@[simp] theorem textOf_append (spec : Spec) (ps qs : List Part) :
    textOf spec (ps ++ qs) = textOf spec ps ++ textOf spec qs := List.flatMap_append

@[simp] theorem textOf_freeze (spec : Spec) (ps : List Part) :
    textOf spec (ps.map Part.freeze) = textOf .natural ps := by
  rw [textOf, List.flatMap_map]
  rfl

@[simp] theorem textOf_nil (spec : Spec) : textOf spec [] = [] := rfl

@[simp] theorem textOf_fixed (spec : Spec) (cs : List Char) (ps : List Part) :
    textOf spec (.fixed cs :: ps) = cs ++ textOf spec ps := rfl

private theorem textOf_intercalate (spec : Spec) (mark : List Part) (items : List (List Part)) :
    textOf spec (mark.intercalate items) =
      (textOf spec mark).intercalate (items.map (textOf spec)) := by
  induction items with
  | nil => rfl
  | cons first rest ih =>
    cases rest with
    | nil => simp
    | cons second rest =>
      simp only [List.intercalate_cons_cons, textOf_append, ih, List.map_cons]

private theorem textOf_bracketedParts (spec : Spec) (opening closing : Char)
    (items : List (List Part)) : textOf spec (bracketedParts opening closing items) =
      bracketed opening closing (items.map (textOf spec)) := by
  simp [bracketedParts, bracketed, textOf_intercalate]

mutual

/-- The text of a value under a layout is that of its parts. -/
theorem display_eq_textOf (spec : Spec) (v : Value) : v.display spec = textOf spec v.parts := by
  cases v with
  | seq values => rw [display_seq, parts, textOf_bracketedParts, map_display_eq spec values]
  | map entries => rw [display_map, parts, textOf_bracketedParts, map_entries_eq spec entries]
  | _ => simp [display, displayOnto, parts, textOf, Part.text, Leaf.text]

private theorem map_display_eq (spec : Spec) (values : List Value) :
    values.map (display spec) = (partsOfEach values).map (textOf spec) := by
  cases values with
  | nil => rfl
  | cons v rest =>
    rw [List.map_cons, partsOfEach, List.map_cons, display_eq_textOf spec v,
      map_display_eq spec rest]

private theorem map_entries_eq (spec : Spec) (entries : List (Value × Value)) :
    (entries.map fun e => e.1.display .natural ++ ':' :: ' ' :: e.2.display .natural) =
      (partsOfEntries entries).map (textOf spec) := by
  cases entries with
  | nil => rfl
  | cons e rest =>
    obtain ⟨k, v⟩ := e
    simp [partsOfEntries, map_entries_eq spec rest, display_eq_textOf .natural k,
      display_eq_textOf .natural v]

end

private theorem reached_iff {v w : Value} :
    Reached v w ↔ v = w ∨ ∃ values, v = .seq values ∧ ∃ u ∈ values, Reached u w := by
  constructor
  · rintro (_ | ⟨h, more⟩)
    · exact .inl rfl
    · exact .inr ⟨_, rfl, _, h, more⟩
  · rintro (rfl | ⟨values, rfl, u, h, more⟩)
    · exact .here v
    · exact .within h more

private theorem mem_intercalate_of_notMem {α : Type} {x : α} {mark : List α} (h : x ∉ mark)
    (items : List (List α)) : x ∈ mark.intercalate items ↔ ∃ item ∈ items, x ∈ item := by
  induction items with
  | nil => simp
  | cons first rest ih =>
    cases rest with
    | nil => simp
    | cons second rest => simp [List.intercalate_cons_cons, h, ih]

private theorem leaf_mem_bracketedParts (l : Leaf) (opening closing : Char)
    (items : List (List Part)) :
    .leaf l ∈ bracketedParts opening closing items ↔ ∃ item ∈ items, .leaf l ∈ item := by
  simp [bracketedParts, mem_intercalate_of_notMem]

/-- No leaf of a key or of a value of a map is a leaf of the map. -/
theorem leaf_notMem_of_mem_partsOfEntries (l : Leaf) {entries : List (Value × Value)}
    {ps : List Part} (h : ps ∈ partsOfEntries entries) : .leaf l ∉ ps := by
  induction entries with
  | nil => simp [partsOfEntries] at h
  | cons e rest ih =>
    rcases List.mem_cons.1 h with rfl | h
    · simp [Part.freeze]
    · exact ih h

mutual

/-- The leaves of a value are the ones that sequences alone lead to. -/
theorem leaf_mem_parts_iff (l : Leaf) (v : Value) : .leaf l ∈ v.parts ↔ Reached v l.toValue := by
  rw [reached_iff]
  cases v with
  | seq values =>
    have hl : Value.seq values ≠ l.toValue := by cases l <;> simp [Leaf.toValue]
    rw [parts, leaf_mem_bracketedParts, exists_leaf_mem_partsOfEach_iff l values]
    simp [hl]
  | map entries =>
    have hl : Value.map entries ≠ l.toValue := by cases l <;> simp [Leaf.toValue]
    rw [parts, leaf_mem_bracketedParts]
    simpa [hl] using fun ps hps => leaf_notMem_of_mem_partsOfEntries l hps
  | _ => cases l <;> simp [parts, Leaf.toValue, eq_comm]

private theorem exists_leaf_mem_partsOfEach_iff (l : Leaf) (values : List Value) :
    (∃ ps ∈ partsOfEach values, .leaf l ∈ ps) ↔ ∃ v ∈ values, Reached v l.toValue := by
  cases values with
  | nil => simp [partsOfEach]
  | cons v rest =>
    simp [partsOfEach, leaf_mem_parts_iff l v, exists_leaf_mem_partsOfEach_iff l rest]

end

private theorem lookup_keys : Formatter.mapOperations.lookup "keys" =
    some fun entries => String.ofList (Value.seq (entries.map (·.1))).chars := rfl

private theorem lookup_values : Formatter.mapOperations.lookup "values" =
    some fun entries => String.ofList (Value.seq (entries.map (·.2))).chars := rfl

/-- The chain that is always there answers an operation on maps from what the map holds. -/
theorem formatArgument_map {operation : String} {f : List (Value × Value) → String}
    (h : Formatter.mapOperations.lookup operation = some f) (disk : Disk)
    (entries : List (Value × Value)) :
    Formatter.formatArgument Formatter.standard disk (.map entries) operation =
      .ok (f entries) := by
  have hop : operation ≠ "" := by
    rintro rfl
    cases h
  have hask : (Formatter.standard.findSome? fun formatter =>
      formatter disk (.map entries) operation) = some (f entries) := by
    simp [Formatter.standard, List.findSome?_cons, Formatter.texts, Formatter.collections, h]
  simp [Formatter.formatArgument, isNull, hop, hask]

/-- A layout reaches the leaves of sequences, whole and at any depth, and nothing else: the absent
value, a text, the brackets and whatever stands in a map are the same under every layout. The
description of a value has its natural text under every layout, and what a map holds is shown as
two sequences, in the order of the entries. -/
theorem layout_reaches_leaves_of_sequences (v : Value) :
    (∀ spec, v.display spec = textOf spec v.parts) ∧
    (∀ l, .leaf l ∈ v.parts ↔ Reached v l.toValue) ∧
    (∀ spec, null.display spec = "null".toList) ∧
    (∀ spec s, (text s).display spec = s.toList) ∧
    (∀ spec values, (seq values).display spec = bracketed '[' ']' (values.map (display spec))) ∧
    (∀ spec entries, (map entries).display spec = bracketed '\x7b' '\x7d' (entries.map fun e =>
      e.1.chars ++ ':' :: ' ' :: e.2.chars)) ∧
    (∀ spec, v.describe spec =
      "Value<".toList ++ v.typeName.toList ++ ">(".toList ++ textOf .natural v.parts ++ [')']) ∧
    (∀ disk entries,
      Formatter.formatArgument Formatter.standard disk (.map entries) "keys" =
        .ok (String.ofList (Value.seq (entries.map (·.1))).chars) ∧
      Formatter.formatArgument Formatter.standard disk (.map entries) "values" =
        .ok (String.ofList (Value.seq (entries.map (·.2))).chars)) := by
  refine ⟨fun spec => display_eq_textOf spec v, fun l => leaf_mem_parts_iff l v, fun _ => ?_,
    fun _ s => ?_, display_seq, display_map, fun spec => ?_, fun disk entries => ⟨?_, ?_⟩⟩
  · rw [display, displayOnto, List.append_nil]
  · rw [display, displayOnto, List.append_nil]
  · rw [← display_eq_textOf .natural v]
    rfl
  · exact formatArgument_map lookup_keys disk entries
  · exact formatArgument_map lookup_values disk entries

end EventLog.Value
