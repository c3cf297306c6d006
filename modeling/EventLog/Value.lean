import EventLog.Captured
import EventLog.Decimal.Shortest
import EventLog.Disk.Path

/-!
The arguments of a log call. A value has one natural text; a layout reaches the leaves that stand in
sequences alone, and nothing inside a map.
-/
namespace EventLog

inductive Value where
  | null
  | bool (b : Bool)
  | char (c : Char)
  | int (n : Int64)
  | nat (n : UInt64)
  | float (x : Binary64)
  | text (s : String)
  | seq (values : List Value)
  | map (entries : List (Value × Value))
  | path (p : Path)
  | failure (error : Captured) (causes : List String)
  | captured (value : Captured)
  deriving Inhabited

namespace Value

def typeName : Value → String
  | null => "null"
  | bool _ => "bool"
  | char _ => "char"
  | int _ => "i64"
  | nat _ => "u64"
  | float _ => "f64"
  | text _ => "str"
  | seq _ => "seq"
  | map _ => "map"
  | path _ => "std::path::Path"
  | failure error _ => error.typeName
  | captured value => value.typeName

def isNull : Value → Bool
  | null => true
  | _ => false

def flag (b : Bool) : List Char := if b then "true".toList else "false".toList

def bracketed (opening closing : Char) (items : List (List Char)) : List Char :=
  opening :: List.intercalate [',', ' '] items ++ [closing]

mutual

/-- The text of a value under a layout, and more text after it. -/
def displayOnto (spec : Spec) : Value → List Char → List Char
  | null, more => "null".toList ++ more
  | bool b, more => spec.layText (flag b) ++ more
  | char c, more => spec.layText [c] ++ more
  | int n, more => Captured.integerText spec n.toInt ++ more
  | nat n, more => Captured.integerText spec n.toNat ++ more
  | float x, more => x.display spec ++ more
  | text s, more => s.toList ++ more
  | seq values, more => '[' :: displayEachOnto spec [] values (']' :: more)
  | map entries, more => '\x7b' :: displayEntriesOnto [] entries ('\x7d' :: more)
  | path p, more => p.display spec ++ more
  | failure error _, more => (error.render spec).toList ++ more
  | captured value, more => (value.render spec).toList ++ more

/-- The texts of some values, all under one layout, with `mark` before the first and a comma before
every other. -/
def displayEachOnto (spec : Spec) (mark : List Char) : List Value → List Char → List Char
  | [], more => more
  | v :: rest, more => mark ++ displayOnto spec v (displayEachOnto spec [',', ' '] rest more)

/-- The natural texts of the entries of a map, with the same marks. -/
def displayEntriesOnto (mark : List Char) : List (Value × Value) → List Char → List Char
  | [], more => more
  | (k, v) :: rest, more =>
    mark ++ displayOnto .natural k
      (':' :: ' ' :: displayOnto .natural v (displayEntriesOnto [',', ' '] rest more))

end

def display (spec : Spec) (v : Value) : List Char := v.displayOnto spec []

mutual

private theorem displayOnto_append (spec : Spec) (v : Value) (more after : List Char) :
    v.displayOnto spec (more ++ after) = v.displayOnto spec more ++ after := by
  cases v with
  | seq values => simp [displayOnto, ← displayEachOnto_append spec [] values (']' :: more) after]
  | map entries => simp [displayOnto, ← displayEntriesOnto_append [] entries ('\x7d' :: more) after]
  | _ => simp [displayOnto]

private theorem displayEachOnto_append (spec : Spec) (mark : List Char) (values : List Value)
    (more after : List Char) :
    displayEachOnto spec mark values (more ++ after)
      = displayEachOnto spec mark values more ++ after := by
  cases values with
  | nil => rfl
  | cons v rest =>
    simp [displayEachOnto, displayEachOnto_append spec [',', ' '] rest more after,
      displayOnto_append spec v _ after]

private theorem displayEntriesOnto_append (mark : List Char) (entries : List (Value × Value))
    (more after : List Char) :
    displayEntriesOnto mark entries (more ++ after)
      = displayEntriesOnto mark entries more ++ after := by
  cases entries with
  | nil => rfl
  | cons e rest =>
    obtain ⟨k, v⟩ := e
    have hv := displayOnto_append .natural v (displayEntriesOnto [',', ' '] rest more) after
    have hk := displayOnto_append .natural k
      (':' :: ' ' :: displayOnto .natural v (displayEntriesOnto [',', ' '] rest more)) after
    simp only [displayEntriesOnto, displayEntriesOnto_append [',', ' '] rest more after, hv]
    simpa using hk

end

/-- What comes after a value changes nothing in its text. -/
theorem displayOnto_eq (spec : Spec) (v : Value) (more : List Char) :
    v.displayOnto spec more = v.display spec ++ more := by
  simpa [display] using displayOnto_append spec v [] more

private theorem displayEachOnto_comma (spec : Spec) (values : List Value) (more : List Char) :
    displayEachOnto spec [',', ' '] values more
      = (values.flatMap fun v => ',' :: ' ' :: v.display spec) ++ more := by
  induction values with
  | nil => rfl
  | cons v rest ih => simp [displayEachOnto, displayOnto_eq, ih]

private theorem displayEntriesOnto_comma (entries : List (Value × Value)) (more : List Char) :
    displayEntriesOnto [',', ' '] entries more
      = (entries.flatMap fun e =>
          ',' :: ' ' :: (e.1.display .natural ++ ':' :: ' ' :: e.2.display .natural)) ++ more := by
  induction entries with
  | nil => rfl
  | cons e rest ih => simp [displayEntriesOnto, displayOnto_eq, ih]

private theorem intercalate_cons {α : Type} (mark first : List α) (rest : List (List α)) :
    mark.intercalate (first :: rest) = first ++ rest.flatMap (mark ++ ·) := by
  induction rest generalizing first with
  | nil => simp
  | cons second rest ih => simp [List.intercalate_cons_cons, ih]

/-- A sequence is its elements under the same layout, between brackets. -/
theorem display_seq (spec : Spec) (values : List Value) :
    (seq values).display spec = bracketed '[' ']' (values.map (display spec)) := by
  cases values with
  | nil => rfl
  | cons v rest =>
    rw [display]
    simp [displayOnto, displayEachOnto, bracketed, intercalate_cons, displayEachOnto_comma,
      displayOnto_eq, List.flatMap_map]

/-- A map is the natural texts of its keys and values, between braces. -/
theorem display_map (spec : Spec) (entries : List (Value × Value)) :
    (map entries).display spec = bracketed '\x7b' '\x7d' (entries.map fun e =>
      e.1.display .natural ++ ':' :: ' ' :: e.2.display .natural) := by
  cases entries with
  | nil => rfl
  | cons e rest =>
    rw [display]
    simp [displayOnto, displayEntriesOnto, bracketed, intercalate_cons,
      displayEntriesOnto_comma, displayOnto_eq, List.flatMap_map]

def chars (v : Value) : List Char := v.display .natural

/-- The natural text of a value with the name of its type. A layout has no part in it: both are
written anew, each by itself. -/
def describe (v : Value) (_spec : Spec := .natural) : List Char :=
  "Value<".toList ++ v.typeName.toList ++ ">(".toList ++ v.chars ++ [')']

/-- Entries with the one of a key in its place: the keys ascend, and the last entry of a key
stays. -/
def putEntry {κ : Type} (before : κ → κ → Bool) (key : κ) (v : Value) :
    List (κ × Value) → List (κ × Value)
  | [] => [(key, v)]
  | (k, w) :: rest =>
    if before key k then (key, v) :: (k, w) :: rest
    else if before k key then (k, w) :: putEntry before key v rest
    else (key, v) :: rest

/-- The map with some entries in the order of their keys, where the last one of a key counts. -/
def ofDictionary {κ : Type} (before : κ → κ → Bool) (keyValue : κ → Value)
    (entries : List (κ × Value)) : Value :=
  .map ((entries.foldl (fun sorted e => putEntry before e.1 e.2 sorted) []).map
    fun e => (keyValue e.1, e.2))

/-- The map with text keys in the order of their characters. -/
def ofTextEntries (entries : List (String × Value)) : Value :=
  ofDictionary (fun a b => decide (a < b)) .text entries

def ofIntegerEntries (entries : List (Int64 × Value)) : Value :=
  ofDictionary (fun a b => decide (a < b)) .int entries

end Value

end EventLog
