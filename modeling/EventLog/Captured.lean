import EventLog.Level
import EventLog.Text.Digits

/-!
Values that bring their own text: shown plainly or described, with the name of their type. A
described list lays out every element alike, and takes a line for each under the alternate layout.
-/
namespace EventLog

/-- A value that brings its own text, and the name of its type. -/
structure Captured where
  render : Spec → String
  typeName : String

namespace Captured

/-- A text that no layout changes. -/
def verbatim (typeName text : String) : Captured := ⟨fun _ => text, typeName⟩

/-- A text laid out as text. -/
def plain (typeName text : String) : Captured :=
  ⟨fun spec => String.ofList (spec.layText text.toList), typeName⟩

def quoted (typeName text : String) : Captured :=
  verbatim typeName (String.ofList (Text.quoted text.toList))

def integerText (spec : Spec) (n : Int) : List Char :=
  spec.layNumber (spec.sign (n < 0)) (Text.decimal n.natAbs)

def integer (typeName : String) (n : Int) : Captured :=
  ⟨fun spec => String.ofList (integerText spec n), typeName⟩

/-- A level, which is described as it is shown. -/
def level (typeName : String) (l : Level) : Captured := ⟨fun spec => l.display spec, typeName⟩

/-- Items between brackets, on lines of their own if `broken`. -/
def enclosed (broken : Bool) (opening closing : List Char) (items : List (List Char)) : List Char :=
  if items.isEmpty then opening ++ closing
  else if broken then
    opening ++ '\n' :: items.flatMap (fun item => "    ".toList ++ item ++ [',', '\n']) ++ closing
  else opening ++ List.intercalate [',', ' '] items ++ closing

def integers (typeName : String) (ns : List Int) : Captured :=
  ⟨fun spec =>
    String.ofList (enclosed spec.alternate ['['] [']'] (ns.map (integerText spec))), typeName⟩

def integer? (typeName : String) (n : Option Int) : Captured :=
  match n with
  | none => verbatim typeName "None"
  | some n =>
    ⟨fun spec =>
      String.ofList (enclosed spec.alternate "Some(".toList [')'] [integerText spec n]), typeName⟩

end Captured

end EventLog
