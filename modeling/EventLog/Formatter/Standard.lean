import EventLog.Formatter.Paths
import EventLog.Text.Blank
import EventLog.Text.Case
import EventLog.Text.Lines

/-!
The families of operations every chain starts with: texts, collections, errors, paths and type
names.
-/
namespace EventLog.Formatter

def textOperations : List (String × (String → String)) :=
  [ ("isEmpty", fun s => String.ofList (Value.flag s.isEmpty)),
    ("length", fun s => Text.number s.length),
    ("trim", Text.trim),
    ("toLowerCase", Text.lower),
    ("toUpperCase", Text.upper) ]

def texts : Formatter := fun _ v operation =>
  match v with
  | .text s => (textOperations.lookup operation).map (· s)
  | _ => none

def sequenceOperations : List (String × (List Value → String)) :=
  [ ("size", fun values => Text.number values.length),
    ("isEmpty", fun values => String.ofList (Value.flag values.isEmpty)) ]

def mapOperations : List (String × (List (Value × Value) → String)) :=
  [ ("size", fun entries => Text.number entries.length),
    ("isEmpty", fun entries => String.ofList (Value.flag entries.isEmpty)),
    ("keys", fun entries => String.ofList (Value.seq (entries.map (·.1))).chars),
    ("values", fun entries => String.ofList (Value.seq (entries.map (·.2))).chars) ]

def collections : Formatter := fun _ v operation =>
  match v with
  | .seq values => (sequenceOperations.lookup operation).map (· values)
  | .map entries => (mapOperations.lookup operation).map (· entries)
  | _ => none

/-- An error and what caused it, each on a line. -/
def stackTrace (error : Captured) (causes : List String) : String :=
  error.typeName ++ ": " ++ error.render .natural
    ++ "".intercalate (causes.map fun cause => "\ncaused by: " ++ cause)

def failureOperations : List (String × (Captured → List String → String)) :=
  [ ("message", fun error _ => error.render .natural),
    ("stackTrace", stackTrace) ]

def failures : Formatter := fun _ v operation =>
  match v with
  | .failure error causes => (failureOperations.lookup operation).map fun f => f error causes
  | _ => none

/-- A type name up to its arguments. -/
def basePath (typeName : String) : List Char := typeName.toList.takeWhile (· ≠ '<')

def simpleName (typeName : String) : String :=
  String.ofList ((Text.segmentsFromEnd (basePath typeName)).headD [])

def moduleName (typeName : String) : String :=
  String.ofList (((Text.cutAtLastMark (basePath typeName)).map (·.1)).getD [])

def typeOperations : List (String × (String → String)) :=
  [ ("type", id),
    ("type.name", id),
    ("type.simpleName", simpleName),
    ("type.module", moduleName) ]

/-- Answers the operations on the type of any value. -/
def types : Formatter := fun _ v operation => (typeOperations.lookup operation).map (· v.typeName)

/-- The chain every other chain starts from. -/
def standard : List Formatter := [texts, collections, failures, paths, types]

end EventLog.Formatter
