import EventLog.Disk.Files
import EventLog.Value

/-!
Named operations on arguments. A formatter answers the operations of one family of values, and a
chain asks its formatters in order until one answers.
-/
namespace EventLog

/-- Answers an operation on a value, or nothing if either is not its own. What stands on the disk
may decide the answer. -/
abbrev Formatter := Disk → Value → String → Option String

namespace Formatter

/-- A formatter that knows one operation and gives one answer, whatever the value. -/
def fixed (operation answer : String) : Formatter := fun _ _ asked =>
  if asked = operation then some answer else none

def unsupported (v : Value) (operation : String) : Error :=
  { kind := .unsupportedFormatOperation
    message := "no argument formatter supports the operation"
    context := [("type", v.typeName), ("operation", operation)] }

/-- An argument as a placeholder shows it: the absent value is `null` under every operation, and no
operation asks for the natural text. -/
def formatArgument (chain : List Formatter) (disk : Disk) (v : Value) (operation : String) :
    Except Error String :=
  if v.isNull then .ok "null"
  else if operation = "" then .ok (String.ofList v.chars)
  else match chain.findSome? fun formatter => formatter disk v operation with
    | some text => .ok text
    | none => .error (unsupported v operation)

end Formatter

end EventLog
