import EventLog.Frame
import EventLog.Text.Digits

/-!
Where a log call stands, as far as it is known.
-/
namespace EventLog

/-- The place of a log call: the lines of the stack are those of a rendered one, innermost frame
first, and a thread may have no name. -/
structure CallSite where
  file : String
  line : Nat
  module? : Option String := none
  function? : Option String := none
  stack : List String := []
  thread? : Option String := some "main"
  deriving Repr

namespace CallSite

def methodName? (site : CallSite) : Option String :=
  (site.function?.bind fun path => Frame.nameInPath? path.toList).map String.ofList

/-- The function that made the call: its path says so, or else the stack. -/
def method? (site : CallSite) : Option String :=
  match site.methodName? with
  | some name => some name
  | none => (Frame.nameOnStack? site.stack).map String.ofList

def location (site : CallSite) : String := site.file ++ ":" ++ Text.number site.line

end CallSite

end EventLog
