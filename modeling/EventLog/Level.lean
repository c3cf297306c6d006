import EventLog.Error
import EventLog.Text.Blank
import EventLog.Text.Spec

/-!
Severity levels in their total order, the gate they form, and their names.
-/
namespace EventLog

inductive Level where
  | trace
  | debug
  | info
  | warn
  | error
  | fatal
  deriving DecidableEq, Repr, Inhabited

namespace Level

def all : List Level := [trace, debug, info, warn, error, fatal]

def rank : Level → Nat
  | trace => 0
  | debug => 1
  | info => 2
  | warn => 3
  | error => 4
  | fatal => 5

instance : LT Level := ⟨fun a b => a.rank < b.rank⟩
instance : LE Level := ⟨fun a b => a.rank ≤ b.rank⟩
instance (a b : Level) : Decidable (a < b) := inferInstanceAs (Decidable (a.rank < b.rank))
instance (a b : Level) : Decidable (a ≤ b) := inferInstanceAs (Decidable (a.rank ≤ b.rank))

def name : Level → String
  | trace => "TRACE"
  | debug => "DEBUG"
  | info => "INFO"
  | warn => "WARN"
  | error => "ERROR"
  | fatal => "FATAL"

def passes (level threshold : Level) : Bool := decide (threshold ≤ level)

def display (spec : Spec) (level : Level) : String :=
  String.ofList (spec.layText level.name.toList)

/-- Equality of texts up to the case of ASCII letters. -/
def sameIgnoringCase (a b : List Char) : Bool := a.map Char.toLower == b.map Char.toLower

/-- The level that a text names: blanks around the name and the case of its letters are free. -/
def parse? (s : String) : Option Level :=
  all.find? fun level => sameIgnoringCase (Text.trimChars s.toList) level.name.toList

def read (s : String) : Except Error Level :=
  match parse? s with
  | some level => .ok level
  | none =>
    .error
      { kind := .invalidLevel, message := "malformed level", context := [("level", Text.trim s)] }

end Level

end EventLog
