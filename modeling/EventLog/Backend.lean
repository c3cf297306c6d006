import EventLog.Error
import EventLog.Level

/-!
What takes the events of loggers: a backend acts on a state of its own, channel by channel, and
tells which levels of a channel it records. A backend of one state acts on any state that holds it.
-/
namespace EventLog

/-- A backend that acts on states `σ`. -/
structure Backend (σ : Type) where
  name : String
  isEnabled : σ → (channel : String) → Level → Bool
  log : σ → (channel : String) → Level → (text : String) → σ
  report : σ → (channel : String) → Error → σ
  flush : σ → σ := id
  shutdown : σ → σ := id

namespace Backend

variable {σ τ : Type}

def discard : Backend σ where
  name := "discard"
  isEnabled _ _ _ := false
  log s _ _ _ := s
  report s _ _ := s

/-- A backend of states `σ` at work in states that hold one. -/
def within (b : Backend σ) (get : τ → σ) (set : τ → σ → τ) : Backend τ where
  name := b.name
  isEnabled t channel level := b.isEnabled (get t) channel level
  log t channel level text := set t (b.log (get t) channel level text)
  report t channel e := set t (b.report (get t) channel e)
  flush t := set t (b.flush (get t))
  shutdown t := set t (b.shutdown (get t))

end Backend

/-- The name of a channel below another. The channel without a name adds nothing. -/
def childName (parent suffix : String) : String :=
  if parent = "" then suffix else parent ++ "." ++ suffix

end EventLog
