import EventLog.Calendar
import EventLog.Level
import EventLog.Text.Lines

/-!
Events as they stand in log files: every line of the text of an event has the same header before it,
which names the event's number, level, time and channel.
-/
namespace EventLog

structure Event where
  sequence : UInt64
  level : Level
  time : Instant
  channel : String
  text : String
  deriving DecidableEq, Repr

namespace Event

def delimiter : String := "::"

def levelLayout : Spec := { side := some .left, width := some 5 }

def header (zone : Zone) (e : Event) : List Char :=
  Text.hex16 e.sequence ++ delimiter.toList ++ (e.level.display levelLayout).toList
    ++ delimiter.toList ++ e.time.text zone ++ delimiter.toList ++ e.channel.toList
    ++ delimiter.toList

/-- The texts that get a line of their own: the lines of the text that are not empty, or an empty
one if there are none. -/
def bodies (e : Event) : List (List Char) :=
  match (Text.lines e.text.toList).filter (· ≠ []) with
  | [] => [[]]
  | lines => lines

/-- What an event adds to a file, in the pieces that are handed over one by one. -/
def pieces (zone : Zone) (e : Event) : List (List Char) :=
  let header := e.header zone
  e.bodies.flatMap fun body => [header, body, ['\n']]

def lines (zone : Zone) (e : Event) : List Char := (e.pieces zone).flatten

end Event

end EventLog
