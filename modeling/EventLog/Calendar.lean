import EventLog.Text.Digits

/-!
Instants, and the calendar date and the time of day that a clock a fixed distance from UTC shows at
them. Dates are those of the Gregorian calendar, before its introduction as well.
-/
namespace EventLog

/-- A point in time, in nanoseconds since the start of 1970 in UTC. -/
structure Instant where
  nanos : Int := 0
  deriving DecidableEq, Repr, Inhabited

/-- How many seconds the clocks of a place are ahead of UTC. -/
structure Zone where
  ahead : Int := 0
  deriving DecidableEq, Repr, Inhabited

/-- A day of the week, counted from Sunday. -/
abbrev Weekday := Fin 7

structure Date where
  year : Int
  month : Nat
  day : Nat
  deriving DecidableEq, Repr

namespace Instant

def milli : Int := 1000000

def dayLength : Int := 86400000000000

/-- The milliseconds since the start of 1970, cut toward it. -/
def millis (t : Instant) : Int := t.nanos.tdiv milli

/-- What a local clock shows, in nanoseconds since its own start of 1970. -/
def localNanos (t : Instant) (z : Zone) : Int := t.nanos + z.ahead * 1000000000

/-- The number of the local day, that of 1970-01-01 being zero. -/
def dayNumber (t : Instant) (z : Zone) : Int := (t.localNanos z).fdiv dayLength

def milliOfDay (t : Instant) (z : Zone) : Nat :=
  (((t.localNanos z).fmod dayLength).fdiv milli).toNat

/-- The local day of the week. The first day of 1970 was a Thursday. -/
def weekday (t : Instant) (z : Zone) : Weekday :=
  Fin.ofNat 7 ((t.dayNumber z + 4).fmod 7).toNat

end Instant

namespace Date

/-- The days of the four hundred years after which dates repeat. -/
def cycleLength : Int := 146097

/-- The date of a numbered day. Years are counted from March here, so that a leap day ends one. -/
def ofDayNumber (n : Int) : Date :=
  let fromMarch := n + 719468
  let cycle := fromMarch.fdiv cycleLength
  let dayOfCycle := (fromMarch.fmod cycleLength).toNat
  let yearOfCycle :=
    (dayOfCycle - dayOfCycle / 1460 + dayOfCycle / 36524 - dayOfCycle / 146096) / 365
  let dayOfYear := dayOfCycle - (365 * yearOfCycle + yearOfCycle / 4 - yearOfCycle / 100)
  let shifted := (5 * dayOfYear + 2) / 153
  let month := if shifted < 10 then shifted + 3 else shifted - 9
  { year := yearOfCycle + cycle * 400 + (if month ≤ 2 then 1 else 0)
    month := month
    day := dayOfYear - (153 * shifted + 2) / 5 + 1 }

/-- A year at least four characters wide. The minus sign of a year below zero is one of them. -/
def yearText (year : Int) : List Char :=
  if year < 0 then '-' :: Text.paddedDecimal 3 year.natAbs else Text.paddedDecimal 4 year.natAbs

def layout : String := "%Y-%m-%d"

/-- A date as `yyyy-MM-dd`. -/
def text (d : Date) : List Char :=
  yearText d.year ++ '-' :: Text.fixedDigits 10 2 d.month ++ '-' :: Text.fixedDigits 10 2 d.day

end Date

namespace Instant

def date (t : Instant) (z : Zone) : Date := Date.ofDayNumber (t.dayNumber z)

/-- The local time of day as `HH:mm:ss.SSS`. -/
def timeOfDayText (t : Instant) (z : Zone) : List Char :=
  let n := t.milliOfDay z
  Text.fixedDigits 10 2 (n / 3600000) ++ ':' :: Text.fixedDigits 10 2 (n / 60000 % 60)
    ++ ':' :: Text.fixedDigits 10 2 (n / 1000 % 60) ++ '.' :: Text.fixedDigits 10 3 (n % 1000)

def layout : String := "%Y-%m-%d %H:%M:%S.%3f"

def text (t : Instant) (z : Zone) : List Char := (t.date z).text ++ ' ' :: t.timeOfDayText z

end Instant

end EventLog
