import EventLog.Proofs.Calendar.Dates

/-! What a local clock shows at an instant, and how it is read back from the text of that. -/
namespace EventLog

def Text.columns (start len : Nat) (line : List Char) : List Char := (line.drop start).take len

/-- A date and a time of day to the millisecond. -/
structure Clock where
  date : Date
  hour : Nat
  minute : Nat
  second : Nat
  milli : Nat
  deriving DecidableEq, Repr

namespace Clock
open Text (columns fixedDigits value)

structure Exists (c : Clock) : Prop where
  date : c.date.Exists
  hour : c.hour < 24
  minute : c.minute < 60
  second : c.second < 60
  milli : c.milli < 1000

/-- The milliseconds that have passed on the clock since its start of 1970. -/
def millis (c : Clock) : Int :=
  c.date.dayNumber * 86400000 + (((c.hour * 60 + c.minute) * 60 + c.second) * 1000 + c.milli : Nat)

/-- A date and a time as `yyyy-MM-dd HH:mm:ss.SSS`. -/
def text (c : Clock) : List Char :=
  fixedDigits 10 4 c.date.year.toNat ++ '-' :: fixedDigits 10 2 c.date.month
    ++ '-' :: fixedDigits 10 2 c.date.day ++ ' ' :: fixedDigits 10 2 c.hour
    ++ ':' :: fixedDigits 10 2 c.minute ++ ':' :: fixedDigits 10 2 c.second
    ++ '.' :: fixedDigits 10 3 c.milli

def read (cs : List Char) : Clock where
  date := ⟨value 10 (columns 0 4 cs), value 10 (columns 5 2 cs), value 10 (columns 8 2 cs)⟩
  hour := value 10 (columns 11 2 cs)
  minute := value 10 (columns 14 2 cs)
  second := value 10 (columns 17 2 cs)
  milli := value 10 (columns 20 3 cs)

@[simp] theorem length_text (c : Clock) : c.text.length = 23 := by simp [text]

theorem read_text {c : Clock} (h : c.Exists) (hyear : c.date.HasFourDigits) :
    read c.text = c := by
  have hyears : (c.date.year.toNat : Int) = c.date.year ∧ c.date.year.toNat < Nat.pow 10 4 := by
    have hfour : Nat.pow 10 4 = 10000 := rfl
    unfold Date.HasFourDigits at hyear
    omega
  have htwo {n : Nat} (hn : n < 100) : value 10 (fixedDigits 10 2 n) = n :=
    Text.value_fixedDigits (by decide) hn
  have hdate : columns 0 4 c.text = fixedDigits 10 4 c.date.year.toNat ∧
      columns 5 2 c.text = fixedDigits 10 2 c.date.month ∧
      columns 8 2 c.text = fixedDigits 10 2 c.date.day := by
    simp [text, columns, List.drop_append, List.drop_of_length_le]
  have htime : columns 11 2 c.text = fixedDigits 10 2 c.hour ∧
      columns 14 2 c.text = fixedDigits 10 2 c.minute ∧
      columns 17 2 c.text = fixedDigits 10 2 c.second ∧
      columns 20 3 c.text = fixedDigits 10 3 c.milli := by
    simp [text, columns, List.drop_append, List.drop_of_length_le, List.take_of_length_le]
  obtain ⟨hyearCut, hmonthCut, hdayCut⟩ := hdate
  obtain ⟨hhourCut, hminuteCut, hsecondCut, hmilliCut⟩ := htime
  have hyear' : value 10 (fixedDigits 10 4 c.date.year.toNat) = c.date.year.toNat :=
    Text.value_fixedDigits (by decide) hyears.2
  have hmilli : value 10 (fixedDigits 10 3 c.milli) = c.milli :=
    Text.value_fixedDigits (by decide) h.milli
  have hmonth := h.date.month
  have hday := h.date.day_le
  have hhour := h.hour
  have hminute := h.minute
  have hsecond := h.second
  rw [read, hyearCut, hmonthCut, hdayCut, hhourCut, hminuteCut, hsecondCut, hmilliCut, hyear',
    hyears.1, hmilli, htwo (by omega), htwo (by omega), htwo (by omega), htwo (by omega),
    htwo (by omega)]

end Clock

namespace Instant

def clock (t : Instant) (zone : Zone) : Clock where
  date := t.date zone
  hour := t.milliOfDay zone / 3600000
  minute := t.milliOfDay zone / 60000 % 60
  second := t.milliOfDay zone / 1000 % 60
  milli := t.milliOfDay zone % 1000

variable (t : Instant) (zone : Zone)

theorem exists_clock : (t.clock zone).Exists := by
  have hlt := t.milliOfDay_lt zone
  exact ⟨Date.exists_ofDayNumber _, by simp only [clock]; omega, Nat.mod_lt _ (by decide),
    Nat.mod_lt _ (by decide), Nat.mod_lt _ (by decide)⟩

/-- The clock shows the time that has passed, cut to the millisecond. -/
theorem millis_clock : (t.clock zone).millis = (t.localNanos zone).fdiv milli := by
  have hlocal := t.millis_of_local zone
  have hparts : ((t.milliOfDay zone / 3600000 * 60 + t.milliOfDay zone / 60000 % 60) * 60 +
      t.milliOfDay zone / 1000 % 60) * 1000 + t.milliOfDay zone % 1000 = t.milliOfDay zone := by
    omega
  have hcut : (t.localNanos zone).fdiv milli = t.nanos.fdiv milli + zone.ahead * 1000 := by
    rw [Int.fdiv_eq_ediv_of_nonneg _ (by decide), Int.fdiv_eq_ediv_of_nonneg _ (by decide)]
    simp only [localNanos, milli]
    omega
  rw [Clock.millis, hcut, hlocal]
  simp only [clock, hparts, date, Date.dayNumber_ofDayNumber]

theorem text_eq_clock (h : (t.date zone).HasFourDigits) : t.text zone = (t.clock zone).text := by
  rw [text, Date.text_of_fourDigits h]
  simp [timeOfDayText, clock, Clock.text]

end Instant

end EventLog
