import EventLog.Proofs.Calendar
import EventLog.Proofs.Text.Numerals
import EventLog.Proofs.Text.Order
import Mathlib.Tactic.IntervalCases

/-! Dates as they follow each other. The date of every numbered day is one of the Gregorian
calendar, and that of a later day is later; so are their texts, for years of four digits. -/
namespace EventLog.Date

def isLeap (year : Int) : Bool := year % 4 = 0 ∧ (year % 100 ≠ 0 ∨ year % 400 = 0)

def monthLength (year : Int) (month : Nat) : Nat :=
  if month = 2 then (if isLeap year then 29 else 28)
  else if month = 4 ∨ month = 6 ∨ month = 9 ∨ month = 11 then 30
  else 31

structure Exists (d : Date) : Prop where
  month : 1 ≤ d.month ∧ d.month ≤ 12
  day : 1 ≤ d.day ∧ d.day ≤ monthLength d.year d.month

def HasFourDigits (d : Date) : Prop := 0 ≤ d.year ∧ d.year ≤ 9999

instance (d : Date) : Decidable d.HasFourDigits :=
  inferInstanceAs (Decidable (0 ≤ d.year ∧ d.year ≤ 9999))

theorem Exists.day_le {d : Date} (h : d.Exists) : d.day ≤ 31 := by
  refine h.day.2.trans ?_
  unfold monthLength
  split_ifs <;> omega

def Earlier (a b : Date) : Prop :=
  a.year < b.year ∨ a.year = b.year ∧ (a.month < b.month ∨ a.month = b.month ∧ a.day < b.day)

/-- The date of a day that is given by a year that began in March, and its place in that. -/
def ofParts (year : Int) (dayOfYear : Nat) : Date :=
  let shifted := (5 * dayOfYear + 2) / 153
  let month := if shifted < 10 then shifted + 3 else shifted - 9
  ⟨year + (if month ≤ 2 then 1 else 0), month, dayOfYear - (153 * shifted + 2) / 5 + 1⟩

private theorem year_ends (day : Nat) (h : day < 146097) {year dayOfYear : Nat}
    (hy : year = (day - day / 1460 + day / 36524 - day / 146096) / 365)
    (hd : dayOfYear = day - (365 * year + year / 4 - year / 100)) :
    dayOfYear ≤ 365 ∧ (dayOfYear = 365 → isLeap (year + 1 : Nat)) := by
  obtain ⟨hyear, hle, -⟩ := year_bounds day h hy
  rcases Nat.lt_or_ge day 146096 with hday | hday
  · have hlate : day / 146096 = 0 := Nat.div_eq_of_lt hday
    rw [hlate] at hy
    have hcentury : day / 36524 = year / 100 := by omega
    have hfour : day / 1460 ≤ year / 4 + 1 := by omega
    refine ⟨by omega, fun hlast => ?_⟩
    have hleap : day / 1460 = year / 4 + 1 := by omega
    have hthird : year % 4 = 3 := by omega
    have hhundred : year % 100 ≠ 99 := by omega
    simp only [isLeap, decide_eq_true_eq]
    omega
  · obtain rfl : day = 146096 := by omega
    obtain rfl : year = 399 := by omega
    exact ⟨by omega, fun _ => rfl⟩

private theorem parts_lt {a b yearA yearB : Nat} (hb : b < 146097) (h : a < b)
    (ha : yearA = (a - a / 1460 + a / 36524 - a / 146096) / 365)
    (hb' : yearB = (b - b / 1460 + b / 36524 - b / 146096) / 365) : yearA ≤ yearB := by
  have hcentury : a / 36524 - a / 146096 ≤ b / 36524 - b / 146096 := by omega
  have hfour : a - a / 1460 ≤ b - b / 1460 := by omega
  omega

private theorem exists_parts (n : Int) : ∃ (cycle : Int) (year dayOfYear day : Nat),
    n + 719468 = cycle * cycleLength + day ∧ day < 146097 ∧
    year = (day - day / 1460 + day / 36524 - day / 146096) / 365 ∧
    dayOfYear = day - (365 * year + year / 4 - year / 100) ∧
    ofDayNumber n = ofParts (year + cycle * 400) dayOfYear := by
  have hcycle : (n + 719468).fdiv cycleLength * cycleLength + (n + 719468).fmod cycleLength =
      n + 719468 := Int.fdiv_mul_add_fmod _ _
  have hnonneg : 0 ≤ (n + 719468).fmod cycleLength := Int.fmod_nonneg_of_pos _ (by decide)
  have hlt : (n + 719468).fmod cycleLength < cycleLength := Int.fmod_lt_of_pos _ (by decide)
  obtain ⟨day, hday⟩ := Int.eq_ofNat_of_zero_le hnonneg
  rw [hday] at hcycle hlt
  refine ⟨(n + 719468).fdiv cycleLength, _, _, day, hcycle.symm, Int.ofNat_lt.mp hlt, rfl, rfl, ?_⟩
  unfold ofDayNumber
  simp only [hday, Int.toNat_natCast]
  rfl

private theorem isLeap_add_cycles (year cycle : Int) :
    isLeap (year + cycle * 400) = isLeap year := by
  simp only [isLeap, decide_eq_decide]
  omega

private theorem exists_ofParts {year : Int} {dayOfYear : Nat} (h : dayOfYear ≤ 365)
    (hlast : dayOfYear = 365 → isLeap (year + 1)) : (ofParts year dayOfYear).Exists := by
  rcases Nat.lt_or_eq_of_le h with hday | rfl
  · obtain ⟨shifted, hshifted⟩ : ∃ shifted, shifted = (5 * dayOfYear + 2) / 153 := ⟨_, rfl⟩
    have hle : shifted ≤ 11 := by omega
    constructor
    · simp only [ofParts, ← hshifted]
      split <;> omega
    · simp only [ofParts, ← hshifted, monthLength]
      have hfebruary : 28 ≤ if isLeap (year + 1) then 29 else 28 := by split <;> omega
      clear hlast
      interval_cases shifted
      all_goals norm_num
      all_goals omega
  · exact ⟨by simp [ofParts], by simp [ofParts, monthLength, hlast rfl]⟩

/-- Every day has a date that the calendar has. -/
theorem exists_ofDayNumber (n : Int) : (ofDayNumber n).Exists := by
  obtain ⟨cycle, year, dayOfYear, day, -, hlt, hyear, hday, heq⟩ := exists_parts n
  obtain ⟨hle, hlast⟩ := year_ends day hlt hyear hday
  rw [heq]
  refine exists_ofParts hle fun hend => ?_
  rw [Int.add_right_comm, isLeap_add_cycles]
  exact hlast hend

private theorem earlier_ofParts {year year' : Int} {day day' : Nat} (hday : day ≤ 365)
    (hday' : day' ≤ 365) (h : year < year' ∨ year = year' ∧ day < day') :
    (ofParts year day).Earlier (ofParts year' day') := by
  -- January and February belong to the year after the one that they end.
  obtain ⟨shifted, hshifted⟩ : ∃ shifted, shifted = (5 * day + 2) / 153 := ⟨_, rfl⟩
  obtain ⟨shifted', hshifted'⟩ : ∃ shifted', shifted' = (5 * day' + 2) / 153 := ⟨_, rfl⟩
  have hle : shifted ≤ 11 := by omega
  have hle' : shifted' ≤ 11 := by omega
  simp only [Earlier, ofParts, ← hshifted, ← hshifted']
  rcases h with h | ⟨rfl, h⟩
  · split_ifs <;> omega
  · have hmonth : shifted ≤ shifted' := by omega
    split_ifs <;> omega

private theorem cycle_cases {cycle cycle' : Int} {day day' : Nat} (hday : day < 146097)
    (hday' : day' < 146097) (h : cycle * 146097 + day < cycle' * 146097 + day') :
    cycle < cycle' ∨ cycle = cycle' ∧ day < day' := by omega

/-- A later day has a later date. -/
theorem earlier_ofDayNumber {m n : Int} (h : m < n) :
    (ofDayNumber m).Earlier (ofDayNumber n) := by
  obtain ⟨cycle, year, dayOfYear, day, hm, hlt, hyear, hday, heq⟩ := exists_parts m
  obtain ⟨cycle', year', dayOfYear', day', hn, hlt', hyear', hday', heq'⟩ := exists_parts n
  obtain ⟨hle, -⟩ := year_ends day hlt hyear hday
  obtain ⟨hle', -⟩ := year_ends day' hlt' hyear' hday'
  obtain ⟨hbound, hstart, -⟩ := year_bounds day hlt hyear
  rw [heq, heq']
  apply earlier_ofParts hle hle'
  have hcycles : cycle * cycleLength + day < cycle' * cycleLength + day' := by
    rw [← hm, ← hn]
    exact Int.add_lt_add_right h _
  rcases cycle_cases hlt hlt' hcycles with hcycle | ⟨rfl, hdays⟩
  · exact .inl (by clear hyear hyear' hday hday'; omega)
  · rcases Nat.lt_or_eq_of_le (parts_lt hlt' hdays hyear hyear') with hlater | rfl
    · exact .inl (by clear hyear hyear' hday hday'; omega)
    · refine .inr ⟨rfl, ?_⟩
      rw [hday, hday']
      clear hyear hyear' hday hday'
      omega

theorem text_of_fourDigits {d : Date} (h : d.HasFourDigits) :
    d.text = Text.fixedDigits 10 4 d.year.toNat ++ '-' :: Text.fixedDigits 10 2 d.month
      ++ '-' :: Text.fixedDigits 10 2 d.day := by
  obtain ⟨hnonneg, hle⟩ := h
  have hpow : Nat.pow 10 (3 + 1) = 10000 := rfl
  have habs : d.year.natAbs = d.year.toNat := by omega
  rw [text, yearText, if_neg (Int.not_lt.mpr hnonneg), habs,
    Text.paddedDecimal_eq_fixedDigits (by omega)]

/-- The texts of dates come in the order of these, as long as four digits spell the years. -/
theorem Earlier.sooner_text {a b : Date} (h : a.Earlier b) (ha : a.HasFourDigits)
    (hb : b.HasFourDigits) (hexists : b.Exists) : Text.Sooner a.text b.text := by
  have hfour : Nat.pow 10 4 = 10000 := rfl
  have htwo : Nat.pow 10 2 = 100 := rfl
  have hmonth := hexists.month.2
  have hday := hexists.day_le
  rw [text_of_fourDigits ha, text_of_fourDigits hb]
  unfold HasFourDigits at ha hb
  rcases h with hyear | ⟨hyear, hmonths | ⟨hmonths, hdays⟩⟩
  · exact ((Text.sooner_fixedDigits (by decide) (by omega) (by omega)).append _ _).append _ _
  · rw [hyear]
    have hlater : Text.Sooner (Text.fixedDigits 10 2 a.month) (Text.fixedDigits 10 2 b.month) :=
      Text.sooner_fixedDigits (by decide) (by omega) hmonths
    exact ((hlater.append_left ['-']).append_left _).append _ _
  · rw [hyear, hmonths]
    have hlater : Text.Sooner (Text.fixedDigits 10 2 a.day) (Text.fixedDigits 10 2 b.day) :=
      Text.sooner_fixedDigits (by decide) (by omega) hdays
    exact (hlater.append_left ['-']).append_left _

end EventLog.Date

namespace EventLog

/-- Whether a clock is less than 26 hours ahead of UTC or behind it, as every clock is that can be
set. -/
def Zone.InRange (zone : Zone) : Prop := -93600 < zone.ahead ∧ zone.ahead < 93600

instance (zone : Zone) : Decidable zone.InRange :=
  inferInstanceAs (Decidable (-93600 < zone.ahead ∧ zone.ahead < 93600))

namespace Instant

/-- The last instant that events can have. All of these clocks still show a year of four digits
then. -/
def last : Instant := ⟨253402207200999999999⟩

/-- An instant that events can have, at the start of 1970 or later. -/
def SinceEpoch (t : Instant) : Prop := 0 ≤ t.nanos ∧ t.nanos ≤ last.nanos

instance (t : Instant) : Decidable t.SinceEpoch :=
  inferInstanceAs (Decidable (0 ≤ t.nanos ∧ t.nanos ≤ last.nanos))

variable {a b t : Instant} {zone : Zone}

theorem SinceEpoch.hasFourDigits (h : t.SinceEpoch) (hzone : zone.InRange) :
    (t.date zone).HasFourDigits := by
  simp only [SinceEpoch, last] at h
  unfold Zone.InRange at hzone
  have hday : -3 < t.dayNumber zone ∧ t.dayNumber zone < 2932897 := by
    rw [dayNumber, Int.fdiv_eq_ediv_of_nonneg _ (by decide)]
    simp only [dayLength, localNanos]
    omega
  have hfirst : Date.ofDayNumber (-3) = ⟨1969, 12, 29⟩ := by decide
  have hend : Date.ofDayNumber 2932897 = ⟨10000, 1, 1⟩ := by decide
  have hafter := Date.earlier_ofDayNumber hday.1
  have hbefore := Date.earlier_ofDayNumber hday.2
  have hmonth := (Date.exists_ofDayNumber (t.dayNumber zone)).month
  have hone := (Date.exists_ofDayNumber (t.dayNumber zone)).day
  rw [hfirst] at hafter
  rw [hend] at hbefore
  simp only [Date.Earlier] at hafter hbefore
  exact ⟨by rw [date]; omega, by rw [date]; omega⟩

/-- Of two instants the later has the same date or a later one. -/
theorem date_cases (h : a.nanos ≤ b.nanos) (zone : Zone) :
    a.date zone = b.date zone ∨ (a.date zone).Earlier (b.date zone) := by
  have hday : a.dayNumber zone ≤ b.dayNumber zone := by
    have hlength : 0 ≤ dayLength := by decide
    rw [dayNumber, dayNumber, Int.fdiv_eq_ediv_of_nonneg _ hlength,
      Int.fdiv_eq_ediv_of_nonneg _ hlength]
    simp only [dayLength, localNanos]
    omega
  rcases Int.lt_or_eq_of_le hday with hlt | heq
  · exact .inr (Date.earlier_ofDayNumber hlt)
  · exact .inl (congrArg Date.ofDayNumber heq)

end Instant

end EventLog
