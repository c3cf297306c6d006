import EventLog.Calendar
import EventLog.Proofs.Text.Marks
import EventLog.Proofs.Text.Spelling
import Mathlib.Logic.Function.Basic

/-! Dates tell days apart: a date has one day number, and two days of the same weekday lie a whole
number of weeks apart. The texts of dates and instants tell them apart as well, instants up to the
millisecond. -/
namespace EventLog

namespace Date

/-- The number of the day with a date, that of 1970-01-01 being zero. -/
def dayNumber (d : Date) : Int :=
  let year := if d.month ≤ 2 then d.year - 1 else d.year
  let shifted := if d.month ≤ 2 then d.month + 9 else d.month - 3
  let yearOfCycle := year % 400
  year / 400 * cycleLength + (365 * yearOfCycle + yearOfCycle / 4 - yearOfCycle / 100) +
    ((153 * shifted + 2) / 5 + d.day - 1 : Nat) - 719468

/-- The year of a cycle that a day of it lies in, with its first day no later and its last no
earlier than that day. -/
theorem year_bounds (day : Nat) (h : day < 146097) {year : Nat}
    (hy : year = (day - day / 1460 + day / 36524 - day / 146096) / 365) :
    year < 400 ∧ 365 * year + year / 4 - year / 100 ≤ day ∧
      day ≤ 365 * year + year / 4 - year / 100 + 366 := by
  have hfour : year / 4 ≤ day / 1460 := by omega
  have hhundred : day / 36524 - day / 146096 ≤ year / 100 := by omega
  refine ⟨by omega, by omega, by omega⟩

private theorem dayNumber_of_parts (cycle : Int) {year dayOfYear shifted month : Nat}
    (hyear : year < 400) (hday : dayOfYear ≤ 366) (hshifted : shifted = (5 * dayOfYear + 2) / 153)
    (hmonth : month = if shifted < 10 then shifted + 3 else shifted - 9) :
    dayNumber ⟨year + cycle * 400 + (if month ≤ 2 then 1 else 0), month,
        dayOfYear - (153 * shifted + 2) / 5 + 1⟩ =
      cycle * cycleLength + (365 * year + year / 4 - year / 100) + dayOfYear - 719468 := by
  have hdiv : (year + cycle * 400 : Int) / 400 = cycle := by omega
  have hmod : (year + cycle * 400 : Int) % 400 = year := by omega
  have hstart : (153 * shifted + 2) / 5 ≤ dayOfYear := by omega
  -- January and February end a year that began in March.
  simp only [dayNumber]
  by_cases hlate : month ≤ 2
  · have hback : month + 9 = shifted := by split at hmonth <;> omega
    simp only [hlate, if_true, Int.add_sub_cancel, hdiv, hmod, hback]
    omega
  · have hback : month - 3 = shifted := by split at hmonth <;> omega
    simp only [hlate, if_false, Int.add_zero, hdiv, hmod, hback]
    omega

/-- The day of a numbered date has that number. -/
theorem dayNumber_ofDayNumber (n : Int) : (ofDayNumber n).dayNumber = n := by
  have hcycle : (n + 719468).fdiv cycleLength * cycleLength + (n + 719468).fmod cycleLength =
      n + 719468 := Int.fdiv_mul_add_fmod _ _
  have hnonneg : 0 ≤ (n + 719468).fmod cycleLength := Int.fmod_nonneg_of_pos _ (by decide)
  have hlt : (n + 719468).fmod cycleLength < cycleLength := Int.fmod_lt_of_pos _ (by decide)
  obtain ⟨day, hday⟩ := Int.eq_ofNat_of_zero_le hnonneg
  rw [hday] at hcycle hlt
  obtain ⟨hyear, hle, hge⟩ := year_bounds day (Int.ofNat_lt.mp hlt) rfl
  unfold ofDayNumber
  simp only [hday, Int.toNat_natCast]
  rw [dayNumber_of_parts _ hyear (by omega) rfl rfl]
  omega

private theorem ofDayNumber_injective : Function.Injective ofDayNumber :=
  Function.LeftInverse.injective dayNumber_ofDayNumber

private theorem month_day_lt {dayOfYear shifted month : Nat} (hday : dayOfYear ≤ 366)
    (hshifted : shifted = (5 * dayOfYear + 2) / 153)
    (hmonth : month = if shifted < 10 then shifted + 3 else shifted - 9) :
    month < 100 ∧ dayOfYear - (153 * shifted + 2) / 5 + 1 < 100 := by
  split at hmonth <;> omega

private theorem ofDayNumber_lt (n : Int) :
    (ofDayNumber n).month < 100 ∧ (ofDayNumber n).day < 100 := by
  have hnonneg : 0 ≤ (n + 719468).fmod cycleLength := Int.fmod_nonneg_of_pos _ (by decide)
  have hlt : (n + 719468).fmod cycleLength < cycleLength := Int.fmod_lt_of_pos _ (by decide)
  obtain ⟨day, hday⟩ := Int.eq_ofNat_of_zero_le hnonneg
  rw [hday] at hlt
  obtain ⟨-, -, hge⟩ := year_bounds day (Int.ofNat_lt.mp hlt) rfl
  unfold ofDayNumber
  simp only [hday, Int.toNat_natCast]
  exact month_day_lt (by omega) rfl rfl

private theorem yearText_injective : Function.Injective yearText := by
  have hminus (len n : Nat) : '-' ∉ Text.paddedDecimal len n :=
    Text.notMem_paddedDecimal rfl len n
  intro a b h
  unfold yearText at h
  split at h <;> split at h
  · have habs := Text.paddedDecimal_injective 3 (List.cons.inj h).2
    omega
  · exact absurd (h ▸ List.mem_cons_self ..) (hminus 4 b.natAbs)
  · exact absurd (h ▸ List.mem_cons_self ..) (hminus 4 a.natAbs)
  · have habs := Text.paddedDecimal_injective 4 h
    omega

/-- Dates are told apart by their texts, as far as two digits do for their months and days. -/
theorem eq_of_text_eq {a b : Date} (ha : a.month < 100 ∧ a.day < 100)
    (hb : b.month < 100 ∧ b.day < 100) (h : a.text = b.text) : a = b := by
  -- The parts after the year have a fixed width, so the texts are cut from the end.
  obtain ⟨hfront, hday⟩ := List.append_inj' (h : _ ++ _ = _ ++ _) (by simp)
  obtain ⟨hyear, hmonth⟩ := List.append_inj' hfront (by simp)
  have hm := Text.eq_of_fixedDigits_eq (by decide) ha.1 hb.1 (List.cons.inj hmonth).2
  have hd := Text.eq_of_fixedDigits_eq (by decide) ha.2 hb.2 (List.cons.inj hday).2
  cases a
  cases b
  simp only [mk.injEq]
  exact ⟨yearText_injective hyear, hm, hd⟩

private theorem colon_notMem_text (d : Date) : ':' ∉ d.text := by
  have hyear : ':' ∉ yearText d.year := by
    unfold yearText
    split <;> simp [Text.notMem_paddedDecimal (show ':'.isDigit = false from rfl)]
  simp [text, hyear, Text.colon_notMem_fixedDigits]

end Date

namespace Instant

theorem date_eq_iff (a b : Instant) (zone : Zone) :
    a.date zone = b.date zone ↔ a.dayNumber zone = b.dayNumber zone :=
  Date.ofDayNumber_injective.eq_iff

/-- Two instants share their weekday just if they lie a whole number of weeks apart. -/
theorem weekday_eq_iff (a b : Instant) (zone : Zone) :
    a.weekday zone = b.weekday zone ↔ 7 ∣ b.dayNumber zone - a.dayNumber zone := by
  unfold weekday
  generalize a.dayNumber zone = m
  generalize b.dayNumber zone = n
  simp only [Fin.ext_iff, Fin.ofNat, Int.fmod_eq_emod_of_nonneg _ (show (0 : Int) ≤ 7 by decide)]
  omega

theorem milliOfDay_lt (t : Instant) (zone : Zone) : t.milliOfDay zone < 86400000 := by
  have hnonneg : 0 ≤ (t.localNanos zone).fmod dayLength := Int.fmod_nonneg_of_pos _ (by decide)
  have hlt : (t.localNanos zone).fmod dayLength < dayLength := Int.fmod_lt_of_pos _ (by decide)
  rw [milliOfDay, Int.fdiv_eq_ediv_of_nonneg _ (by decide)]
  simp only [dayLength, milli] at *
  omega

/-- The day and the millisecond in it tell the milliseconds since the start of 1970. -/
theorem millis_of_local (t : Instant) (zone : Zone) :
    t.nanos.fdiv milli + zone.ahead * 1000 =
      t.dayNumber zone * 86400000 + t.milliOfDay zone := by
  have hnonneg : 0 ≤ (t.localNanos zone).fmod dayLength := Int.fmod_nonneg_of_pos _ (by decide)
  have hmilli : 0 ≤ milli := by decide
  have hday : 0 ≤ dayLength := by decide
  rw [milliOfDay, dayNumber, Int.fdiv_eq_ediv_of_nonneg _ hmilli,
    Int.fdiv_eq_ediv_of_nonneg _ hmilli, Int.fdiv_eq_ediv_of_nonneg _ hday]
  rw [Int.fmod_eq_emod_of_nonneg _ hday] at hnonneg ⊢
  simp only [dayLength, milli, localNanos] at *
  omega

private theorem milliOfDay_of_text {a b : Instant} {zone : Zone}
    (h : a.timeOfDayText zone = b.timeOfDayText zone) :
    a.milliOfDay zone = b.milliOfDay zone := by
  have ha := a.milliOfDay_lt zone
  have hb := b.milliOfDay_lt zone
  simp only [timeOfDayText] at h
  generalize a.milliOfDay zone = m at *
  generalize b.milliOfDay zone = n at *
  obtain ⟨hrest, hmillis⟩ := List.append_inj' (h : _ ++ _ = _ ++ _) (by simp)
  obtain ⟨hrest, hseconds⟩ := List.append_inj' hrest (by simp)
  obtain ⟨hhours, hminutes⟩ := List.append_inj' hrest (by simp)
  have htwo : Nat.pow 10 2 = 100 := rfl
  have hthree : Nat.pow 10 3 = 1000 := rfl
  have hhours : m / 3600000 = n / 3600000 :=
    Text.eq_of_fixedDigits_eq (by decide) (by omega) (by omega) hhours
  have hminutes : m / 60000 % 60 = n / 60000 % 60 :=
    Text.eq_of_fixedDigits_eq (by decide) (by omega) (by omega) (List.cons.inj hminutes).2
  have hseconds : m / 1000 % 60 = n / 1000 % 60 :=
    Text.eq_of_fixedDigits_eq (by decide) (by omega) (by omega) (List.cons.inj hseconds).2
  have hmillis : m % 1000 = n % 1000 :=
    Text.eq_of_fixedDigits_eq (by decide) (by omega) (by omega) (List.cons.inj hmillis).2
  omega

/-- Instants are written alike just if they fall into the same millisecond. -/
theorem text_eq_iff (a b : Instant) (zone : Zone) :
    a.text zone = b.text zone ↔ a.nanos.fdiv milli = b.nanos.fdiv milli := by
  have ha := a.millis_of_local zone
  have hb := b.millis_of_local zone
  have hla := a.milliOfDay_lt zone
  have hlb := b.milliOfDay_lt zone
  constructor
  · intro h
    obtain ⟨hdate, htime⟩ := List.append_inj' (h : _ ++ _ = _ ++ _) (by simp [timeOfDayText])
    have hday := (date_eq_iff a b zone).mp
      (Date.eq_of_text_eq (Date.ofDayNumber_lt _) (Date.ofDayNumber_lt _) hdate)
    have hmilli := milliOfDay_of_text (List.cons.inj htime).2
    rw [hday, hmilli] at ha
    omega
  · intro h
    have hday : a.dayNumber zone = b.dayNumber zone := by omega
    have hmilli : a.milliOfDay zone = b.milliOfDay zone := by omega
    rw [text, text, (date_eq_iff a b zone).mpr hday, timeOfDayText, timeOfDayText, hmilli]

/-- The colons of a time of day stand apart. -/
theorem unmarked_text (t : Instant) (zone : Zone) : Text.Unmarked (t.text zone) := by
  have hhead (n : Nat) (more : List Char) :
      (Text.fixedDigits 10 2 n ++ more).head? ≠ some ':' := by
    simp [Text.fixedDigits, Text.digitChar]
  simp only [text, timeOfDayText, List.append_assoc, List.cons_append]
  rw [← List.cons_append, ← List.append_assoc]
  refine Text.Unmarked.colon (.of_no_colon ?_) (Text.Unmarked.colon (.of_no_colon ?_)
    (.of_no_colon ?_) ?_ (hhead _ _)) ?_ (hhead _ _)
  · simp [Date.colon_notMem_text, Text.colon_notMem_fixedDigits]
  · simp [Text.colon_notMem_fixedDigits]
  · simp [Text.colon_notMem_fixedDigits]
  · simp
  · simp

end Instant

end EventLog
