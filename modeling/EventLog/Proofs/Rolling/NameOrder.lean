import EventLog.Proofs.Calendar.Dates
import EventLog.Proofs.Disk.Folders
import EventLog.Proofs.Rolling.Search
import Mathlib

/-! The order of the names of log files. A later date makes a later name, and so does a higher
suffix. A suffix that was counted up may be ahead of the clock; but then all those before it are
taken, down to the one that the clock gave. -/
namespace EventLog.Target

variable {stem : String} {date : Date}

private theorem logName_lt_of_earlier {a b : Date} (h : a.Earlier b) (ha : a.HasFourDigits)
    (hb : b.HasFourDigits) (hexists : b.Exists) (suffix suffix' : UInt64) :
    logName stem a suffix < logName stem b suffix' := by
  have hdates := (h.sooner_text ha hb hexists).append_left ['.']
  have hends := hdates.append ('.' :: Text.hex16 suffix ++ ".log".toList)
    ('.' :: Text.hex16 suffix' ++ ".log".toList)
  have hsame (date : Date) (suffix : UInt64) : ending date suffix =
      ['.'] ++ date.text ++ ('.' :: Text.hex16 suffix ++ ".log".toList) := by simp [ending]
  rw [← hsame, ← hsame] at hends
  exact (hends.encode.append_left _).lt

private theorem logName_lt_of_lt {suffix suffix' : UInt64} (h : suffix < suffix') :
    logName stem date suffix < logName stem date suffix' := by
  have hends := ((Text.sooner_hex16 h).append ".log".toList ".log".toList).append_left
    ('.' :: date.text ++ ['.'])
  have hsame (suffix : UInt64) : ending date suffix =
      '.' :: date.text ++ ['.'] ++ (Text.hex16 suffix ++ ".log".toList) := by simp [ending]
  rw [← hsame, ← hsame] at hends
  exact (hends.encode.append_left _).lt

/-- The names from a suffix on that are taken in a folder. -/
def TakenTo (d : Disk) (folder : Location) (stem : String) (date : Date) (start : UInt64)
    (n : Nat) : Prop :=
  ∀ m < n, (d.entry? (folder ++ [logName stem date (start + UInt64.ofNat m)])).isSome

variable {d after : Disk} {folder : Location} {start : UInt64} {n : Nat}

theorem TakenTo.of_retains (h : TakenTo d folder stem date start n) (hk : d.Retains after) :
    TakenTo after folder stem date start n := fun m hm => hk.isSome (h m hm)

/-- A folder with few entries has few taken names. -/
theorem TakenTo.lt (h : TakenTo d folder stem date start n) {bound : Nat}
    (hbound : bound ≤ UInt64.size) (hfew : (d.listing folder).length < bound) : n < bound := by
  by_contra hn
  have hnodup := (nodup_counted start hbound).map (logName_injective stem date)
  have htaken : ∀ name ∈ ((List.range bound).map fun m => start + UInt64.ofNat m).map
      (logName stem date), (d.entry? (folder ++ [name])).isSome := by
    intro name hname
    obtain ⟨suffix, hsuffix, rfl⟩ := List.mem_map.mp hname
    obtain ⟨m, hm, rfl⟩ := List.mem_map.mp hsuffix
    exact h m ((List.mem_range.mp hm).trans_le (Nat.le_of_not_lt hn))
  have hlength := Disk.length_le_listing hnodup htaken
  simp only [List.length_map, List.length_range] at hlength
  omega

/-- The suffix that the clock gives, for an instant since the start of 1970. -/
theorem toNat_start {time : Instant} (h : time.SinceEpoch) :
    (UInt64.ofInt time.millis).toNat = (time.nanos / 1000000).toNat ∧
      (UInt64.ofInt time.millis).toNat < 2 ^ 63 := by
  obtain ⟨hstart, hend⟩ := h
  have hmillis : time.millis = time.nanos / 1000000 := Int.tdiv_eq_ediv_of_nonneg hstart
  simp only [Instant.last] at hend
  rw [hmillis]
  simp only [UInt64.ofInt, UInt64.toNat_ofNat']
  omega

private theorem toNat_counted {start : UInt64} {n : Nat} (h : start.toNat + n < 2 ^ 64) :
    (start + UInt64.ofNat n).toNat = start.toNat + n := by
  have hn : n < UInt64.size := (Nat.le_add_left n _).trans_lt h
  rw [UInt64.toNat_add, UInt64.toNat_ofNat_of_lt' hn, Nat.mod_eq_of_lt h]

/-- A free name that was found from a later time on comes after the names that were found before,
however far these were ahead of their time. -/
theorem logName_lt_of_free {zone : Zone} (hzone : zone.InRange) {time time' : Instant} {n n' : Nat}
    (hsince : time.SinceEpoch) (hsince' : time'.SinceEpoch) (hle : time.nanos ≤ time'.nanos)
    (hfew : (d.listing folder).length < 2 ^ 63)
    (htaken : TakenTo d folder stem (time.date zone) (UInt64.ofInt time.millis) (n + 1))
    (htaken' : TakenTo d folder stem (time'.date zone) (UInt64.ofInt time'.millis) n')
    (hfree : d.entry? (folder ++ [logName stem (time'.date zone)
      (UInt64.ofInt time'.millis + UInt64.ofNat n')]) = none) :
    logName stem (time.date zone) (UInt64.ofInt time.millis + UInt64.ofNat n) <
      logName stem (time'.date zone) (UInt64.ofInt time'.millis + UInt64.ofNat n') := by
  rcases Instant.date_cases hle zone with hdate | hearlier
  · obtain ⟨hstart, hsmall⟩ := toNat_start hsince
    obtain ⟨hstart', hsmall'⟩ := toNat_start hsince'
    have hn : n + 1 < 2 ^ 63 := htaken.lt (by decide) hfew
    have hn' : n' < 2 ^ 63 := htaken'.lt (by decide) hfew
    have hchosen : (UInt64.ofInt time.millis + UInt64.ofNat n).toNat =
        (UInt64.ofInt time.millis).toNat + n := toNat_counted (by omega)
    have hchosen' : (UInt64.ofInt time'.millis + UInt64.ofNat n').toNat =
        (UInt64.ofInt time'.millis).toNat + n' := toNat_counted (by omega)
    rw [← hdate] at hfree ⊢
    apply logName_lt_of_lt
    rw [UInt64.lt_iff_toNat_lt]
    by_contra hle'
    -- The free name would be among those that are taken from the earlier time on.
    obtain ⟨m, hm⟩ : ∃ m, (UInt64.ofInt time'.millis).toNat + n' =
        (UInt64.ofInt time.millis).toNat + m := Nat.exists_eq_add_of_le (by omega)
    have hsame : UInt64.ofInt time.millis + UInt64.ofNat m =
        UInt64.ofInt time'.millis + UInt64.ofNat n' := by
      rw [← UInt64.toNat_inj, hchosen', hm]
      exact toNat_counted (by omega)
    have hthere := htaken m (by omega)
    rw [hsame, hfree] at hthere
    cases hthere
  · exact logName_lt_of_earlier hearlier (hsince.hasFourDigits hzone) (hsince'.hasFourDigits hzone)
      (Date.exists_ofDayNumber _) _ _

end EventLog.Target
