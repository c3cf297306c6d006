import EventLog.Proofs.Calendar.Clock
import EventLog.Proofs.Event.Bodies
import Mathlib.Data.List.Forall2

/-! Where the fields of a line stand, and the order of lines. The number, the level and the time
have columns of their own and can be read back from these. As the number comes first, lines in the
order of their bytes are in the order of their events. -/
namespace EventLog.Text

def sorted (lines : List (List UInt8)) : List (List UInt8) :=
  lines.mergeSort fun a b => decide (a ≤ b)

private theorem sorted_perm (lines : List (List UInt8)) : (sorted lines).Perm lines :=
  List.mergeSort_perm _ _

private theorem pairwise_sorted (lines : List (List UInt8)) : (sorted lines).Pairwise (· ≤ ·) := by
  have h : (sorted lines).Pairwise fun a b => decide (a ≤ b) = true :=
    List.pairwise_mergeSort
      (fun a b c hab hbc => by
        rw [decide_eq_true_eq] at *
        exact List.le_trans hab hbc)
      (fun a b => by simpa using List.le_total a b) lines
  exact h.imp of_decide_eq_true

/-- Lines in groups are sorted group by group if the groups are in order already. -/
theorem sorted_flatMap {α : Type} {groups : List α} {lines : α → List (List UInt8)}
    (hgroups : groups.Pairwise fun a b => ∀ x ∈ lines a, ∀ y ∈ lines b, x < y)
    {mixed : List (List UInt8)} (h : mixed.Perm (groups.flatMap lines)) :
    sorted mixed = groups.flatMap fun group => sorted (lines group) := by
  have hperm : (groups.flatMap lines).Perm (groups.flatMap fun group => sorted (lines group)) := by
    clear hgroups h
    induction groups with
    | nil => exact .refl _
    | cons group groups ih => exact (sorted_perm _).symm.append ih
  refine List.Perm.eq_of_pairwise (fun x y _ _ => List.le_antisymm) (pairwise_sorted _) ?_
    (((sorted_perm mixed).trans h).trans hperm)
  refine List.pairwise_flatMap.mpr ⟨fun group _ => pairwise_sorted _, ?_⟩
  refine hgroups.imp fun hlt x hx y hy => ?_
  exact List.le_of_lt (hlt x ((sorted_perm _).mem_iff.mp hx) y ((sorted_perm _).mem_iff.mp hy))

end EventLog.Text

namespace EventLog.Event
open Text (columns mark)

def records (zone : Zone) (e : Event) : List (List Char) := e.bodies.map (e.header zone ++ ·)

/-- The fields of an event in the columns of a record. -/
structure Headed (zone : Zone) (e : Event) (body record : List Char) : Prop where
  digits : ∀ c ∈ columns 0 16 record, c ∈ Text.digits
  sequence : Text.value 16 (columns 0 16 record) = e.sequence.toNat
  level : Level.read (String.ofList (columns 18 5 record)) = .ok e.level
  clock : ∃ c : Clock, c.Exists ∧ columns 25 23 record = c.text ∧
    Clock.read (columns 25 23 record) = c ∧ c.date = e.time.date zone ∧
    c.millis = (e.time.localNanos zone).fdiv Instant.milli
  marks : columns 16 2 record = mark ∧ columns 23 2 record = mark ∧ columns 48 2 record = mark
  rest : record.drop 50 = e.channel.toList ++ mark ++ body

variable {zone : Zone} {a b e : Event}

private theorem length_level (level : Level) : (level.display levelLayout).toList.length = 5 := by
  cases level <;> decide

private theorem read_level (level : Level) :
    Level.read (level.display levelLayout) = .ok level := by
  cases level <;> rfl

private theorem lines_eq_records (zone : Zone) (e : Event) :
    e.lines zone = (e.records zone).flatMap (· ++ ['\n']) := by
  rw [lines_eq_flatMap, records, List.flatMap_map]

private theorem columns_of_parts {number level time : List Char} (hnumber : number.length = 16)
    (hlevel : level.length = 5) (htime : time.length = 23) (rest : List Char) {record : List Char}
    (h : record = number ++ mark ++ level ++ mark ++ time ++ mark ++ rest) :
    columns 0 16 record = number ∧ columns 18 5 record = level ∧ columns 25 23 record = time ∧
      (columns 16 2 record = mark ∧ columns 23 2 record = mark ∧ columns 48 2 record = mark) ∧
      record.drop 50 = rest := by
  have hmark : mark.length = 2 := rfl
  subst h
  simp [columns, List.drop_append, List.drop_of_length_le, *]

/-- Every field is found again in its columns. -/
theorem headed (h : (e.time.date zone).HasFourDigits) (body : List Char) :
    e.Headed zone body (e.header zone ++ body) := by
  have htime := e.time.text_eq_clock zone h
  have hexists := e.time.exists_clock zone
  have hrecord : e.header zone ++ body = Text.hex16 e.sequence ++ mark ++
      (e.level.display levelLayout).toList ++ mark ++ (e.time.clock zone).text ++ mark ++
        (e.channel.toList ++ mark ++ body) := by
    simp [header, delimiter, mark, htime]
  obtain ⟨hnumber, hlevel, hclock, hmarks, hrest⟩ := columns_of_parts
    (Text.length_fixedDigits ..) (length_level e.level) (Clock.length_text _) _ hrecord
  constructor
  · intro c hc
    rw [hnumber] at hc
    exact Text.mem_digits_of_mem_fixedDigits (by decide) (by decide) hc
  · rw [hnumber]
    exact Text.value_fixedDigits (by decide) e.sequence.toNat_lt
  · rw [hlevel, String.ofList_toList]
    exact read_level e.level
  · rw [hclock]
    exact ⟨_, hexists, rfl, Clock.read_text hexists h, rfl, e.time.millis_clock zone⟩
  · exact hmarks
  · exact hrest

private theorem sooner_records (h : a.sequence < b.sequence) {r s : List Char}
    (hr : r ∈ a.records zone) (hs : s ∈ b.records zone) : Text.Sooner r s := by
  obtain ⟨body, -, rfl⟩ := List.mem_map.mp hr
  obtain ⟨more, -, rfl⟩ := List.mem_map.mp hs
  simp only [header, List.append_assoc]
  exact (Text.sooner_hex16 h).append _ _

/-- Every record that an event writes shows its number, its level and the time at which it happened,
cut to the millisecond, each in columns of its own; behind them stand the channel and the line.
Records of a later number come later, so that sorted lines are in the order of their events. -/
theorem records_in_columns (zone : Zone) :
    (∀ e : Event, (e.time.date zone).HasFourDigits →
      e.lines zone = (e.records zone).flatMap (· ++ ['\n']) ∧
        List.Forall₂ (e.Headed zone) e.bodies (e.records zone)) ∧
    (∀ a b : Event, a.sequence < b.sequence → ∀ r ∈ a.records zone, ∀ s ∈ b.records zone,
      r < s ∧ Text.encode r < Text.encode s) ∧
    (∀ (events : List Event) (lines : List (List UInt8)),
      events.Pairwise (fun a b => a.sequence < b.sequence) →
      lines.Perm (events.flatMap fun e => (e.records zone).map Text.encode) →
      Text.sorted lines =
        events.flatMap fun e => Text.sorted ((e.records zone).map Text.encode)) := by
  refine ⟨fun e he => ⟨lines_eq_records zone e, ?_⟩, fun a b h r hr s hs => ?_,
    fun events lines hevents h => Text.sorted_flatMap (hevents.imp fun hlt => ?_) h⟩
  · rw [records, List.forall₂_map_right_iff, List.forall₂_same]
    exact fun body _ => headed he body
  · have hsooner := sooner_records h hr hs
    exact ⟨hsooner.lt, hsooner.encode.lt⟩
  · intro x hx y hy
    obtain ⟨r, hr, rfl⟩ := List.mem_map.mp hx
    obtain ⟨s, hs, rfl⟩ := List.mem_map.mp hy
    exact (sooner_records hlt hr hs).encode.lt

theorem records_in_columns_of_two :
    let zone : Zone := ⟨3600⟩
    let a : Event := ⟨9, .fatal, ⟨-1⟩, "a::b", "x\ny"⟩
    let b : Event := ⟨16, .info, ⟨-2⟩, "", ""⟩
    a.records zone = ["0000000000000009::FATAL::1970-01-01 00:59:59.999::a::b::x".toList,
        "0000000000000009::FATAL::1970-01-01 00:59:59.999::a::b::y".toList] ∧
      b.records zone = ["0000000000000010::INFO ::1970-01-01 00:59:59.999::::".toList] ∧
      List.Forall₂ (a.Headed zone) a.bodies (a.records zone) ∧
      Text.sorted ((b.records zone ++ a.records zone).map Text.encode) =
        Text.sorted ((a.records zone).map Text.encode) ++
          Text.sorted ((b.records zone).map Text.encode) := by
  intro zone a b
  obtain ⟨hcolumns, -, hsorted⟩ := records_in_columns zone
  refine ⟨by decide, by decide, (hcolumns a (by decide)).2, ?_⟩
  have hevents : [a, b].Pairwise fun a b => a.sequence < b.sequence := by decide
  have h := hsorted [a, b] ((b.records zone ++ a.records zone).map Text.encode) hevents (by
    simpa using List.perm_append_comm)
  simpa using h

end EventLog.Event
