import EventLog.Event
import EventLog.Proofs.Calendar

/-! What a line of a file tells of its event. The number, the level and the time can be cut off
from the left, as no mark hides in them. What follows is the channel, a mark and the text, and
nothing in the line says which mark that is if either of them has marks of its own. -/
namespace EventLog.Text

/-- A text that has no line feed and is not empty is its only line. -/
theorem lines_eq_singleton {cs : List Char} (hne : cs ≠ []) (h : '\n' ∉ cs) : lines cs = [cs] := by
  induction cs with
  | nil => exact absurd rfl hne
  | cons c cs ih =>
    obtain ⟨hc, hcs⟩ := not_or.mp (mt List.mem_cons.mpr h)
    have hend : ∀ rest, c = '\r' → cs = '\n' :: rest → False := by
      rintro rest - rfl
      exact hcs (List.mem_cons_self ..)
    rw [lines.eq_4 c cs (fun hline => hc hline.symm) hend]
    cases cs with
    | nil => rfl
    | cons d cs => rw [ih (List.cons_ne_nil d cs) hcs]

end EventLog.Text

namespace EventLog.Event

structure SingleLine (e : Event) : Prop where
  nonempty : e.text ≠ ""
  noFeed : '\n' ∉ e.text.toList

/-- What a reader makes of a line without its line feed: what stands before each of the first four
marks, and all that is left. -/
def fields (line : List Char) : List (List Char) :=
  let pieces := Text.segments line
  pieces.take 4 ++ [List.intercalate Text.mark (pieces.drop 4)]

def tail (e : Event) : List Char := e.channel.toList ++ Text.mark ++ e.text.toList

/-- Two channels and texts that can be cut apart: it is known that the channels are the same, or
that the first mark after each channel ends it, or that the last mark before each text does. -/
def Cuttable (a b : Event) : Prop :=
  a.channel = b.channel ∨
    Text.Unmarked a.channel.toList ∧ Text.Unmarked b.channel.toList ∨
    Text.Unmarked a.text.toList.reverse ∧ Text.Unmarked b.text.toList.reverse

variable {zone : Zone} {a b e : Event}

private theorem SingleLine.lines_eq (h : e.SingleLine) :
    e.lines zone = Text.hex16 e.sequence ++ Text.mark ++
      ((e.level.display levelLayout).toList ++ Text.mark ++
        (e.time.text zone ++ Text.mark ++ e.tail)) ++ ['\n'] := by
  have hne : e.text.toList ≠ [] := fun hnil => h.nonempty (String.toList_eq_nil_iff.mp hnil)
  have hbodies : e.bodies = [e.text.toList] := by
    simp [bodies, Text.lines_eq_singleton hne h.noFeed, hne]
  simp [lines, pieces, hbodies, header, delimiter, Text.mark, tail]

private theorem unmarked_level (level : Level) : Text.Unmarked (level.display levelLayout).toList :=
  .of_no_colon (by cases level <;> decide)

private theorem level_injective {a b : Level}
    (h : (a.display levelLayout).toList = (b.display levelLayout).toList) : a = b := by
  cases a <;> cases b <;> first | rfl | exact absurd h (by decide)

private theorem unmarked_hex16 (n : UInt64) : Text.Unmarked (Text.hex16 n) :=
  .of_no_colon (Text.colon_notMem_fixedDigits 16 16 n.toNat)

private theorem SingleLine.segments_eq (h : e.SingleLine) :
    Text.segments (e.lines zone).dropLast =
      Text.hex16 e.sequence :: (e.level.display levelLayout).toList :: e.time.text zone ::
        Text.segments e.tail := by
  rw [h.lines_eq, List.dropLast_concat, Text.segments_append_mark (unmarked_hex16 _),
    Text.segments_append_mark (unmarked_level _),
    Text.segments_append_mark (Instant.unmarked_text _ _)]

/-- Lines are the same just if the fields before the channel are, and what follows them. -/
theorem SingleLine.lines_eq_iff (ha : a.SingleLine) (hb : b.SingleLine) :
    Text.encode (a.lines zone) = Text.encode (b.lines zone) ↔
      a.sequence = b.sequence ∧ a.level = b.level ∧
        a.time.nanos.fdiv Instant.milli = b.time.nanos.fdiv Instant.milli ∧ a.tail = b.tail := by
  rw [Text.encode_injective.eq_iff, ← Instant.text_eq_iff a.time b.time zone]
  constructor
  · intro h
    have hpieces := congrArg (fun line => Text.segments line.dropLast) h
    simp only [ha.segments_eq, hb.segments_eq, List.cons.injEq] at hpieces
    obtain ⟨hsequence, hlevel, htime, htail⟩ := hpieces
    refine ⟨Text.hex16_injective hsequence, level_injective hlevel, htime, ?_⟩
    rw [← Text.intercalate_segments a.tail, htail, Text.intercalate_segments]
  · rintro ⟨hsequence, hlevel, htime, htail⟩
    rw [ha.lines_eq, hb.lines_eq, hsequence, hlevel, htime, htail]

private theorem tail_reverse (e : Event) :
    e.tail.reverse = e.text.toList.reverse ++ Text.mark ++ e.channel.toList.reverse := by
  simp [tail, Text.mark]

private theorem Cuttable.of_tail (h : Cuttable a b) (htail : a.tail = b.tail) :
    a.channel = b.channel ∧ a.text = b.text := by
  rcases h with hsame | ⟨ha, hb⟩ | ⟨ha, hb⟩
  · rw [tail, tail, hsame] at htail
    exact ⟨hsame, String.toList_injective (List.append_cancel_left htail)⟩
  · obtain ⟨hchannel, htext⟩ := ha.cut hb htail
    exact ⟨String.toList_injective hchannel, String.toList_injective htext⟩
  · have hback := congrArg List.reverse htail
    rw [tail_reverse, tail_reverse] at hback
    obtain ⟨htext, hchannel⟩ := ha.cut hb hback
    exact ⟨String.toList_injective (List.reverse_injective hchannel),
      String.toList_injective (List.reverse_injective htext)⟩

/-- A line tells the number, the level, the millisecond, and the channel and text with a mark
between them. It tells the channel and the text where they can be cut apart, and a reader that
splits the line at its marks finds all five fields if the channel neither has a mark nor runs into
the one after it. -/
theorem told_by_line (zone : Zone) (a b : Event) (ha : a.SingleLine) (hb : b.SingleLine) :
    (Text.encode (a.lines zone) = Text.encode (b.lines zone) ↔
      a.sequence = b.sequence ∧ a.level = b.level ∧
        a.time.nanos.fdiv Instant.milli = b.time.nanos.fdiv Instant.milli ∧ a.tail = b.tail) ∧
    (Text.encode (a.lines zone) = Text.encode (b.lines zone) → Cuttable a b →
      a.channel = b.channel ∧ a.text = b.text) ∧
    Text.segments (a.lines zone).dropLast =
      Text.hex16 a.sequence :: (a.level.display levelLayout).toList :: a.time.text zone ::
        Text.segments a.tail ∧
    (Text.Unmarked a.channel.toList → fields (a.lines zone).dropLast =
      [Text.hex16 a.sequence, (a.level.display levelLayout).toList, a.time.text zone,
        a.channel.toList, a.text.toList]) := by
  refine ⟨ha.lines_eq_iff hb, ?_, ha.segments_eq, ?_⟩
  · intro hsame hcut
    exact hcut.of_tail ((ha.lines_eq_iff hb).mp hsame).2.2.2
  · intro hchannel
    have htail : Text.segments a.tail = a.channel.toList :: Text.segments a.text.toList :=
      Text.segments_append_mark hchannel _
    simp [fields, ha.segments_eq, htail, Text.intercalate_segments]

private def nine : Instant := ⟨1704103200000000000⟩

theorem told_by_line_of_nine :
    let a : Event := ⟨7, .info, nine, "svc", "a::b"⟩
    let b : Event := ⟨7, .info, ⟨nine.nanos + 999999⟩, "svc", "a::b"⟩
    Text.encode (a.lines {}) = Text.encode (b.lines {}) ∧
      fields (a.lines {}).dropLast =
        ["0000000000000007".toList, "INFO ".toList, "2024-01-01 10:00:00.000".toList,
          "svc".toList, "a::b".toList] := by
  intro a b
  have ha : a.SingleLine := ⟨by decide, by decide⟩
  have hb : b.SingleLine := ⟨by decide, by decide⟩
  have htold := told_by_line {} a b ha hb
  refine ⟨htold.1.mpr ⟨rfl, rfl, by decide, rfl⟩, ?_⟩
  have hchannel : Text.Unmarked a.channel.toList := .of_no_colon (by decide)
  exact (htold.2.2.2 hchannel).trans (by decide)

/-- The same line comes of two channels, once as one of them has a mark, and once as one of them
ends in half of one. -/
theorem same_line_of_two_channels :
    let a : Event := ⟨7, .info, nine, "alloc::string::String", "ready"⟩
    let b : Event := ⟨7, .info, nine, "alloc", "string::String::ready"⟩
    let c : Event := ⟨7, .info, nine, "svc:", "ready"⟩
    let d : Event := ⟨7, .info, nine, "svc", ":ready"⟩
    (a.SingleLine ∧ b.SingleLine ∧ c.SingleLine ∧ d.SingleLine) ∧
      (Text.encode (a.lines {}) = Text.encode (b.lines {}) ∧
        a.channel ≠ b.channel ∧ a.text ≠ b.text) ∧
      Text.encode (c.lines {}) = Text.encode (d.lines {}) ∧
        c.channel ≠ d.channel ∧ c.text ≠ d.text := by
  intro a b c d
  have ha : a.SingleLine := ⟨by decide, by decide⟩
  have hb : b.SingleLine := ⟨by decide, by decide⟩
  have hc : c.SingleLine := ⟨by decide, by decide⟩
  have hd : d.SingleLine := ⟨by decide, by decide⟩
  have hab : a.tail = b.tail := by decide
  have hcd : c.tail = d.tail := by decide
  exact ⟨⟨ha, hb, hc, hd⟩,
    ⟨(ha.lines_eq_iff hb).mpr ⟨rfl, rfl, rfl, hab⟩, by decide, by decide⟩,
    (hc.lines_eq_iff hd).mpr ⟨rfl, rfl, rfl, hcd⟩, by decide, by decide⟩

end EventLog.Event
