import EventLog.Proofs.Disk.Paths
import EventLog.Rolling.Basic

/-! Where the paths of log files lead: into their directory, under a name that starts with the stem,
as long as the stem has no slash of its own. -/
namespace EventLog

private theorem slash_notMem_fixedDigits (base len n : Nat) : '/' ∉ Text.fixedDigits base len n :=
  Text.notMem_fixedDigits (fun _ => Nat.digitChar_ne '/' (by decide)) base len n

private theorem slash_notMem_dateText (date : Date) : '/' ∉ date.text := by
  have hyear : '/' ∉ Date.yearText date.year := by
    unfold Date.yearText
    split <;> simp [Text.notMem_paddedDecimal (show '/'.isDigit = false from rfl)]
  simp [Date.text, hyear, slash_notMem_fixedDigits]

namespace Target

private theorem getLast?_encode_fileName (t : Target) (date : Date) (suffix : UInt64) :
    (Text.encode (t.fileName date suffix)).getLast? = some 0x67 := by
  simp only [fileName, Text.encode, List.flatMap_append, List.flatMap_cons, ← List.append_assoc,
    List.getLast?_append]
  rfl

private theorem encode_fileName_ne_nil (t : Target) (date : Date) (suffix : UInt64) :
    Text.encode (t.fileName date suffix) ≠ [] := by
  intro h
  have hlast := getLast?_encode_fileName t date suffix
  rw [h] at hlast
  cases hlast

theorem endsInSlash_filePath (t : Target) (date : Date) (suffix : UInt64) :
    (t.filePath date suffix).endsInSlash = false := by
  rw [filePath, Path.endsInSlash_join t.dir ⟨Text.encode (t.fileName date suffix)⟩
    (encode_fileName_ne_nil t date suffix), Path.endsInSlash, getLast?_encode_fileName]
  rfl

/-- A log file stands in the directory of its target, under its own name. -/
theorem names_filePath (t : Target) (date : Date) (suffix : UInt64) (h : '/' ∉ t.stem.toList) :
    (t.filePath date suffix).names = t.dir.names ++ [Text.encode (t.fileName date suffix)] := by
  have hname : Path.slash ∉ Text.encode (t.fileName date suffix) := by
    intro hs
    have hmem := slash_mem_encode hs
    simp [fileName, h, slash_notMem_dateText, Text.hex16, slash_notMem_fixedDigits] at hmem
  exact Path.names_join t.dir hname (encode_fileName_ne_nil t date suffix)

/-- The end of the name of a log file, which tells the date and a number. -/
def ending (date : Date) (suffix : UInt64) : List Char :=
  '.' :: date.text ++ '.' :: Text.hex16 suffix ++ ".log".toList

/-- The name of a log file. If the stem has slashes it starts after the last of them. -/
def logName (stem : String) (date : Date) (suffix : UInt64) : Name :=
  Path.lastPiece (Text.encode stem.toList) ++ Text.encode (ending date suffix)

/-- What all paths of log files of a target start with. -/
def base (t : Target) : List UInt8 :=
  if (Text.encode t.stem.toList).head? = some Path.slash then Text.encode t.stem.toList
  else Path.step t.dir.bytes (Text.encode t.stem.toList)

private theorem encode_ending (date : Date) (suffix : UInt64) : ∃ rest,
    Text.encode (ending date suffix) = 0x2E :: rest := ⟨_, rfl⟩

theorem filePath_eq (t : Target) (date : Date) (suffix : UInt64) :
    t.filePath date suffix = ⟨t.base ++ Text.encode (ending date suffix)⟩ := by
  have hname : Text.encode (t.fileName date suffix) =
      Text.encode t.stem.toList ++ Text.encode (ending date suffix) := by
    rw [← Text.encode_append]
    simp [fileName, ending]
  obtain ⟨rest, hrest⟩ := encode_ending date suffix
  have habs : (⟨Text.encode (t.fileName date suffix)⟩ : Path).isAbsolute = true ↔
      (Text.encode t.stem.toList).head? = some Path.slash := by
    rw [Path.isAbsolute, hname, hrest, beq_iff_eq]
    cases Text.encode t.stem.toList with
    | nil => simp [Path.slash]
    | cons b more => simp
  simp only [filePath, Path.join, habs, base]
  split
  · rw [hname]
  · rw [hname, Path.step_append]

/-- All log files of a target stand in one directory, under names that only tell the stem, the date
and the suffix. -/
theorem names_filePath_eq (t : Target) (date : Date) (suffix : UInt64) :
    (t.filePath date suffix).names =
      (Path.pieces t.base).dropLast.filter (· ≠ []) ++ [logName t.stem date suffix] := by
  have hslash : Path.slash ∉ Text.encode (ending date suffix) := by
    intro hs
    have hmem := slash_mem_encode hs
    simp [ending, slash_notMem_dateText, Text.hex16, slash_notMem_fixedDigits] at hmem
  have hlast : Path.lastPiece t.base = Path.lastPiece (Text.encode t.stem.toList) := by
    unfold base
    split
    · rfl
    · exact Path.lastPiece_step _ _
  obtain ⟨rest, hrest⟩ := encode_ending date suffix
  rw [filePath_eq, Path.names_append hslash (by rw [hrest]; exact List.cons_ne_nil _ _), hlast]
  rfl

theorem getLast?_names_filePath (t : Target) (date : Date) (suffix : UInt64) :
    (t.filePath date suffix).names.getLast? = some (logName t.stem date suffix) := by
  rw [names_filePath_eq, List.getLast?_concat]

theorem logName_injective (stem : String) (date : Date) :
    Function.Injective (logName stem date) := by
  intro a b h
  have hends : ending date a = ending date b := Text.encode_injective (List.append_cancel_left h)
  have hdigits := List.append_cancel_left (List.append_cancel_right hends)
  exact Text.hex16_injective (List.cons.inj hdigits).2

/-- The name of a log file is one of its own. -/
theorem logName_ne_dots (stem : String) (date : Date) (suffix : UInt64) :
    ¬(logName stem date suffix = Path.self ∨ logName stem date suffix = Path.above) := by
  have hends : (logName stem date suffix).getLast? = some 0x67 := by
    simp only [logName, ending, Text.encode_append, ← List.append_assoc, List.getLast?_append]
    rfl
  rintro (hself | habove)
  · rw [hself] at hends
    cases hends
  · rw [habove] at hends
    cases hends

end Target

end EventLog
