import EventLog.Error
import EventLog.Text.Digits
import EventLog.Text.Spec
import EventLog.Text.Utf8

/-!
Paths as the bytes a program hands to the system, read by their names alone. Nothing here looks at a
disk.
-/
namespace EventLog

/-- The bytes between two slashes. -/
abbrev Name := List UInt8

/-- Where an entry stands: the names that lead to it from the root. -/
abbrev Location := List Name

structure Path where
  bytes : List UInt8
  deriving DecidableEq, Repr, Inhabited

namespace Path

def slash : UInt8 := 0x2F

/-- The name `.`, the directory itself. -/
def self : Name := [0x2E]

/-- The name `..`, the directory above. -/
def above : Name := [0x2E, 0x2E]

def ofText (s : String) : Path := ⟨Text.encodeText s⟩

/-- The text of a path, U+FFFD standing for what is no text. -/
def text (p : Path) : String := String.ofList (Text.decodeLossy p.bytes)

def display (spec : Spec) (p : Path) : List Char := spec.layText (Text.decodeLossy p.bytes)

def isAbsolute (p : Path) : Bool := p.bytes.head? == some slash

/-- Whether a path asks for a directory by a slash at its end. -/
def endsInSlash (p : Path) : Bool := p.bytes.getLast? == some slash

def pieces : List UInt8 → List Name
  | [] => [[]]
  | b :: rest =>
    if b = slash then [] :: pieces rest
    else match pieces rest with
      | [] => [[b]]
      | n :: more => (b :: n) :: more

/-- The names of a path; slashes in a row count once. -/
def names (p : Path) : List Name := (pieces p.bytes).filter (· ≠ [])

/-- Bytes with a name after them, a slash between the two unless one is there or nothing
precedes. -/
def step (start : List UInt8) (name : Name) : List UInt8 :=
  match start.getLast? with
  | none => name
  | some b => if b = slash then start ++ name else start ++ slash :: name

def through (start : List UInt8) : List Name → Path
  | [] => ⟨start⟩
  | name :: rest => ⟨step start name ++ rest.flatMap (slash :: ·)⟩

/-- A path continued by another; an absolute path takes its place. -/
def join (p q : Path) : Path :=
  if q.isAbsolute then q else ⟨step p.bytes q.bytes⟩

def ofLocation (loc : Location) : Path := through [slash] loc

/-- The names of a path without the ones that stay where they are, and the bytes they start from. -/
def stepsOf (p : Path) : List UInt8 × List Name :=
  if p.isAbsolute then ([slash], p.names.filter (· ≠ self))
  else match p.names with
    | [] => ([], [])
    | n :: rest => ([], n :: rest.filter (· ≠ self))

/-- The bytes that the absolute form of a path starts with. Only a path that is relative asks for
the working directory, which may be gone. -/
def absoluteStart (here : Except Fault Location) (p : Path) : Except Fault (List UInt8) :=
  if p.isAbsolute then
    .ok (if p.bytes.take 2 = [slash, slash] ∧ p.bytes[2]? ≠ some slash then [slash, slash]
      else [slash])
  else here.map fun loc => (ofLocation loc).bytes

/-- A path made absolute by its names alone: `.` and doubled slashes go, `..` stays, and so do two
slashes at the start and one at the end. -/
def absolute (here : Except Fault Location) (p : Path) : Except Fault Path :=
  if p.bytes = [] then .error .emptyPath
  else match p.absoluteStart here with
    | .error fault => .error fault
    | .ok start =>
      let q := through start (p.names.filter (· ≠ self))
      .ok (if p.endsInSlash then ⟨step q.bytes []⟩ else q)

def isEscapedInUrl (b : UInt8) : Bool :=
  b < 0x21 || b > 0x7E || [0x22, 0x23, 0x25, 0x3C, 0x3E, 0x3F, 0x5C, 0x60, 0x7B, 0x7D].contains b

private def urlByte (b : UInt8) : List Char :=
  if isEscapedInUrl b then
    ['%', (Text.digitChar (b.toNat / 16)).toUpper, (Text.digitChar (b.toNat % 16)).toUpper]
  else [Char.ofNat b.toNat]

def fileUrl (p : Path) : String :=
  let names := p.names.filter (· ≠ self)
  let body := names.flatMap fun name => '/' :: name.flatMap urlByte
  String.ofList ("file://".toList ++ if names = [] then ['/'] else body)

end Path

end EventLog
