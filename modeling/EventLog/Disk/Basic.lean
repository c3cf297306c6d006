import EventLog.Disk.Entries

/-!
A disk: entries at their locations, and the files that entries name by number, in the order of their
creation. A file outlives its entry, so what an open file still receives goes nowhere once the entry
is removed. Paths are looked up name by name, through symbolic links.
-/
namespace EventLog

/-- A file. What it holds came in pieces, the latest of which stands first. -/
structure FileBody where
  pieces : List (List UInt8) := []
  executable : Bool := false
  deriving DecidableEq, Repr

/-- A disk, with the directory that relative paths start from. A full disk may refuse new files, new
directories, or every byte written to a file. -/
structure Disk where
  entries : Entries := .nil
  files : List FileBody := []
  here : Location := []
  refusesFiles : Option Fault := none
  refusesDirectories : Option Fault := none
  refusesBytes : Option Fault := none
  deriving Repr

namespace FileBody

def bytes (f : FileBody) : List UInt8 := f.pieces.reverse.flatten

def append (f : FileBody) (piece : List UInt8) : FileBody := { f with pieces := piece :: f.pieces }

@[simp] theorem bytes_append (f : FileBody) (piece : List UInt8) :
    (f.append piece).bytes = f.bytes ++ piece := by simp [bytes, append]

end FileBody

namespace Disk

/-- The entry at a location. The root is always there. -/
def entry? (d : Disk) : Location → Option Entry
  | [] => some .directory
  | loc => d.entries.get? loc

/-- Where the working directory is, unless it was removed. -/
def workingDirectory (d : Disk) : Except Fault Location :=
  if d.entry? d.here = some .directory then .ok d.here else .error .missing

def place (d : Disk) (loc : Location) (e : Entry) : Disk :=
  { d with entries := d.entries.insert e loc }

/-- Names longer than this are refused. -/
def nameLimit : Nat := 255

/-- Paths of this many bytes or more are refused. -/
def pathLimit : Nat := 4096

/-- No path is followed through more links than this. -/
def linkLimit : Nat := 40

/-- The names that a path is looked up by. A slash at the end asks for the directory itself. -/
def lookupNames (p : Path) : List Name := if p.endsInSlash then p.names ++ [Path.self] else p.names

/-- How names are looked up. Under a limit the path of every location on the way must be shorter,
with the slash after a directory that is asked for as such; and the last name may be one that
nothing has yet. -/
structure Lookup where
  limit : Option Nat := none
  mayBeNew : Bool := false

def Lookup.isBeyond (how : Lookup) (loc : Location) (more : Nat) : Bool :=
  match how.limit with
  | none => false
  | some bound => (Path.ofLocation loc).bytes.length + more ≥ bound

/-- The location that some names lead to from a location, through at most `links` links. -/
def walk (d : Disk) (how : Lookup) :
    (links : Nat) → Location → List Name → Except Fault Location
  | _, loc, [] => .ok loc
  | links, loc, name :: rest =>
    if name = Path.self ∨ name = Path.above then
      if how.isBeyond loc 1 then .error .nameTooLong
      else walk d how links (if name = Path.self then loc else loc.dropLast) rest
    else if name.length > nameLimit then .error .nameTooLong
    else if how.isBeyond (loc ++ [name]) 0 then .error .nameTooLong
    else match d.entry? (loc ++ [name]) with
      | none => if how.mayBeNew ∧ rest = [] then .ok (loc ++ [name]) else .error .missing
      | some (.link target) =>
        match links with
        | 0 => .error .linkLoop
        | links + 1 =>
          walk d how links (if target.isAbsolute then [] else loc) (lookupNames target ++ rest)
      | some (.file _) => if rest = [] then .ok (loc ++ [name]) else .error .notDirectory
      | some .directory => walk d how links (loc ++ [name]) rest
termination_by links _ names => (links, names.length)

def origin (d : Disk) (p : Path) : Location := if p.isAbsolute then [] else d.here

/-- Paths that no lookup is tried for. -/
def refusedPath? (p : Path) : Option Fault :=
  if p.bytes.contains 0 then some .nulInName
  else if p.bytes = [] then some .missing
  else if p.bytes.length ≥ pathLimit then some .nameTooLong
  else none

def locate (d : Disk) (how : Lookup) (p : Path) : Except Fault Location :=
  match refusedPath? p with
  | some fault => .error fault
  | none => d.walk how linkLimit (d.origin p) (lookupNames p)

/-- The location of the entry that a path names once links are followed. -/
def resolve (d : Disk) (p : Path) : Except Fault Location := d.locate {} p

/-- The location that the last name of a path has or would have, links before it followed but not
one of that name itself. The root, and a last name that only points at a directory, have none. -/
def nameLocation (d : Disk) (p : Path) : Except Fault (Option Location) :=
  match refusedPath? p with
  | some fault => .error fault
  | none =>
    match p.names.getLast? with
    | none => .ok none
    | some name =>
      match d.walk {} linkLimit (d.origin p) p.names.dropLast with
      | .error fault => .error fault
      | .ok loc =>
        if d.entry? loc ≠ some .directory then .error .notDirectory
        else if name = Path.self ∨ name = Path.above then .ok none
        else if name.length > nameLimit then .error .nameTooLong
        else .ok (some (loc ++ [name]))

/-- The location for a new entry. It is taken if something stands there, a link included, or if the
last name is no new one. -/
def freeLocation (d : Disk) (p : Path) : Except Fault Location :=
  match d.nameLocation p with
  | .error fault => .error fault
  | .ok none => .error .taken
  | .ok (some loc) => if (d.entry? loc).isSome then .error .taken else .ok loc

end Disk

end EventLog
