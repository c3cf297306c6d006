import EventLog.Disk.Basic
import EventLog.Text.Digits

/-!
What is done to a disk: directories and files are made, bytes are added to files, entries are
removed, and entries are asked about.
-/
namespace EventLog.Disk

def makeDirectory (d : Disk) (p : Path) : Except Fault Disk :=
  match d.freeLocation p with
  | .error fault => .error fault
  | .ok loc =>
    match d.refusesDirectories with
    | some fault => .error fault
    | none => .ok (d.place loc .directory)

def isDirectory (d : Disk) (p : Path) : Bool :=
  match d.resolve p with
  | .ok loc => d.entry? loc == some .directory
  | .error _ => false

/-- Makes the directory `p`, which the first `size` of some names lead to. If what it stands in is
missing, that is made first. -/
def makeThrough (start : List UInt8) (names : List Name) :
    (size : Nat) → Path → Disk → Disk × Except Fault Unit
  | size, p, d =>
    if p.bytes = [] then (d, .ok ())
    else match d.makeDirectory p, size with
      | .ok made, _ => (made, .ok ())
      | .error .missing, size + 1 =>
        match makeThrough start names size (.through start (names.take size)) d with
        | (below, .error fault) => (below, .error fault)
        | (below, .ok ()) =>
          match below.makeDirectory p with
          | .ok made => (made, .ok ())
          | .error fault => (below, if below.isDirectory p then .ok () else .error fault)
      | .error fault, _ => (d, if d.isDirectory p then .ok () else .error fault)

/-- Makes a directory and those it stands in, where they are missing. -/
def makeDirectories (d : Disk) (p : Path) : Disk × Except Fault Unit :=
  let (start, names) := p.stepsOf
  makeThrough start names names.length p d

/-- Makes a new empty file, which must not be there in any form. Answers the number of the file. -/
def createFile (d : Disk) (p : Path) (executable : Bool := false) : Except Fault (Nat × Disk) :=
  match d.freeLocation p with
  | .error fault => .error fault
  | .ok loc =>
    match d.refusesFiles with
    | some fault => .error fault
    | none =>
      .ok (d.files.length,
        { d.place loc (.file d.files.length) with files := d.files ++ [⟨[], executable⟩] })

/-- Adds bytes to the end of a file. Adding none always succeeds. -/
def append (d : Disk) (id : Nat) (bytes : List UInt8) : Except Fault Disk :=
  if bytes = [] then .ok d
  else match d.refusesBytes with
    | some fault => .error fault
    | none => .ok { d with files := d.files.modify id fun f => f.append bytes }

def find (d : Disk) (p : Path) : Except Fault Entry :=
  match d.resolve p with
  | .error fault => .error fault
  | .ok loc => match d.entry? loc with
    | some e => .ok e
    | none => .error .missing

def body (d : Disk) (id : Nat) : FileBody := d.files.getD id {}

/-- Removes a directory with all it holds, or a file or link. -/
def remove (d : Disk) (top : Location) : Disk := { d with entries := d.entries.prune top }

def unlink (d : Disk) (loc : Location) : Disk := { d with entries := d.entries.erase loc }

/-- A removed location is empty with all below it, and nothing else changes. -/
theorem entry?_remove (d : Disk) {loc : Location} (h : loc ≠ []) (other : Location) :
    entry? (d.remove loc) other = if loc <+: other then none else d.entry? other := by
  cases other with
  | nil => simp [Disk.entry?, h]
  | cons name rest => exact Entries.get?_prune d.entries loc (name :: rest) h

/-- An unlinked location is empty, and nothing else changes. -/
theorem entry?_unlink (d : Disk) {loc : Location} (h : loc ≠ []) (other : Location) :
    entry? (d.unlink loc) other = if other = loc then none else d.entry? other := by
  cases other with
  | nil => simp [Disk.entry?, h.symm]
  | cons name rest => exact Entries.get?_erase d.entries loc (name :: rest)

/-- Removes a file or a link by its path. A link goes itself, and what it leads to stays. -/
def removeFile (d : Disk) (p : Path) : Except Fault Disk :=
  match d.nameLocation p with
  | .error fault => .error fault
  | .ok none => .error .isDirectory
  | .ok (some loc) =>
    match d.entry? loc with
    | none => .error .missing
    | some .directory => .error .isDirectory
    | some _ => if p.endsInSlash then .error .notDirectory else .ok (d.unlink loc)

/-- Removes a directory by its path, with all it holds. A link goes itself, as a file does not. -/
def removeDirectory (d : Disk) (p : Path) : Except Fault Disk :=
  match d.nameLocation p with
  | .error fault => .error fault
  | .ok none => .error .taken
  | .ok (some loc) =>
    match d.entry? loc with
    | none => .error .missing
    | some .directory => .ok (d.remove loc)
    | some (.file _) => .error .notDirectory
    | some (.link _) => if p.endsInSlash then .error .notDirectory else .ok (d.unlink loc)

/-- A name for a file that will not last. -/
def passingName (n : Nat) : Name := Text.encode (".tmp".toList ++ Text.paddedDecimal 6 n)

def unusedName (d : Disk) (loc : Location) : Name :=
  (((List.range (d.entries.size + 1)).map passingName).find? fun name =>
    (d.entry? (loc ++ [name])).isNone).getD (passingName 0)

/-- Tries whether a directory takes a new file, and removes that file again. Both go by the absolute
path of the file. -/
def probe (d : Disk) (dir : Path) : Disk × Except Fault Unit :=
  match d.resolve dir with
  | .error fault => (d, .error fault)
  | .ok loc =>
    let file := ((Path.ofLocation d.here).join dir).join ⟨d.unusedName loc⟩
    match d.createFile file with
    | .error fault => (d, .error fault)
    | .ok (_, made) =>
      match made.removeFile file with
      | .error fault => (made, .error fault)
      -- Nobody has the file open any more, so its number is free again.
      | .ok removed => ({ removed with files := d.files }, .ok ())

def makeLink (d : Disk) (p target : Path) : Except Fault Disk :=
  match d.freeLocation p with
  | .ok loc => .ok (d.place loc (.link target))
  | .error fault => .error fault

/-- Writes a whole file, a new one if there is none where the path leads. -/
def writeFile (d : Disk) (p : Path) (bytes : List UInt8) (executable : Bool := false) :
    Except Fault Disk :=
  let written : FileBody := { pieces := [bytes], executable }
  match d.locate { mayBeNew := true } p with
  | .error fault => .error fault
  | .ok loc =>
    match d.entry? loc with
    | some (.file id) => .ok { d with files := d.files.set id written }
    | some _ => .error .isDirectory
    | none => .ok { d.place loc (.file d.files.length) with files := d.files ++ [written] }

/-- The files below a location with their numbers, by the path from there. -/
def filesBelow (d : Disk) (top : Location) : List (Path × Nat) :=
  d.entries.toList.filterMap fun (loc, e) =>
    match e with
    | .file id =>
      if top.isPrefixOf loc then some (Path.through [] (loc.drop top.length), id) else none
    | _ => none

/-! What can be asked about a path. -/

def directoryLength : Nat := 4096

def pathExists (d : Disk) (p : Path) : Bool := (d.find p).isOk

/-- Whether a path can be opened for reading; a directory can. -/
def canRead (d : Disk) (p : Path) : Bool := (d.find p).isOk

/-- Whether a file can be appended to, or a directory take a new file, which is tried. -/
def canWrite (d : Disk) (p : Path) : Disk × Bool :=
  match d.find p with
  | .ok .directory =>
    let (after, outcome) := d.probe p
    (after, outcome.isOk)
  | .ok _ => (d, true)
  | .error _ => (d, false)

/-- Whether a file may be run or a directory entered. -/
def canExecute (d : Disk) (p : Path) : Bool :=
  match d.find p with
  | .ok (.file id) => (d.body id).executable
  | .ok _ => true
  | .error _ => false

def length (d : Disk) (p : Path) : Nat :=
  match d.find p with
  | .ok (.file id) => (d.body id).bytes.length
  | .ok _ => directoryLength
  | .error _ => 0

def content? (d : Disk) (p : Path) : Option String :=
  match d.find p with
  | .ok (.file id) => (Text.decode? (d.body id).bytes).map String.ofList
  | _ => none

/-- The path of what a path names, free of links. It is found one name at a time, so the path that
is asked about may have any length, and only the paths on the way must be short enough. -/
def canonical? (d : Disk) (p : Path) : Option Path :=
  if p.bytes = [] ∨ p.bytes.contains 0 then none
  else match d.walk { limit := some pathLimit } linkLimit (d.origin p) (lookupNames p) with
    | .ok loc => some (Path.ofLocation loc)
    | .error _ => none

end EventLog.Disk
