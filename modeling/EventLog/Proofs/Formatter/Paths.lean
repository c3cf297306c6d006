import EventLog.Formatter.Paths
import EventLog.Proofs.Disk.Questions
import EventLog.Proofs.Text.Decoding
import Mathlib

/-! Operations on paths. Each puts a question of its own to the disk, and none leaves a trace there;
the answers go together, as all of them tell of what the path leads to. -/
namespace EventLog.Formatter

variable {d : Disk} {p : Path}

private theorem lookup_of_mem {β : Type} {table : List (String × β)}
    (hnodup : (table.map (·.1)).Nodup) {key : String} {b : β}
    (h : (key, b) ∈ table) : table.lookup key = some b := by
  obtain ⟨front, back, rfl⟩ := List.append_of_mem h
  rw [List.map_append, List.nodup_append] at hnodup
  refine List.lookup_eq_some_iff.mpr ⟨front, back, rfl, fun entry hentry => ?_⟩
  exact bne_iff_ne.mpr
    (hnodup.2.2 entry.1 (List.mem_map_of_mem hentry) key List.mem_cons_self).symm

/-- Each operation on paths is answered by its own question. -/
theorem paths_of_mem {operation : String} {question : Disk → Path → Disk × String}
    (h : (operation, question) ∈ pathOperations) (d : Disk) (p : Path) :
    paths d (.path p) operation = some (question d p).2 := by
  have hnodup : (pathOperations.map (·.1)).Nodup := by decide
  rw [paths, lookup_of_mem hnodup h, Option.map_some]

/-- No question about a path leaves a trace. -/
theorem unchanged_of_mem {operation : String} {question : Disk → Path → Disk × String}
    (hmem : (operation, question) ∈ pathOperations) (d : Disk) (p : Path) :
    d.Unchanged (question d p).1 := by
  simp only [pathOperations, List.mem_cons, Prod.mk.injEq, List.not_mem_nil, or_false] at hmem
  obtain ⟨-, rfl⟩ | ⟨-, rfl⟩ | ⟨-, rfl⟩ | ⟨-, rfl⟩ | ⟨-, rfl⟩ | ⟨-, rfl⟩ | ⟨-, rfl⟩ | ⟨-, rfl⟩ |
    ⟨-, rfl⟩ := hmem
  -- Only the question whether a directory can be written to touches the disk.
  case inr.inr.inl => exact d.unchanged_canWrite p
  all_goals exact .refl d

private theorem flag_eq_false_iff {b : Bool} :
    String.ofList (Value.flag b) = "false" ↔ b = false := by
  cases b <;> decide

private theorem length_eq (d : Disk) (p : Path) :
    paths d (.path p) "length" = some (Text.number (d.length p)) := rfl

private theorem content_eq (d : Disk) (p : Path) :
    paths d (.path p) "content" = some ((d.content? p).getD unavailable) := rfl

private theorem canonicalPath_eq (d : Disk) (p : Path) : paths d (.path p) "canonicalPath" =
    some (((d.canonical? p).map Path.text).getD unavailable) := by
  cases hcanonical : d.canonical? p <;> simp [paths, pathOperations, List.lookup, hcanonical]

/-- What does not exist has nothing to show. -/
theorem answers_of_error {fault : Fault} (h : d.find p = .error fault) :
    (∀ operation ∈ ["canExecute", "canRead", "canWrite"],
      paths d (.path p) operation = some "false") ∧
    paths d (.path p) "length" = some "0" ∧
    paths d (.path p) "content" = some unavailable := by
  have hexecute : d.canExecute p = false := by rw [Disk.canExecute, h]
  have hread : d.canRead p = false := by rw [Disk.canRead, h]; rfl
  have hwrite : (d.canWrite p).2 = false := by rw [Disk.canWrite, h]
  have hlength : d.length p = 0 := by rw [Disk.length, h]
  have hcontent : d.content? p = none := by rw [Disk.content?, h]
  refine ⟨fun operation hop => ?_, ?_, ?_⟩
  · simp only [List.mem_cons, List.not_mem_nil, or_false] at hop
    obtain rfl | rfl | rfl := hop
    · exact congrArg some (flag_eq_false_iff.mpr hexecute)
    · exact congrArg some (flag_eq_false_iff.mpr hread)
    · exact congrArg some (flag_eq_false_iff.mpr hwrite)
  · rw [length_eq, hlength]
    rfl
  · rw [content_eq, hcontent, Option.getD_none]

/-- A file shows its length, and its text if its bytes are the encoding of one. -/
theorem answers_of_file {id : Nat} (h : d.find p = .ok (.file id)) :
    paths d (.path p) "length" = some (Text.number (d.body id).bytes.length) ∧
    (∀ cs, Text.encode cs = (d.body id).bytes →
      paths d (.path p) "content" = some (String.ofList cs)) ∧
    ((∀ cs, Text.encode cs ≠ (d.body id).bytes) →
      paths d (.path p) "content" = some unavailable) := by
  have hlength : d.length p = (d.body id).bytes.length := by rw [Disk.length, h]
  have hcontent : d.content? p = (Text.decode? (d.body id).bytes).map String.ofList := by
    rw [Disk.content?, h]
  refine ⟨?_, fun cs hcs => ?_, fun hnone => ?_⟩
  · rw [length_eq, hlength]
  · rw [content_eq, hcontent, Text.decode?_eq_some_iff.mpr hcs, Option.map_some, Option.getD_some]
  · cases hdecode : Text.decode? (d.body id).bytes with
    | none => rw [content_eq, hcontent, hdecode, Option.map_none, Option.getD_none]
    | some cs => exact absurd (Text.decode?_eq_some_iff.mp hdecode) (hnone cs)

private theorem content_of_directory (h : d.find p = .ok .directory) :
    paths d (.path p) "content" = some unavailable := by
  have hcontent : d.content? p = none := by rw [Disk.content?, h]
  rw [content_eq, hcontent, Option.getD_none]

/-- The absolute forms of a path depend on nothing but its bytes and the working directory, as long
as that is there. -/
theorem absolute_of_here {d' : Disk} (hd : d.Housed) (hd' : d'.Housed) (h : d'.here = d.here)
    (p : Path) :
    ∀ operation ∈ ["absolutePath", "uri"],
      paths d' (.path p) operation = paths d (.path p) operation := by
  intro operation hop
  simp only [List.mem_cons, List.not_mem_nil, or_false] at hop
  obtain rfl | rfl := hop <;>
    simp [paths, pathOperations, List.lookup, hd.workingDirectory, hd'.workingDirectory, h]

/-- Each of the nine operations has an answer for every path, and the question behind it leaves no
trace. A path that leads nowhere shows nothing, its canonical form included if the path is no longer
than the system takes; a file shows its length and its text, a directory no text; and two of the
operations tell of no more than the path and the working directory. -/
theorem path_operations_agree (d : Disk) (h : d.Housed) (p : Path) :
    let ask := paths d (.path p)
    (∀ operation ∈ ["canExecute", "canRead", "canWrite", "content", "exists", "length", "uri",
        "absolutePath", "canonicalPath"],
      ∃ question, (operation, question) ∈ pathOperations ∧
        ask operation = some (question d p).2 ∧ d.Unchanged (question d p).1) ∧
    (ask "exists" = some "false" →
      (∀ operation ∈ ["canExecute", "canRead", "canWrite"], ask operation = some "false") ∧
      ask "length" = some "0" ∧ ask "content" = some "<null>" ∧
      (p.bytes.length < 4096 → ask "canonicalPath" = some "<null>")) ∧
    (∀ id, d.find p = .ok (.file id) →
      ask "length" = some (Text.number (d.body id).bytes.length) ∧
      (∀ cs, Text.encode cs = (d.body id).bytes → ask "content" = some (String.ofList cs)) ∧
      ((∀ cs, Text.encode cs ≠ (d.body id).bytes) → ask "content" = some "<null>")) ∧
    (d.find p = .ok .directory → ask "content" = some "<null>") ∧
    (∀ d' : Disk, d'.Housed → d'.here = d.here → ∀ operation ∈ ["absolutePath", "uri"],
      paths d' (.path p) operation = ask operation) := by
  intro ask
  refine ⟨fun operation hop => ?_, fun hexists => ?_, fun id hfile => answers_of_file hfile,
    content_of_directory, fun d' hhoused hhere => absolute_of_here h hhoused hhere p⟩
  · have hmem : operation ∈ pathOperations.map (·.1) := by
      simpa [pathOperations, or_assoc] using hop
    obtain ⟨⟨_, question⟩, hquestion, rfl⟩ := List.mem_map.mp hmem
    exact ⟨question, hquestion, paths_of_mem hquestion d p, unchanged_of_mem hquestion d p⟩
  · have hmissing : d.pathExists p = false := flag_eq_false_iff.mp (Option.some.inj hexists)
    obtain ⟨fault, hfind⟩ := Disk.pathExists_eq_false_iff.mp hmissing
    obtain ⟨hflags, hlength, hcontent⟩ := answers_of_error hfind
    refine ⟨hflags, hlength, hcontent, fun hshort => ?_⟩
    change paths d (.path p) "canonicalPath" = _
    rw [canonicalPath_eq, h.canonical?_eq_none hfind hshort, Option.map_none, Option.getD_none,
      unavailable]

/-- The path of a file, of nothing, and of the working directory itself; the file is gone from the
other disk. -/
theorem path_operations_agree_of_three :
    let d : Disk :=
      { entries := .node [0x77] (some .directory) (.node [0x61] (some (.file 0)) .nil .nil) .nil
        files := [{ pieces := [[0x69], [0x68]] }]
        here := [[0x77]] }
    let d' : Disk :=
      { entries := .node [0x77] (some .directory) .nil .nil
        here := [[0x77]] }
    let ask := fun bytes => paths d (.path ⟨bytes⟩)
    d.Housed ∧ d'.Housed ∧
      ask [0x61] "content" = some "hi" ∧ ask [0x61] "length" = some (Text.number 2) ∧
      ask [0x62] "exists" = some "false" ∧ ask [0x62] "canWrite" = some "false" ∧
      ask [0x62] "canonicalPath" = some "<null>" ∧
      d.find ⟨[0x2E]⟩ = .ok .directory ∧ ask [0x2E] "content" = some "<null>" ∧
      ask [0x61] "uri" = paths d' (.path ⟨[0x61]⟩) "uri" := by
  intro d d' ask
  have hhousedIn (d : Disk) (hhere : d.here = [[0x77]])
      (hentry : d.entry? ([] ++ [[0x77]]) = some .directory) : d.Housed := by
    refine ⟨fun name hname => ?_, hhere ▸ (Disk.Stands.root d).enter hentry⟩
    rw [hhere] at hname
    obtain rfl := List.mem_singleton.mp hname
    exact ⟨⟨by decide, by decide⟩, by decide⟩
  have hhoused : d.Housed := hhousedIn d rfl rfl
  have hhoused' : d'.Housed := hhousedIn d' rfl rfl
  have hfile : d.find ⟨[0x61]⟩ = .ok (.file 0) := by cbv
  have hnone : paths d (.path ⟨[0x62]⟩) "exists" = some "false" := by cbv
  have hdirectory : d.find ⟨[0x2E]⟩ = .ok .directory := by cbv
  obtain ⟨-, -, hof, -, habsolute⟩ := path_operations_agree d hhoused ⟨[0x61]⟩
  obtain ⟨hlength, htext, -⟩ := hof 0 hfile
  obtain ⟨hflags, -, -, hcanonical⟩ := (path_operations_agree d hhoused ⟨[0x62]⟩).2.1 hnone
  obtain ⟨-, -, -, hcontent, -⟩ := path_operations_agree d hhoused ⟨[0x2E]⟩
  exact ⟨hhoused, hhoused', htext ['h', 'i'] (by decide), hlength, hnone,
    hflags "canWrite" (by decide), hcanonical (by decide), hdirectory, hcontent hdirectory,
    (habsolute d' hhoused' rfl "uri" (by decide)).symm⟩

/-- A path of slashes alone can be too long to lead anywhere. Its canonical form is that of the
root, whatever its length. -/
theorem canonical?_slashes (d : Disk) {n : Nat} (h : 4096 ≤ n) :
    d.find ⟨List.replicate n Path.slash⟩ = .error .nameTooLong ∧
      d.canonical? ⟨List.replicate n Path.slash⟩ = some (Path.ofLocation []) := by
  have hn : n ≠ 0 := by omega
  have hzero : ¬(0 : UInt8) = Path.slash := by decide
  have hroot : d.origin ⟨List.replicate n Path.slash⟩ = [] := by
    rw [Disk.origin, if_pos (by simp [Path.isAbsolute, List.head?_replicate, hn])]
  have hnames : Disk.lookupNames ⟨List.replicate n Path.slash⟩ = [Path.self] := by
    simp [Disk.lookupNames, Path.endsInSlash, Path.names_replicate_slash,
      List.getLast?_replicate, hn]
  have hwalk : d.walk { limit := some Disk.pathLimit } Disk.linkLimit [] [Path.self] = .ok [] := by
    rw [Disk.walk, if_pos (.inl rfl), if_neg (by decide), if_pos rfl, Disk.walk]
  constructor
  · simp [Disk.find, Disk.resolve, Disk.locate, Disk.refusedPath?, Disk.pathLimit, hzero, hn, h]
  · simp [Disk.canonical?, hzero, hn, hroot, hnames, hwalk]

/-- Beyond the length that the system takes, a path can have a canonical form without leading
anywhere. -/
theorem canonical_of_overlong :
    let slashes : Path := ⟨List.replicate 4096 Path.slash⟩
    Disk.Housed {} ∧ paths {} (.path slashes) "exists" = some "false" ∧
      paths {} (.path slashes) "canonicalPath" = some "/" ∧
      paths {} (.path slashes) "canonicalPath" ≠ some "<null>" := by
  intro slashes
  obtain ⟨hfind, hcanonical⟩ := canonical?_slashes {} (Nat.le_refl 4096)
  have hexists : Disk.pathExists {} slashes = false :=
    Disk.pathExists_eq_false_iff.mpr ⟨_, hfind⟩
  have hroot : (Path.ofLocation []).text = "/" := by decide
  have hanswer : paths {} (.path slashes) "canonicalPath" = some "/" := by
    rw [canonicalPath_eq, hcanonical, Option.map_some, Option.getD_some, hroot]
  refine ⟨.of_root rfl, congrArg some (flag_eq_false_iff.mpr hexists), hanswer, ?_⟩
  rw [hanswer]
  decide

end EventLog.Formatter
