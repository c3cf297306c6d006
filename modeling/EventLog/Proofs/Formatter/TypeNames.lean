import EventLog.Formatter.Standard
import EventLog.Proofs.Text.Marks
import Mathlib

/-! The name of a type and its parts. What the type takes as arguments stands in brackets behind its
path, and the path is cut once, at its last mark, so both parts are told from the path alone. -/
namespace EventLog.Formatter
open Text (mark)

/-- What may stand behind the path of a type: nothing, or arguments and whatever follows them. -/
def Arguments (cs : List Char) : Prop := ∀ c ∈ cs.head?, c = '<'

private theorem basePath_of_arguments {typeName : String} {base arguments : List Char}
    (h : typeName.toList = base ++ arguments) (hbase : '<' ∉ base)
    (harguments : Arguments arguments) : basePath typeName = base := by
  have hpath : ∀ c ∈ base, decide (c ≠ '<') = true := by
    intro c hc
    refine decide_eq_true ?_
    rintro rfl
    exact hbase hc
  have hrest : arguments.takeWhile (· ≠ '<') = [] := by
    cases arguments with
    | nil => rfl
    | cons c rest =>
      obtain rfl := harguments c rfl
      rfl
  rw [basePath, h, List.takeWhile_append_of_pos hpath, hrest, List.append_nil]

private theorem bracket_notMem_basePath (typeName : String) : '<' ∉ basePath typeName := by
  intro h
  simpa using List.mem_takeWhile_imp h

/-- The module of a type has the path up to the last mark, and the type the name behind it. -/
theorem names_of_last {typeName : String} {front back : List Char}
    (hpath : basePath typeName = front ++ mark ++ back) (hmark : ¬ mark <:+: back)
    (hhead : back.head? ≠ some ':') :
    moduleName typeName = String.ofList front ∧ simpleName typeName = String.ofList back := by
  constructor
  · rw [moduleName, hpath, Text.cutAtLastMark_of_last front hmark hhead]
    rfl
  · rw [simpleName, hpath, Text.segmentsFromEnd_of_last front hmark hhead]
    rfl

/-- Types whose path has no mark lie in no module. -/
theorem names_of_noMark {typeName : String} (h : ¬ mark <:+: basePath typeName) :
    moduleName typeName = "" ∧ simpleName typeName = String.ofList (basePath typeName) := by
  constructor
  · rw [moduleName, Text.cutAtLastMark_of_noMark h]
    rfl
  · rw [simpleName, Text.segmentsFromEnd_of_noMark h]
    rfl

/-- The parts of a path: `name` is a single segment, and `module` is what stands before it. -/
structure PathParts (base : List Char) (module name : String) : Prop where
  noMark : ¬ mark <:+: name.toList
  noBracket : '<' ∉ name.toList
  joined : mark <:+: base →
    base = module.toList ++ mark ++ name.toList ∧ name.toList.head? ≠ some ':'
  alone : ¬ mark <:+: base → module = "" ∧ name.toList = base

/-- The two parts of a path are found whatever arguments the type takes. -/
theorem exists_pathParts {base : List Char} (hbase : '<' ∉ base) :
    ∃ module name, PathParts base module name ∧ ∀ typeName, basePath typeName = base →
      moduleName typeName = module ∧ simpleName typeName = name := by
  by_cases hmark : mark <:+: base
  · obtain ⟨front, back, rfl, hback, hhead⟩ := Text.exists_last_mark hmark
    refine ⟨String.ofList front, String.ofList back, ⟨?_, ?_, fun _ => ?_, fun h => absurd hmark h⟩,
      fun typeName hpath => names_of_last hpath hback hhead⟩
    · rwa [String.toList_ofList]
    · rw [String.toList_ofList]
      exact fun hmem => hbase (List.mem_append_right _ hmem)
    · rw [String.toList_ofList, String.toList_ofList]
      exact ⟨rfl, hhead⟩
  · refine ⟨"", String.ofList base, ⟨?_, ?_, fun h => absurd h hmark, fun _ => ?_⟩,
      fun typeName hpath => ?_⟩
    · rwa [String.toList_ofList]
    · rwa [String.toList_ofList]
    · exact ⟨rfl, String.toList_ofList⟩
    · subst hpath
      exact names_of_noMark hmark

/-- A type is asked for under its whole name or in the two parts of its path, and the parts joined
by a mark are the path again, up to the first bracket. They are the same for every value whose type
has this path, with whatever arguments. -/
theorem module_and_name_of_path (v : Value) :
    let base := v.typeName.toList.takeWhile (· ≠ '<')
    ∃ module name, PathParts base module name ∧
      (∀ disk, types disk v "type" = some v.typeName ∧ types disk v "type.name" = some v.typeName ∧
        types disk v "type.module" = some module ∧
        types disk v "type.simpleName" = some name) ∧
      ∀ disk (w : Value) (arguments : List Char), w.typeName.toList = base ++ arguments →
        Arguments arguments →
        types disk w "type.module" = some module ∧ types disk w "type.simpleName" = some name := by
  intro base
  have hbase : '<' ∉ base := bracket_notMem_basePath v.typeName
  obtain ⟨module, name, hparts, hnames⟩ := exists_pathParts hbase
  refine ⟨module, name, hparts, fun disk => ⟨rfl, rfl, ?_, ?_⟩, fun disk w arguments hw hrest => ?_⟩
  · exact congrArg some (hnames v.typeName rfl).1
  · exact congrArg some (hnames v.typeName rfl).2
  · obtain ⟨hmodule, hname⟩ := hnames w.typeName (basePath_of_arguments hw hbase hrest)
    exact ⟨congrArg some hmodule, congrArg some hname⟩

/-- Marks in the arguments are passed over, and of three colons the last two are the mark. -/
theorem module_and_name_of_cache :
    let v : Value := .captured (.verbatim "app:::Cache<std::Key, core::Option<std::Path>>" "")
    let w : Value := .captured (.verbatim "app:::Cache" "")
    let arguments := "<std::Key, core::Option<std::Path>>".toList
    v.typeName.toList = "app:::Cache".toList ++ arguments ∧ Arguments arguments ∧
      types {} v "type" = some "app:::Cache<std::Key, core::Option<std::Path>>" ∧
      types {} v "type.module" = some "app:" ∧ types {} v "type.simpleName" = some "Cache" ∧
      types {} w "type.module" = some "app:" ∧ types {} w "type.simpleName" = some "Cache" := by
  intro v w arguments
  have hmodule : types {} w "type.module" = some "app:" := by cbv
  have hname : types {} w "type.simpleName" = some "Cache" := by cbv
  have hbase : w.typeName.toList.takeWhile (· ≠ '<') = "app:::Cache".toList := by cbv
  have hsplit : v.typeName.toList = "app:::Cache".toList ++ arguments := by cbv
  have harguments : Arguments arguments := by
    rintro c ⟨⟩
    rfl
  obtain ⟨module, name, -, hown, hother⟩ := module_and_name_of_path w
  obtain ⟨-, -, hownModule, hownName⟩ := hown {}
  obtain rfl : "app:" = module := Option.some.inj (hmodule.symm.trans hownModule)
  obtain rfl : "Cache" = name := Option.some.inj (hname.symm.trans hownName)
  obtain ⟨hmodule', hname'⟩ := hother {} v arguments (by rw [hbase, hsplit]) harguments
  exact ⟨hsplit, harguments, rfl, hmodule', hname', hmodule, hname⟩

end EventLog.Formatter
