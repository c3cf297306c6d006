import EventLog.CallSite
import EventLog.Error

/-!
Named texts that a call site fills in, and the registry that keeps one for every name. Names start
with a sigil, which sets their placeholders apart from those of arguments.
-/
namespace EventLog

structure SiteMacro where
  name : String
  render : CallSite → String

namespace SiteMacro

/-- The first character of every name. -/
def sigil : Char := '@'

/-- What stands for a function or module that is not known. -/
def unknown : String := "<unknown>"

/-- What stands for the name of a thread without one. -/
def unnamed : String := "<unnamed>"

def method : SiteMacro :=
  ⟨"@method", fun site => match site.method? with
    | some name => name ++ "()"
    | none => unknown⟩

def modulePath : SiteMacro := ⟨"@module", fun site => site.module?.getD unknown⟩

def file : SiteMacro := ⟨"@file", CallSite.file⟩

def line : SiteMacro := ⟨"@line", fun site => Text.number site.line⟩

def thread : SiteMacro := ⟨"@thread", fun site => site.thread?.getD unnamed⟩

def fixed (name text : String) : SiteMacro := ⟨name, fun _ => text⟩

/-- Whether a name can be told from the operations on arguments. -/
def isName (name : String) : Bool := name.toList.head? = some sigil

end SiteMacro

/-- The texts that placeholders may ask for by name, in the order of their registration. -/
structure Macros where
  renderers : List SiteMacro := []

namespace Macros

def standard : Macros :=
  ⟨[.method, .modulePath, .file, .line, .thread]⟩

def find? (ms : Macros) (name : String) : Option SiteMacro := ms.renderers.find? (·.name = name)

def contains (ms : Macros) (name : String) : Bool := (ms.find? name).isSome

/-- Registers a text. Its name must be one, and must be new. -/
def register (ms : Macros) (m : SiteMacro) : Except Error Macros :=
  if !SiteMacro.isName m.name then
    .error
      { kind := .invalidMacroName, message := "macro names must start with '@'"
        context := [("name", m.name)] }
  else if ms.contains m.name then
    .error
      { kind := .duplicateMacro, message := "macro is registered twice"
        context := [("name", m.name)] }
  else .ok ⟨ms.renderers ++ [m]⟩

/-- Registers some texts in order, up to the first that is refused. -/
def registerAll (ms : Macros) : List SiteMacro → Except Error Macros
  | [] => .ok ms
  | m :: rest =>
    match ms.register m with
    | .ok more => more.registerAll rest
    | .error e => .error e

def resolve (ms : Macros) (name : String) (site : CallSite) : Except Error String :=
  match ms.find? name with
  | some m => .ok (m.render site)
  | none =>
    .error
      { kind := .unknownMacro, message := "no macro renderer registered"
        context := [("name", name)] }

end Macros

end EventLog
