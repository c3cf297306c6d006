import EventLog.Logger

/-!
A backend together with what placeholders are filled with, and the plugins it can be built from:
exactly one backend, any formatters, and texts about the call site of different names.
-/
namespace EventLog

/-- A backend with what its loggers render templates by. -/
structure Facade (σ : Type) where
  backend : Backend σ
  renderer : Renderer := .standard

/-- What a program brings along, in the order it was registered. -/
structure Plugins (σ : Type) where
  backends : List (Backend σ) := []
  formatters : List Formatter := []
  macros : List SiteMacro := []

namespace Plugins

variable {σ : Type}

def addBackend (p : Plugins σ) (b : Backend σ) : Plugins σ :=
  { p with backends := p.backends ++ [b] }

def addFormatter (p : Plugins σ) (f : Formatter) : Plugins σ :=
  { p with formatters := p.formatters ++ [f] }

def addMacro (p : Plugins σ) (m : SiteMacro) : Plugins σ := { p with macros := p.macros ++ [m] }

/-- The operations and texts that are always known, registered one by one, and no backend. -/
def standard : Plugins σ :=
  ({} : Plugins σ)
    |>.addFormatter Formatter.texts
    |>.addFormatter Formatter.collections
    |>.addFormatter Formatter.failures
    |>.addFormatter Formatter.paths
    |>.addFormatter Formatter.types
    |>.addMacro SiteMacro.method
    |>.addMacro SiteMacro.modulePath
    |>.addMacro SiteMacro.file
    |>.addMacro SiteMacro.line
    |>.addMacro SiteMacro.thread

def theBackend (p : Plugins σ) : Except Error (Backend σ) :=
  match p.backends with
  | [b] => .ok b
  | [] => .error { kind := .noBackendFound, message := "no logger manager is registered" }
  | several =>
    .error
      { kind := .ambiguousBackend, message := "more than one logger manager is registered"
        context :=
          [("count", Text.number several.length),
            ("managers", ", ".intercalate (several.map Backend.name))] }

end Plugins

namespace Facade

variable {σ : Type}

def ofPlugins (p : Plugins σ) : Except Error (Facade σ) :=
  match p.theBackend with
  | .error e => .error e
  | .ok backend =>
    match Macros.registerAll {} p.macros with
    | .error e => .error e
    | .ok macros => .ok { backend, renderer := { formatters := p.formatters, macros } }

def logger (f : Facade σ) (channel : String) : Logger σ :=
  { backend := f.backend, renderer := f.renderer, channel }

end Facade

end EventLog
