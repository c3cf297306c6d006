import EventLog.Backend
import EventLog.Template

/-!
Loggers: handles to one channel of a backend. A call below the level of its channel does nothing at
all; any other is rendered, and becomes either an event or a report.
-/
namespace EventLog

structure Logger (σ : Type) where
  backend : Backend σ
  renderer : Renderer
  channel : String

structure Call where
  level : Level
  site : CallSite
  template : String
  args : List Value := []

namespace Logger

variable {σ : Type}

def child (l : Logger σ) (suffix : String) : Logger σ :=
  { l with channel := childName l.channel suffix }

def isEnabled (l : Logger σ) (s : σ) (level : Level) : Bool := l.backend.isEnabled s l.channel level

/-- The report that a call could not be rendered: the report of its template, then whose call it
was. -/
def failure (l : Logger σ) (call : Call) (e : Error) : Error :=
  ((e.withContext "channel" l.channel).withContext "level" call.level.name).withContext
    "location" call.site.location

/-- The text of a call, while paths are looked up on a disk. -/
def text (l : Logger σ) (disk : Disk) (call : Call) : Except Error String :=
  Template.render l.renderer { args := call.args, site := call.site, disk } call.template

def log (l : Logger σ) (disk : Disk) (s : σ) (call : Call) : σ :=
  if l.isEnabled s call.level then
    match l.text disk call with
    | .ok text => l.backend.log s l.channel call.level text
    | .error e => l.backend.report s l.channel (l.failure call e)
  else s

end Logger

end EventLog
