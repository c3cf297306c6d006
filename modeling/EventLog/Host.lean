import EventLog.Facade

/-!
What a process has one of: a default facade, which is set once and never replaced, and a bridge that
takes the records of another logging interface to it. Those records are text already, and no
template.
-/
namespace EventLog

/-- What a process has one of. -/
structure Host (σ : Type) where
  default? : Option (Facade σ) := none
  bridged : Bool := false

/-- A record of the other interface. Its levels end at errors. -/
structure ForeignRecord where
  target : String
  level : Level
  text : String
  deriving DecidableEq, Repr

namespace Host

variable {σ : Type}

/-- Sets the default facade, if there is none. -/
def setDefault (h : Host σ) (f : Facade σ) : Except Error (Host σ) :=
  match h.default? with
  | some _ =>
    .error
      { kind := .alreadyInitialized, message := "the default logging facade is already set" }
  | none => .ok { h with default? := some f }

/-- A logger of the default facade. Without one, what it logs is discarded for good. -/
def logger (h : Host σ) (channel : String) : Logger σ :=
  match h.default? with
  | some f => f.logger channel
  | none => { backend := .discard, renderer := .standard, channel }

def shutdown (h : Host σ) (s : σ) : σ :=
  match h.default? with
  | some f => f.backend.shutdown s
  | none => s

def setUpBridge (h : Host σ) : Option (Host σ) :=
  if h.bridged then none else some { h with bridged := true }

/-- The lowest level that the other interface hands over: none before the bridge is set up. -/
def foreignThreshold (h : Host σ) : Option Level := if h.bridged then some .trace else none

/-- Whether the default facade records a level of the channel that a target names. -/
def bridgeTakes (h : Host σ) (s : σ) (target : String) (level : Level) : Bool :=
  match h.default? with
  | some f => f.backend.isEnabled s target level
  | none => false

/-- Takes a record to the default facade, past the templates. -/
def bridgeLog (h : Host σ) (s : σ) (r : ForeignRecord) : σ :=
  match h.default? with
  | some f =>
    if f.backend.isEnabled s r.target r.level then f.backend.log s r.target r.level r.text else s
  | none => s

def foreignEnabled (h : Host σ) (s : σ) (target : String) (level : Level) : Bool :=
  match h.foreignThreshold with
  | some threshold => level.passes threshold && h.bridgeTakes s target level
  | none => false

/-- What the other interface does with a record: nothing unless the bridge is set up. -/
def foreignLog (h : Host σ) (s : σ) (r : ForeignRecord) : σ :=
  match h.foreignThreshold with
  | some threshold => if r.level.passes threshold then h.bridgeLog s r else s
  | none => s

def bridgeFlush (h : Host σ) (s : σ) : σ :=
  match h.default? with
  | some f => if h.bridged then f.backend.flush s else s
  | none => s

end Host

end EventLog
