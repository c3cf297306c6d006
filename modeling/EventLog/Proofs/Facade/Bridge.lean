import EventLog.Host
import EventLog.Proofs.Template.Escaping

/-! Records of another logging interface beside calls of loggers. The bridge never looks into a
text, while a logger reads every text as a template; once the braces of a text are escaped the two
agree, and no such call is ever reported. -/
namespace EventLog

/-- The levels of the other interface. None of them is above an error. -/
inductive ForeignLevel where
  | error
  | warn
  | info
  | debug
  | trace
  deriving DecidableEq, Repr

def ForeignLevel.level : ForeignLevel → Level
  | error => .error
  | warn => .warn
  | info => .info
  | debug => .debug
  | trace => .trace

def ForeignRecord.of (target : String) (level : ForeignLevel) (text : String) : ForeignRecord :=
  { target, level := level.level, text }

namespace Logger

variable {σ : Type} (l : Logger σ) (disk : Disk) (s : σ) {call : Call}

/-- A call that renders is an event if its level is recorded, and nothing otherwise. -/
theorem log_of_text {text : String} (h : l.text disk call = .ok text) :
    l.log disk s call =
      if l.isEnabled s call.level then l.backend.log s l.channel call.level text else s := by
  unfold log
  rw [h]

/-- An escaped text is the text of its call, whatever the logger renders by. -/
theorem text_of_escaped {text : String} (h : call.template = Template.escape text) :
    l.text disk call = .ok text := by
  rw [Logger.text, h]
  exact (Template.render_escape l.renderer _ text).1

end Logger

namespace Host

variable {σ : Type}

/-- The bridge asks the gate of the channel that a record is for, and hands the text on as it is. -/
theorem bridgeLog_eq (f : Facade σ) (bridged : Bool) (s : σ) (r : ForeignRecord) :
    bridgeLog { default? := some f, bridged } s r =
      if (f.logger r.target).isEnabled s r.level then f.backend.log s r.target r.level r.text
      else s := rfl

/-- A record of the other interface does to the default facade what a call without arguments does
whose template is the escaped text of the record, through the logger of the channel that the record
is for: both pass the same gate and log the same text there. The call always renders, so it would
make no difference what the backend did with reports. -/
theorem bridgeLog_eq_log_escaped (f : Facade σ) (bridged : Bool) (disk : Disk) (s : σ)
    (target text : String) (level : ForeignLevel) (site : CallSite) :
    let host : Host σ := { default? := some f, bridged }
    let record := ForeignRecord.of target level text
    let logger := f.logger target
    let call : Call :=
      { level := level.level, site, template := Template.escape text, args := [] }
    host.bridgeLog s record = logger.log disk s call ∧
    host.bridgeTakes s target record.level = logger.isEnabled s call.level ∧
    logger.text disk call = .ok text ∧
    (logger.log disk s call = if logger.isEnabled s call.level
      then f.backend.log s target level.level text else s) ∧
    ∀ report, Logger.log { logger with backend := { f.backend with report } } disk s call =
      host.bridgeLog s record := by
  intro host record logger call
  have htext (l : Logger σ) : l.text disk call = .ok text := l.text_of_escaped disk rfl
  have hlog := logger.log_of_text disk s (htext logger)
  have hbridge : host.bridgeLog s record = logger.log disk s call :=
    (bridgeLog_eq f bridged s record).trans hlog.symm
  refine ⟨hbridge, rfl, htext logger, hlog, fun report => ?_⟩
  -- The gate and the events of a backend are its own, however it takes reports.
  rw [Logger.log_of_text _ disk s (htext _), bridgeLog_eq]
  rfl

end Host

end EventLog
