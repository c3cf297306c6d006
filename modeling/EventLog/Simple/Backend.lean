import EventLog.Backend
import EventLog.Simple.Basic

/-!
The simple backend as a backend of every logger.
-/
namespace EventLog.Simple

def backend : Backend Simple where
  name := name
  isEnabled s _ level := s.isEnabled level
  log := log
  report s _ e := s.trapError e
  flush := flush
  shutdown := shutdown

end EventLog.Simple
