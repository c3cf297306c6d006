import EventLog.Pipeline.Queue
import EventLog.Rolling.Basic

/-!
A queue of events with one worker at its end, which alone owns the writer of log files. Callers and
the worker take turns in any order: what a caller does is one move on the queue, and what the worker
does between two messages is one step.
-/
namespace EventLog

/-- What callers put into the queue. A flush carries the ticket that its caller waits for. -/
inductive Message where
  | event (e : Event)
  | redirect (target : Target)
  | flush (ticket : Nat)
  deriving DecidableEq, Repr

/-- Where the worker stands: before the first message of a batch, inside a batch, or at its end,
with the file closed. -/
inductive Phase where
  | resting
  | taking
  | finished
  deriving DecidableEq, Repr

/-- A pipeline. `next` is the number of the next event, and none once no more are accepted.
`holders` are the flushes that keep the queue open, `owed` the tickets taken from it since the last
flush of the file, and `settled` those that were answered. -/
structure Pipeline where
  next : Option UInt64 := some 0
  holders : Nat := 0
  queue : Queue Message := {}
  phase : Phase := .resting
  owed : List Nat := []
  settled : List Nat := []
  writer : Rolling
  deriving Repr

namespace Pipeline

def start (writer : Rolling) : Pipeline := { writer }

def closedError : Error :=
  { kind := .pipelineClosed, message := "the log file pipeline is shut down" }

def isShutdown (p : Pipeline) : Bool := p.next.isNone

/-- Accepts an event at a time and numbers it. -/
def enqueue (p : Pipeline) (now : Instant) (level : Level) (channel text : String) :
    Except Error (UInt64 × Pipeline) :=
  match p.next with
  | none => .error closedError
  | some n =>
    let e : Event := { sequence := n, level, time := now, channel, text }
    .ok (n, { p with next := some (n + 1), queue := p.queue.push (.event e) })

/-- Sends the events accepted from now on to another target. -/
def redirect (p : Pipeline) (target : Target) : Except Error Pipeline :=
  match p.next with
  | none => .error closedError
  | some _ => .ok { p with queue := p.queue.push (.redirect target) }

/-- Takes hold of the queue, so that it stays open until a flush is answered. -/
def hold (p : Pipeline) : Except Error Pipeline :=
  match p.next with
  | none => .error closedError
  | some _ => .ok { p with holders := p.holders + 1 }

def askFlush (p : Pipeline) (ticket : Nat) : Pipeline :=
  { p with queue := p.queue.push (.flush ticket) }

/-- Lets go of the queue, once the ticket was answered. -/
def release (p : Pipeline) : Pipeline := { p with holders := p.holders - 1 }

def stop (p : Pipeline) : Pipeline := { p with next := none }

/-- Whether nothing can come any more. -/
def isCut (p : Pipeline) : Bool := p.next.isNone && p.holders == 0

end Pipeline

end EventLog
