import EventLog.Pipeline.Basic

/-!
The worker of a pipeline. It waits for a message, takes whatever else is queued, flushes the file,
and only then answers the flushes among the messages; it ends when nothing can come any more. What
goes wrong is trapped, never passed on.
-/
namespace EventLog

/-- What a step of the worker leaves behind, and the errors it trapped. -/
structure Worked where
  disk : Disk
  pipeline : Pipeline
  trapped : List Error := []

namespace Pipeline

def errorOf (result : Except Error Unit) : List Error :=
  match result with
  | .error e => [e]
  | .ok () => []

def handle (d : Disk) (p : Pipeline) : Message → Worked
  | .event e =>
    let r := p.writer.write d e
    let own := r.result.mapError fun error =>
      error.withContext "sequence" (Text.number e.sequence.toNat)
    { disk := r.disk, pipeline := { p with writer := r.writer }, trapped := r.aside ++ errorOf own }
  | .redirect target =>
    let r := p.writer.redirect d target
    { disk := r.disk, pipeline := { p with writer := r.writer }, trapped := errorOf r.result }
  | .flush ticket => { disk := d, pipeline := { p with owed := p.owed ++ [ticket] } }

/-- Ends a batch: the file is flushed, then every flush of the batch is answered, whether or not the
disk took everything. -/
def endBatch (d : Disk) (p : Pipeline) : Worked :=
  let r := p.writer.flush d
  { disk := r.disk
    pipeline :=
      { p with
        writer := r.writer, phase := .resting, owed := [], settled := p.settled ++ p.owed }
    trapped := errorOf r.result }

def finish (d : Disk) (p : Pipeline) : Worked :=
  let batch := p.endBatch d
  let r := batch.pipeline.writer.close batch.disk
  { disk := r.disk
    pipeline := { batch.pipeline with writer := r.writer, phase := .finished }
    trapped := batch.trapped ++ errorOf r.result }

def step? (d : Disk) (p : Pipeline) : Option Worked :=
  match p.phase, p.queue.pop? with
  | .finished, _ => none
  | _, some (m, rest) => some (handle d { p with queue := rest, phase := .taking } m)
  | .taking, none => some (if p.isCut then p.finish d else p.endBatch d)
  | .resting, none => if p.isCut then some (p.finish d) else none

def steps : (fuel : Nat) → Disk → Pipeline → Worked
  | 0, d, p => { disk := d, pipeline := p }
  | fuel + 1, d, p =>
    match step? d p with
    | none => { disk := d, pipeline := p }
    | some one =>
      let more := steps fuel one.disk one.pipeline
      { more with trapped := one.trapped ++ more.trapped }

/-- The worker at work until it waits or has ended: a step for every message, and one to end the
batch. -/
def settle (d : Disk) (p : Pipeline) : Worked := steps (p.queue.size + 2) d p

def flush (d : Disk) (p : Pipeline) : Worked × Except Error Unit :=
  match p.hold with
  | .error e => ({ disk := d, pipeline := p }, .error e)
  | .ok held =>
    let done := (held.askFlush held.settled.length).settle d
    ({ done with pipeline := done.pipeline.release }, .ok ())

/-- Accepts no more and waits until the worker has ended. -/
def shutdown (d : Disk) (p : Pipeline) : Worked := p.stop.settle d

end Pipeline

end EventLog
