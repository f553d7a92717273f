import MockCollector.Fault
import MockCollector.Http.Target
import MockCollector.Request.Answer
import MockCollector.Request.Fixed
import MockCollector.Request.Streamed
/-!
# Tasks

What a collector has under way: requests, and sends and waits of its owner.

* `Request`       what a client sends;
* `Next`          what a task does when it goes on;
* `Next.report?`  how a report begins: what comes whole is handed to the pipeline at once, of a stream
                  the opening frames;
* `Progress`      where a task stands: ready to go on, or waiting, and for what;
* `Task`          a task with its number and the time at which it began.

A streamed report goes through one round for each span and one more for its end: where streams are
throttled it pauses, then it reads a span and hands that on.
-/

namespace MockCollector

structure Request where
  target : String
  headers : List Header
  body : Body
  deriving DecidableEq

def Request.path (r : Request) : String := Target.path r.target

/-- what is handed out of the store -/
inductive Listing where
  | reports
  | spans
  deriving DecidableEq, Repr

inductive Next where
  /-- hands `r` to the pipeline -/
  | offer (r : Report) (next : Next)
  /-- opens a round of a stream -/
  | round (s : OpenStream)
  /-- reads a span -/
  | span (s : OpenStream)
  /-- answers a report -/
  | respond
  | fetch (what : Listing)
  /-- ends a send -/
  | sent
  deriving DecidableEq

namespace Next

def report? (r : Request) : Except Violation Next :=
  if isStreamed r.path r.headers then
    (OpenStream.open? r.body).map fun (header, s) => .offer header (.round s)
  else (fixedReport r.headers r.body).map fun report => .offer report .respond

/-- how a task ends that has something left for a pipeline that is closed -/
def refusal : Next → Outcome
  | .sent => .refused .pipelineClosed
  | _ => .answered (.unavailable .pipelineClosed)

end Next

/-- how many moves may still follow, those of the reports that are handed on included -/
def Next.work : Next → Nat
  | .offer _ next => next.work + 4
  | .round s => 8 * s.body.events.length + 6
  | .span s => 8 * s.body.events.length + 4
  | .respond => 3
  | .fetch _ => 3
  | .sent => 1

inductive Progress where
  | ready (next : Next)
  /-- waits for room in the queue -/
  | queued (next : Next)
  | pausing (wake : Nat) (next : Next)
  /-- waits in line for the store -/
  | fetching (what : Listing)
  /-- kept without an answer until the collector stops -/
  | held
  /-- waits until the pipeline has drained -/
  | draining
  deriving DecidableEq

def Progress.work : Progress → Nat
  | .ready next => next.work
  | .queued next => next.work + 1
  | .pausing _ next => next.work + 1
  | .fetching _ => 1
  | .held => 1
  | .draining => 1

structure Task where
  id : TaskId
  started : Nat
  progress : Progress
  deriving DecidableEq

/-- whoever waits for the drain does not keep it waiting -/
def Task.ownsSender (t : Task) : Bool := t.progress != .draining

/-- counts the task itself too, so that there is less once it has ended -/
def Task.work (t : Task) : Nat := t.progress.work + 1

/-- how a task ended, and how long it took -/
structure Ended where
  id : TaskId
  outcome : Outcome
  elapsed : Nat
  deriving DecidableEq

end MockCollector
