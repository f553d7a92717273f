import MockCollector.Collector.Task
import MockCollector.Pipeline.Basic
/-!
# A running collector

A collector is its pipeline, its faults, a clock and the tasks that are under way.

* `Collector`              the state;
* `Collector.begin`        starts a task;
* `Collector.resume`       lets a task that is ready go on to where it has to wait, or ends it;
* `Collector.move?`        one thing that can happen now, or `none` if everything waits;
* `Collector.settle`       lets everything happen that can;
* `Collector.advance ms`   lets the clock run, and everything happen that falls due.

Tasks go before the consumer, and among tasks the one that began first.
-/

namespace MockCollector

structure Collector where
  pipeline : Pipeline
  faults : Faults
  /-- whether the collector no longer listens -/
  stopped : Bool
  /-- how long a throttled stream pauses, in milliseconds -/
  throttleDelay : Nat
  /-- the time, in milliseconds -/
  now : Nat
  tasks : List Task
  nextId : TaskId
  /-- the tasks that ended, latest last -/
  ended : List Ended
  deriving DecidableEq

namespace Collector

def start (p : Pipeline) (throttleDelay : Nat) : Collector :=
  ⟨p, Faults.none, false, throttleDelay, 0, [], 0, []⟩

def store (c : Collector) : ReportStore := c.pipeline.store

/-! ## tasks -/

def setProgress (c : Collector) (id : TaskId) (progress : Progress) : Collector :=
  { c with tasks := c.tasks.map fun t => if t.id = id then { t with progress } else t }

/-- a task that ends gives up its right to send -/
def finish (c : Collector) (t : Task) (outcome : Outcome) : Collector :=
  { c with
    tasks := c.tasks.filter fun u => u.id != t.id
    pipeline := if t.ownsSender then c.pipeline.dropSender else c.pipeline
    ended := c.ended ++ [⟨t.id, outcome, c.now - t.started⟩] }

def begin (c : Collector) (progress : Progress) : Task × Collector :=
  let t : Task := ⟨c.nextId, c.now, progress⟩
  (t, { c with
    tasks := c.tasks ++ [t]
    nextId := c.nextId + 1
    pipeline := if t.ownsSender then c.pipeline.addSender else c.pipeline })

def timestamp (ms : Nat) : Timestamp :=
  ⟨Int64.ofNat (ms / 1000), Int32.ofNat (ms % 1000 * 1_000_000)⟩

/-- the answer to a report that nothing goes wrong with -/
def received (c : Collector) (t : Task) : ReportResponse :=
  { ReportResponse.layout.empty with
    receiveTimestamp := some (timestamp t.started)
    transmitTimestamp := some (timestamp c.now) }

/-- answers a report, unless a fault is armed, which is then used up -/
def respond (c : Collector) (t : Task) : Collector :=
  match c.faults.first? with
  | none => c.finish t (.answered (.report (c.received t)))
  | some k =>
    let c := { c with faults := (c.faults.consume k).2 }
    match k with
    | .prematureClose => { c with stopped := true }.finish t .dropped
    | .timeout => c.setProgress t.id .held
    | .error => c.finish t (.answered .failed)

def resume (c : Collector) (t : Task) : Next → Collector
  | .offer r next =>
    match c.pipeline.offer t.id r with
    | .refused => c.finish t next.refusal
    | .accepted p => { c with pipeline := p }.setProgress t.id (.ready next)
    | .waits p => { c with pipeline := p }.setProgress t.id (.queued next)
  | .round s =>
    if c.faults.throttle then c.setProgress t.id (.pausing (c.now + c.throttleDelay) (.span s))
    else c.setProgress t.id (.ready (.span s))
  | .span s =>
    match s.next with
    | .ended => c.setProgress t.id (.ready .respond)
    | .span r rest => c.setProgress t.id (.ready (.offer r (.round rest)))
    | .violated v => c.finish t (.violated v)
  | .respond => c.respond t
  | .fetch what =>
    { c with pipeline := c.pipeline.queueReader t.id }.setProgress t.id (.fetching what)
  | .sent => c.finish t .sent

/-- what a task does now, if it need not wait -/
def taskStep? (c : Collector) (t : Task) : Option Collector :=
  match t.progress with
  | .ready next => some (c.resume t next)
  | .pausing wake next => if wake ≤ c.now then some (c.resume t next) else none
  | .held => if c.stopped then some (c.finish t .dropped) else none
  | .draining => c.pipeline.drained?.map fun
    | .ok n => c.finish t (.drained n)
    | .error e => c.finish t (.refused e)
  | .queued _ => none
  | .fetching _ => none

/-! ## the pipeline -/

/-- the task whose report got room goes on -/
def giveRoom (c : Collector) (id : TaskId) : Collector :=
  { c with tasks := c.tasks.map fun t =>
      match t.progress with
      | .queued next => if t.id = id then { t with progress := .ready next } else t
      | _ => t }

def take? (c : Collector) : Option Collector :=
  c.pipeline.take?.map fun (roomFor, p) =>
    let c := { c with pipeline := p }
    match roomFor with
    | none => c
    | some id => c.giveRoom id

def listing (s : ReportStore) : Listing → Answer
  | .reports => .reports ⟨s.reports⟩
  | .spans => .spans ⟨s.spans⟩

/-- the first in line is served from the store as it is -/
def read? (c : Collector) : Option Collector :=
  c.pipeline.read?.map fun (id, p) =>
    let c := { c with pipeline := p }
    match c.tasks.find? fun t => t.id == id with
    | none => c
    | some t =>
      match t.progress with
      | .fetching what => c.finish t (.answered (listing c.store what))
      | _ => c

def pipelineStep? (c : Collector) : Option Collector :=
  (c.pipeline.store?.map fun p => { c with pipeline := p })
    <|> c.read?
    <|> c.take?
    <|> (c.pipeline.finish?.map fun p => { c with pipeline := p })

/-! ## running -/

def move? (c : Collector) : Option Collector :=
  c.tasks.findSome? c.taskStep? <|> c.pipelineStep?

def tasksWork : List Task → Nat
  | [] => 0
  | t :: ts => t.work + tasksWork ts

/-- at least as many moves as can follow without something from outside: each makes this less -/
def work (c : Collector) : Nat := tasksWork c.tasks + c.pipeline.work

def settleWithin : Nat → Collector → Collector
  | 0, c => c
  | n + 1, c =>
    match c.move? with
    | none => c
    | some c => settleWithin n c

def settle (c : Collector) : Collector := settleWithin c.work c

/-- when the first of the pauses is over -/
def due? (c : Collector) : Option Nat :=
  (c.tasks.filterMap fun t =>
    match t.progress with
    | .pausing wake _ => some wake
    | _ => none).min?

def advanceWithin : Nat → Nat → Collector → Collector
  | 0, time, c => { c.settle with now := time }
  | n + 1, time, c =>
    let c := c.settle
    match c.due? with
    | none => { c with now := time }
    | some wake =>
      if wake ≤ time then advanceWithin n time { c with now := wake } else { c with now := time }

def advance (ms : Nat) (c : Collector) : Collector := advanceWithin c.work (c.now + ms) c

end Collector

end MockCollector
