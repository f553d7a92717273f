import MockCollector.Collector.Basic
import MockCollector.Http.Endpoint
/-!
# What is asked of a collector

* `Collector.send r`        sends a report, as a task;
* `Collector.awaitDrain`    waits for the pipeline to drain, as a task;
* `Collector.perform a r`   carries out the action `a` for a request `r`, as a task;
* `Collector.stop`          stops listening, which drops the requests that are held;
* `Collector.release`       gives up the collector's own right to send, so that the pipeline can drain;
* `Collector.kill`          does away with the consumer and all tasks;
* `Collector.takeEnded`     the tasks that ended, by number, which are then forgotten.
-/

namespace MockCollector.Collector

def launch (c : Collector) (next : Next) : Collector := (c.begin (.ready next)).2

def send (r : Report) (c : Collector) : Collector := c.launch (.offer r .sent)

def awaitDrain (c : Collector) : Collector := (c.begin .draining).2

/-- a task that ends as soon as it begins -/
def once (c : Collector) (outcome : Outcome) : Collector :=
  let (t, c) := c.begin (.ready .respond)
  c.finish t outcome

def setFaults (faults : Faults) (c : Collector) : Collector := { c with faults }

def perform (action : Action) (request : Request) (c : Collector) : Collector :=
  match action with
  | .report =>
    match Next.report? request with
    | .ok next => c.launch next
    | .error v => c.once (.violated v)
  | .reports => c.launch (.fetch .reports)
  | .spans => c.launch (.fetch .spans)
  | .arm k => (c.setFaults (c.faults.arm k)).once (.answered .done)
  | .throttle on => (c.setFaults (c.faults.setThrottle on)).once (.answered .done)

def stop (c : Collector) : Collector := { c with stopped := true }

def setPipeline (f : Pipeline → Pipeline) (c : Collector) : Collector :=
  { c with pipeline := f c.pipeline }

def release (c : Collector) : Collector := c.setPipeline .dropSender

def kill (c : Collector) : Collector :=
  let c := c.tasks.foldl (fun c t => c.finish t .cancelled) c
  c.setPipeline .kill

def takeEnded (c : Collector) : List Ended × Collector :=
  (c.ended.mergeSort fun a b => a.id ≤ b.id, { c with ended := [] })

end MockCollector.Collector
