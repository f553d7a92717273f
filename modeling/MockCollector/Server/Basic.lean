import MockCollector.Server.Exchange
import MockCollector.Server.Wait
import MockCollector.Settings
/-!
# A server

A server is a collector with settings of its own, and requests come to it one after the other.

* `Server.start settings store`     a server that has nothing to do yet;
* `Server.exchange connects r`      a request, and what comes of it;
* `Server.awaitStored w`            waits for reports or spans;
* `Server.shutdown`                 stops, drops the requests that are held, and drains the pipeline:
                                    the number of reports that were stored.
-/

namespace MockCollector

structure Server where
  settings : Settings
  collector : Collector
  deriving DecidableEq

namespace Server

def start (settings : Settings) (store : ReportStore) : Except CapacityError Server :=
  (Pipeline.start settings.queueCapacity store).map fun p =>
    ⟨settings, .start p (settings.throttleDelay.toMillis)⟩

def store (s : Server) : ReportStore := s.collector.store

def faults (s : Server) : Faults := s.collector.faults

def isStopped (s : Server) : Bool := s.collector.stopped

/-- lets everything happen that needs nothing from outside, and all pauses pass -/
def runOut (c : Collector) : Collector :=
  (c.advance (c.work * c.throttleDelay)).settle

def replyTo (method : String) (id : TaskId) (c : Collector) : Reply :=
  match c.ended.find? fun e => e.id == id with
  | some e => .ofOutcome method e.outcome
  | none => .held id

/-- `connects` says whether the client's connection comes about at all -/
def exchange (connects : Bool) (r : ClientRequest) (s : Server) : Reply × Server :=
  if !connects || s.isStopped then (.refused, s)
  else
    match r.action? with
    | .error response => (.response response, s)
    | .ok action =>
      let c := runOut (s.collector.perform action r.toRequest)
      (replyTo r.method s.collector.nextId c, { s with collector := c })

def setFaults (f : Faults → Faults) (s : Server) : Server :=
  { s with collector := s.collector.setFaults (f s.faults) }

def amount (store : ReportStore) : Awaited → Nat
  | .reports => store.reportCount
  | .spans => store.spanCount

/-- nothing is under way while the owner waits, so every look finds the same -/
def awaitStored (w : Wait) (s : Server) : Except CollectorError Unit :=
  (w.run fun i => ⟨i * Wait.interval.nanos, amount s.store w.what⟩).getD (.ok ())

def stop (s : Server) : Server := { s with collector := s.collector.stop.settle }

/-- what is known of a request that was held -/
def heldReply (id : TaskId) (s : Server) : Reply := replyTo "POST" id s.collector

def shutdown (s : Server) : Option (Except CollectorError Nat) × Server :=
  let s := { s with collector := (s.stop.collector.release).settle }
  (s.collector.pipeline.drained?, s)

def text (address : String) (s : Server) : String :=
  "ServerHandle \x7b addr: " ++ address ++ ", faults: " ++ s.faults.text
    ++ ", store: \"<RwLock<ReportStore>>\" \x7d"

end Server

end MockCollector
