import MockCollector.Collector.Rest
import MockCollector.Proofs.Pipeline.Runs
/-!
# Runs of a collector

Tasks, the pipeline, the clock, clients and the owner take their steps in any order.

* `Happening`              one such step;
* `Collector.happen? e`    what it makes of a collector, or `none` where it cannot be taken;
* `Course`, `Course.run`   a collector in a run, and the reports that its tasks handed to the pipeline;
* `Stage`, `Collector.At`  how far a task has come: it is under way, or it is over;
* `Next.Leads`, `Progress.Leads`   what a task does in one step, and which reports it hands over.

Whoever begins a task needs a right to send to hand on to it, so nothing begins once all such rights are
given up.  The consumer is not done away with.
-/

namespace MockCollector

inductive Happening where
  /-- a task goes on -/
  | go (id : TaskId)
  | take
  | store
  | read
  | close
  | elapse (ms : Nat)
  | perform (a : Action) (r : Request)
  | send (r : Report)
  | awaitDrain
  | arm (k : OneShot)
  | consume (k : OneShot)
  | throttle (on : Bool)
  | lock
  | unlock
  | stop
  | clone
  | release
  deriving DecidableEq

/-- whether it needs nobody to ask for something: a task, the pipeline and the clock go on, and whoever
holds the store gives it back -/
def Happening.isSpontaneous : Happening → Bool
  | .go _ | .take | .store | .read | .close | .elapse _ | .unlock => true
  | _ => false

/-! ## happenings -/

namespace Collector

/-- how many of the rights to send belong to tasks -/
def owners (c : Collector) : Nat := (c.tasks.filter Task.ownsSender).length

/-- what the owner does with a right to send of its own -/
def withRight (c d : Collector) : Option Collector :=
  if c.owners < c.pipeline.senders then some d else none

theorem withRight_eq_some {c d e : Collector} :
    c.withRight d = some e ↔ c.owners < c.pipeline.senders ∧ d = e := by
  rw [withRight, Option.ite_none_right_eq_some, Option.some_inj]

def happen? (c : Collector) : Happening → Option Collector
  | .go id => (c.tasks.find? fun t => t.id == id).bind c.taskStep?
  | .take => c.take?
  | .store => c.pipeline.store?.map fun p => { c with pipeline := p }
  | .read => c.read?
  | .close => c.pipeline.finish?.map fun p => { c with pipeline := p }
  | .elapse ms => some { c with now := c.now + ms }
  | .perform a r => c.withRight (c.perform a r)
  | .send r => c.withRight (c.send r)
  | .awaitDrain => some c.awaitDrain
  | .arm k => some (c.setFaults (c.faults.arm k))
  | .consume k => some (c.setFaults (c.faults.consume k).2)
  | .throttle on => some (c.setFaults (c.faults.setThrottle on))
  | .lock => if c.pipeline.locked then none else some (c.setPipeline .lock)
  | .unlock => if c.pipeline.locked then some (c.setPipeline .unlock) else none
  | .stop => some c.stop
  | .clone => c.withRight (c.setPipeline .addSender)
  | .release => c.withRight c.release

/-- what has come behind the reports that were queued or waited -/
def arrived (c d : Collector) : List Report :=
  d.pipeline.incoming.drop c.pipeline.incoming.length

/-- the reports that tasks hand to the pipeline when `e` leads from `c` to `d` -/
def handed (c d : Collector) : Happening → List (TaskId × Report)
  | .go id => (c.arrived d).map fun r => (id, r)
  | _ => []

end Collector

structure Course where
  collector : Collector
  handed : List (TaskId × Report)
  deriving DecidableEq

namespace Course

def opened (p : Pipeline) (throttleDelay : Nat) : Course := ⟨.start p throttleDelay, []⟩

def step? (k : Course) (e : Happening) : Option Course :=
  (k.collector.happen? e).map fun d => ⟨d, k.handed ++ k.collector.handed d e⟩

def run : List Happening → Course → Option Course := MockCollector.run step?

end Course

/-! ## stages -/

inductive Stage where
  | underway (p : Progress)
  | ended (o : Outcome)
  deriving DecidableEq

def Collector.At (c : Collector) (id : TaskId) : Stage → Prop
  | .underway p => ∃ t ∈ c.tasks, t.id = id ∧ t.progress = p
  | .ended o => ∃ e ∈ c.ended, e.id = id ∧ e.outcome = o

inductive Next.Leads : Next → List Report → Stage → Prop where
  | accepted (r : Report) (n : Next) : Leads (.offer r n) [r] (.underway (.ready n))
  | waits (r : Report) (n : Next) : Leads (.offer r n) [r] (.underway (.queued n))
  | pauses (s : OpenStream) (wake : Nat) : Leads (.round s) [] (.underway (.pausing wake (.span s)))
  | reads (s : OpenStream) : Leads (.round s) [] (.underway (.ready (.span s)))
  | ended {s : OpenStream} (h : s.next = .ended) : Leads (.span s) [] (.underway (.ready .respond))
  | item {s rest : OpenStream} {r : Report} (h : s.next = .span r rest) :
    Leads (.span s) [] (.underway (.ready (.offer r (.round rest))))
  | violated {s : OpenStream} {v : Violation} (h : s.next = .violated v) :
    Leads (.span s) [] (.ended (.violated v))
  | answered (a : Answer) : Leads .respond [] (.ended (.answered a))
  | held : Leads .respond [] (.underway .held)
  | dropped : Leads .respond [] (.ended .dropped)
  | fetches (what : Listing) : Leads (.fetch what) [] (.underway (.fetching what))
  | sent : Leads .sent [] (.ended .sent)

inductive Progress.Leads : Progress → List Report → Stage → Prop where
  | goes {n : Next} {rs : List Report} {s : Stage} (h : n.Leads rs s) : Leads (.ready n) rs s
  | wakes {n : Next} {rs : List Report} {s : Stage} (wake : Nat) (h : n.Leads rs s) :
    Leads (.pausing wake n) rs s
  | hasRoom (n : Next) : Leads (.queued n) [] (.underway (.ready n))
  | served (what : Listing) (a : Answer) : Leads (.fetching what) [] (.ended (.answered a))
  | released : Leads .held [] (.ended .dropped)
  | drained (n : Nat) : Leads .draining [] (.ended (.drained n))

end MockCollector
