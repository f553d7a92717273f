import MockCollector.Error
import MockCollector.Store.Basic
/-!
# The ingestion pipeline

Reports pass through a bounded queue to a single consumer, which stores them one by one.  Whoever finds
the queue full waits for room, first come first served; and whoever wants the store waits for it in one
line, the consumer among them.

* `Pipeline`                    the queue, the sends that wait for room, the consumer and the store;
* `Pipeline.start`              an empty queue of some capacity in front of a store;
* `Pipeline.offer t r`          hands in a report for a task `t`;
* `Pipeline.take?`              the consumer takes a report out, which makes room for the next;
* `Pipeline.store?`             the consumer stores the report that it holds;
* `Pipeline.read?`              the first in line reads the store;
* `Pipeline.finish?`            the consumer ends once nobody can send any more;
* `Pipeline.drained?`           what is then known of how many reports it stored.

Each step that has a question mark is `none` where it cannot be taken.
-/

namespace MockCollector

abbrev TaskId := Nat

inductive Consumer where
  | idle
  | holding (r : Report)
  | finished
  | killed
  deriving DecidableEq

def Consumer.isOver : Consumer → Bool
  | .finished => true
  | .killed => true
  | _ => false

/-- whether the consumer still has to end -/
def Consumer.work (c : Consumer) : Nat := if c.isOver then 0 else 1

/-- who waits for the store -/
inductive Waiter where
  | consumer
  | reader (t : TaskId)
  deriving DecidableEq, Repr

structure Pipeline where
  capacity : Nat
  /-- how many can still send, a task that is under way included -/
  senders : Nat
  queue : List Report
  waiting : List (TaskId × Report)
  consumer : Consumer
  /-- how many reports the consumer has stored -/
  stored : Nat
  store : ReportStore
  /-- whether somebody from outside holds the store -/
  locked : Bool
  line : List Waiter
  deriving DecidableEq

inductive CapacityError where
  | zero
  | tooLarge
  deriving DecidableEq, Repr

namespace Pipeline

def maxCapacity : Nat := (1 <<< 61) - 1

end Pipeline

def CapacityError.message : CapacityError → String
  | .zero => "mpsc bounded channel requires buffer > 0"
  | .tooLarge =>
    "a semaphore may not have more than MAX_PERMITS permits (" ++ toString Pipeline.maxCapacity ++ ")"

namespace Pipeline

def start (capacity : Nat) (store : ReportStore) : Except CapacityError Pipeline :=
  if capacity = 0 then .error .zero
  else if maxCapacity < capacity then .error .tooLarge
  else .ok ⟨capacity, 1, [], [], .idle, 0, store, false, []⟩

/-! ## senders -/

def addSender (p : Pipeline) : Pipeline := { p with senders := p.senders + 1 }

def dropSender (p : Pipeline) : Pipeline := { p with senders := p.senders - 1 }

/-- nothing can be sent any more -/
def isClosed (p : Pipeline) : Bool := p.consumer.isOver

inductive Offer where
  | refused
  | accepted (p : Pipeline)
  | waits (p : Pipeline)

/-- a report goes behind those that have been waiting -/
def offer (t : TaskId) (r : Report) (p : Pipeline) : Offer :=
  if p.isClosed then .refused
  else if p.queue.length < p.capacity ∧ p.waiting = [] then
    .accepted { p with queue := p.queue ++ [r] }
  else .waits { p with waiting := p.waiting ++ [(t, r)] }

/-! ## the consumer -/

/-- the consumer gets in line with the report; the first that waits gets room, and its task is told -/
def take? (p : Pipeline) : Option (Option TaskId × Pipeline) :=
  match p.consumer, p.queue with
  | .idle, r :: rest =>
    some ((p.waiting.map Prod.fst).head?, { p with
      consumer := .holding r, line := p.line ++ [Waiter.consumer]
      queue := rest ++ (p.waiting.map Prod.snd).take 1, waiting := p.waiting.drop 1 })
  | _, _ => none

def store? (p : Pipeline) : Option Pipeline :=
  match p.consumer, p.line, p.locked with
  | .holding r, .consumer :: line, false =>
    some { p with
      consumer := .idle, line := line, store := p.store.append r, stored := p.stored + 1 }
  | _, _, _ => none

def finish? (p : Pipeline) : Option Pipeline :=
  match p.consumer, p.queue, p.senders with
  | .idle, [], 0 => some { p with consumer := .finished }
  | _, _, _ => none

/-- what the consumer left behind is lost, and so is everyone's place in a line -/
def kill (p : Pipeline) : Pipeline :=
  { p with
    consumer := if p.consumer = .finished then .finished else .killed
    queue := [], waiting := [], line := [] }

def drained? (p : Pipeline) : Option (Except CollectorError Nat) :=
  match p.consumer with
  | .finished => some (.ok p.stored)
  | .killed => some (.error .drainLost)
  | _ => none

/-- how many steps may still follow: a report in the queue is taken and stored, and the consumer ends -/
def work (p : Pipeline) : Nat :=
  2 * p.queue.length + 2 * p.waiting.length + p.line.length + p.consumer.work

/-! ## the store -/

def lock (p : Pipeline) : Pipeline := { p with locked := true }

def unlock (p : Pipeline) : Pipeline := { p with locked := false }

def queueReader (t : TaskId) (p : Pipeline) : Pipeline := { p with line := p.line ++ [Waiter.reader t] }

def read? (p : Pipeline) : Option (TaskId × Pipeline) :=
  match p.line, p.locked with
  | .reader t :: line, false => some (t, { p with line := line })
  | _, _ => none

end Pipeline

end MockCollector
