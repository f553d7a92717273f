import MockCollector.Error
/-!
# Waiting for the store to fill

Whoever waits looks at the store again and again, until it holds enough or the time is up.

* `Wait`            what is waited for, how much of it, and for how long;
* `Wait.judge w p`  what a look `p` decides: enough ends the wait, also when it comes late;
* `Wait.run`        looks one after the other, and `none` if too few looks were taken.
-/

namespace MockCollector

/-- what there is at a time, in nanoseconds since the wait began -/
structure Look where
  time : Nat
  found : Nat
  deriving DecidableEq, Repr

structure Wait where
  what : Awaited
  expected : Nat
  timeout : Duration
  deriving DecidableEq, Repr

namespace Wait

/-- the least time between two looks -/
def interval : Duration := .ofMillis 10

def judge (w : Wait) (p : Look) : Option (Except CollectorError Unit) :=
  if w.expected ≤ p.found then some (.ok ())
  else if w.timeout.nanos ≤ p.time then
    some (.error (.waitTimeout w.what.text w.expected p.found w.timeout))
  else none

def runFrom (w : Wait) (look : Nat → Look) : Nat → Nat → Option (Except CollectorError Unit)
  | 0, _ => none
  | more + 1, i =>
    match w.judge (look i) with
    | some result => some result
    | none => runFrom w look more (i + 1)

/-- looks that it takes at most, if each comes an interval after the one before -/
def looks (w : Wait) : Nat := (w.timeout.nanos + interval.nanos - 1) / interval.nanos + 1

def run (w : Wait) (look : Nat → Look) : Option (Except CollectorError Unit) :=
  w.runFrom look w.looks 0

end Wait

end MockCollector
