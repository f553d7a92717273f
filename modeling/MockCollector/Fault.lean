/-!
# Faults

What may go wrong on purpose when a report is answered.

* `OneShot`         the faults that strike one answer: an error, a timeout, a premature close;
* `Faults`          which of them are armed, and whether streamed reports are throttled;
* `Faults.arm`, `Faults.consume`   arming one, and taking it off again;
* `Faults.first?`   the one that the next answer meets.

Arming a fault that is armed already changes nothing, so it strikes once all the same.  Throttling stays
until it is switched off.
-/

namespace MockCollector

inductive OneShot where
  | error
  | timeout
  | prematureClose
  deriving DecidableEq, Repr

structure Faults where
  error : Bool
  timeout : Bool
  throttle : Bool
  prematureClose : Bool
  deriving DecidableEq, Repr

namespace Faults

def none : Faults := ⟨false, false, false, false⟩

def isArmed (f : Faults) : OneShot → Bool
  | .error => f.error
  | .timeout => f.timeout
  | .prematureClose => f.prematureClose

def set (f : Faults) (armed : Bool) : OneShot → Faults
  | .error => { f with error := armed }
  | .timeout => { f with timeout := armed }
  | .prematureClose => { f with prematureClose := armed }

def arm (f : Faults) (k : OneShot) : Faults := f.set true k

/-- whether the fault was armed, and the faults without it -/
def consume (f : Faults) (k : OneShot) : Bool × Faults := (f.isArmed k, f.set false k)

def setThrottle (f : Faults) (on : Bool) : Faults := { f with throttle := on }

/-- a premature close comes before a timeout, and a timeout before an error -/
def first? (f : Faults) : Option OneShot :=
  [.prematureClose, .timeout, .error].find? f.isArmed

def text (f : Faults) : String :=
  "FaultInjector \x7b error: " ++ toString f.error ++ ", timeout: " ++ toString f.timeout
    ++ ", throttle: " ++ toString f.throttle ++ ", premature_close: " ++ toString f.prematureClose
    ++ " \x7d"

theorem isArmed_set (f : Faults) (b : Bool) (k j : OneShot) :
    (f.set b k).isArmed j = if j = k then b else f.isArmed j := by
  cases k <;> cases j <;> rfl

theorem set_set (f : Faults) (b c : Bool) (k : OneShot) : (f.set b k).set c k = f.set c k := by
  cases k <;> rfl

end Faults

end MockCollector
