import MockCollector.Stream.Frame
/-!
# Protocol violations

A report that breaks the protocol is a fault of the client under test, so its request is aborted and not
answered.

* `Phase`        what the collector was reading;
* `Violation`    what was wrong, and `Violation.message`, which says so.
-/

namespace MockCollector

inductive Phase where
  | prologue
  | span
  deriving DecidableEq, Repr

def Phase.text : Phase → String
  | .prologue => "reading prologue"
  | .span => "reading span"

inductive Violation where
  | noLength
  | tooLong
  | wrongLength (declared received : Nat)
  | body (e : IoError)
  | report (e : Wire.DecodeError)
  | prologue (e : FrameError)
  | span (e : FrameError)
  deriving DecidableEq, Repr

namespace Violation

/-- a report that comes whole is one long prologue -/
def phase : Violation → Phase
  | .span _ => .span
  | _ => .prologue

def cause : Violation → String
  | .noLength => "missing or invalid content-length"
  | .tooLong => "length limit exceeded"
  | .wrongLength declared received =>
    "declared " ++ toString declared ++ " bytes, received " ++ toString received
  | .body e => e.message
  | .report e => e.message
  | .prologue e => e.message
  | .span e => e.message

def text (phase : Phase) (cause : String) : String :=
  "report protocol violation while " ++ phase.text ++ ": " ++ cause

def message (v : Violation) : String := text v.phase v.cause

end Violation

end MockCollector
