import MockCollector.Error
import MockCollector.Pipeline.Basic
import MockCollector.Request.Violation
/-!
# Answers

* `Answer`         what a request is answered with;
* `Answer.status`, `Answer.contentType?`, `Answer.body`   the parts of it that are sent;
* `Outcome`        how a task ends: a request may also be broken off, because it was wrong or because
                   a fault drops it.
-/

namespace MockCollector

inductive Answer where
  /-- a report was taken in -/
  | report (r : ReportResponse)
  | reports (rs : Reports)
  | spans (ss : Spans)
  /-- a fault or a toggle was set -/
  | done
  /-- the error that was armed -/
  | failed
  | unavailable (e : CollectorError)
  deriving DecidableEq

namespace Answer

def status : Answer → Nat
  | .failed => 500
  | .unavailable _ => 503
  | _ => 200

def contentType? : Answer → Option String
  | .report _ => some "application/octet-stream"
  | .reports _ => some "application/octet-stream"
  | .spans _ => some "application/octet-stream"
  | .unavailable _ => some "text/plain; charset=utf-8"
  | .done => none
  | .failed => none

def body : Answer → List UInt8
  | .report r => ReportResponse.layout.encode r
  | .reports rs => Reports.layout.encode rs
  | .spans ss => Spans.layout.encode ss
  | .unavailable e => e.message.toUTF8.toList
  | .done => []
  | .failed => []

end Answer

inductive Outcome where
  | answered (a : Answer)
  | violated (v : Violation)
  | dropped
  /-- a report was sent -/
  | sent
  | refused (e : CollectorError)
  | drained (n : Nat)
  | cancelled
  deriving DecidableEq

end MockCollector
