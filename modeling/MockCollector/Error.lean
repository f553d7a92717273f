import MockCollector.Duration
import MockCollector.Net.Address
/-!
# Failures of a collector

* `CollectorError`            why starting, feeding, waiting for or stopping a collector fails;
* `CollectorError.message`    its text.
-/

namespace MockCollector

/-- what a caller may wait for -/
inductive Awaited where
  | reports
  | spans
  deriving DecidableEq, Repr

def Awaited.text : Awaited → String
  | .reports => "reports"
  | .spans => "spans"

inductive CollectorError where
  | bind (address : SocketAddress) (cause : String)
  | server (message : String)
  | pipelineClosed
  | drainLost
  | waitTimeout (what : String) (expected found : Nat) (timeout : Duration)
  deriving DecidableEq, Repr

def CollectorError.message : CollectorError → String
  | .bind address cause => "Failed to bind to address " ++ address.text ++ ": " ++ cause
  | .server message => "Server error: " ++ message
  | .pipelineClosed => "Ingestion pipeline is closed"
  | .drainLost => "Ingestion pipeline stopped without signalling drain completion"
  | .waitTimeout what expected found timeout =>
    "Timed out after " ++ timeout.text ++ " waiting for " ++ toString expected ++ " " ++ what
      ++ ", found " ++ toString found

end MockCollector
