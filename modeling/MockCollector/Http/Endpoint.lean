import MockCollector.Fault
/-!
# Endpoints

* `Endpoint`, `Endpoint.path`     the places a collector answers at;
* `Endpoint.action? e method`     what a request of `method` does there;
* `Endpoint.allow`                the methods it takes, as an answer that refuses another lists them;
* `Endpoint.ofPath?`              the endpoint at a path, which must be spelt exactly.
-/

namespace MockCollector

inductive Endpoint where
  | report
  | streamedReport
  | reports
  | spans
  | error
  | timeout
  | throttle
  | prematureClose
  deriving DecidableEq, Repr

/-- what a request asks for -/
inductive Action where
  | report
  | reports
  | spans
  | arm (k : OneShot)
  | throttle (on : Bool)
  deriving DecidableEq, Repr

namespace Endpoint

def all : List Endpoint :=
  [.report, .streamedReport, .reports, .spans, .error, .timeout, .throttle, .prematureClose]

def path : Endpoint → String
  | .report => "/api/v2/reports"
  | .streamedReport => "/report-mock-streaming"
  | .reports => "/reports"
  | .spans => "/spans"
  | .error => "/error-on-next-report"
  | .timeout => "/timeout-on-next-report"
  | .throttle => "/throttle-reports"
  | .prematureClose => "/premature-close-next-report"

def ofPath? (p : String) : Option Endpoint := all.find? fun e => e.path == p

/-- the actions by method; what may be fetched may be asked for its head alone -/
def actions : Endpoint → List (String × Action)
  | .report => [("POST", .report)]
  | .streamedReport => [("POST", .report)]
  | .reports => [("GET", .reports), ("HEAD", .reports)]
  | .spans => [("GET", .spans), ("HEAD", .spans)]
  | .error => [("POST", .arm .error)]
  | .timeout => [("POST", .arm .timeout)]
  | .throttle => [("POST", .throttle true), ("DELETE", .throttle false)]
  | .prematureClose => [("POST", .arm .prematureClose)]

def action? (e : Endpoint) (method : String) : Option Action := e.actions.lookup method

def allow (e : Endpoint) : String := ",".intercalate (e.actions.map Prod.fst)

theorem mem_all (e : Endpoint) : e ∈ all := by cases e <;> decide

end Endpoint

end MockCollector
