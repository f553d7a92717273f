import MockCollector.Http.Endpoint
import MockCollector.Http.Header
import MockCollector.Number.Numeral
/-!
# How a report is transferred

A report comes whole, with its length declared, or as a stream.

* `isStreamed path headers`     whether it is a stream: at the endpoint for streams everything is, and
                                elsewhere what has a transfer coding `chunked`;
* `declaredLength? headers`     the length that a whole report declares; of several the first counts.
-/

namespace MockCollector

def isStreamed (path : String) (headers : List Header) : Bool :=
  path == Endpoint.streamedReport.path
    || (Headers.items "transfer-encoding" headers).any fun coding =>
      sameIgnoringCase coding "chunked"

/-- the largest length that can be declared -/
def maxLength : Nat := UInt64.size - 1

def declaredLength? (headers : List Header) : Option Nat := do
  let value ← (Headers.values "content-length" headers).head?
  (Numeral.natural maxLength (← Header.visible? value).toList).toOption

end MockCollector
