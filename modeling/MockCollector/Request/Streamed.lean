import MockCollector.Request.Violation
/-!
# Reports that come as a stream

* `OpenStream`          a stream whose opening frames have been read;
* `OpenStream.open?`    reads them: the report to store for them, and the rest of the stream;
* `OpenStream.next`     reads the next span: the report to store for it, and the rest.

A span is reported by whom the stream is; the client's metrics go with the opening frames alone, so that
they count once.
-/

namespace MockCollector

structure OpenStream where
  reporter : Option Reporter
  auth : Option Auth
  body : Body
  deriving DecidableEq

/-- to a stream, whatever fails in the transport is one and the same -/
def Body.withOtherFailures (body : Body) : Body :=
  body.map fun
    | .bytes bs => .bytes bs
    | .failure e => .failure ⟨.other, e.message⟩

namespace OpenStream

def open? (body : Body) : Except Violation (Report × OpenStream) :=
  match Decoder.header body.withOtherFailures with
  | (.error e, _) => .error (.prologue e)
  | (.ok header, rest) => .ok (header, ⟨header.reporter, header.auth, rest⟩)

/-- the report that stands for one span -/
def item (s : OpenStream) (span : Span) : Report :=
  { Report.empty with reporter := s.reporter, auth := s.auth, spans := [span] }

inductive Step where
  | ended
  | span (r : Report) (rest : OpenStream)
  | violated (v : Violation)

def next (s : OpenStream) : Step :=
  match Decoder.span? s.body with
  | (.error e, _) => .violated (.span e)
  | (.ok none, _) => .ended
  | (.ok (some span), rest) => .span (s.item span) { s with body := rest }

end OpenStream

end MockCollector
