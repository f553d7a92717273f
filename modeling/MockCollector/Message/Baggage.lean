import MockCollector.Message.Layouts
/-!
# The baggage inside a message

The entries of a baggage map may be written in any order, so the bytes of a message are fixed only as
far as its maps have at most one entry.

* `SpanContext.baggages`, `Span.baggages`, `Report.baggages`, …   every map inside a message;
* `haveOneOrder`   no map among them can be written in two ways.
-/

namespace MockCollector

open Wire (TextMap)

def SpanContext.baggages (c : SpanContext) : List TextMap := [c.baggage]

def Reference.baggages (r : Reference) : List TextMap :=
  r.spanContext.toList.flatMap SpanContext.baggages

def Span.baggages (s : Span) : List TextMap :=
  s.spanContext.toList.flatMap SpanContext.baggages ++ s.references.flatMap Reference.baggages

def Report.baggages (r : Report) : List TextMap := r.spans.flatMap Span.baggages

def Reports.baggages (r : Reports) : List TextMap := r.reports.flatMap Report.baggages

def Spans.baggages (s : Spans) : List TextMap := s.spans.flatMap Span.baggages

def haveOneOrder (maps : List TextMap) : Bool := maps.all fun t => t.size ≤ 1

end MockCollector
