import MockCollector.Wire.Layout
/-!
# Collector messages

The messages that a tracer client and the collector exchange.

* `Span`            one finished operation: where it belongs, its name, tags and logs;
* `Reporter`        the client that reports, with tags of its own;
* `InternalMetrics` the client's figures about itself;
* `Report`          what a client sends: a reporter, an access token, spans and metrics, any of which
                    may be missing;
* `ReportResponse`  the answer to a report;
* `Reports`, `Spans`   what is stored, as it is handed out.

An enumeration is kept as the number it was written with, since a number of no known meaning has to
survive.
-/

namespace MockCollector

instance : DecidableEq Wire.TextMap :=
  fun a b => decidable_of_iff ((a == b) = true) beq_iff_eq

structure Timestamp where
  seconds : Int64
  nanos : Int32
  deriving DecidableEq

/-- the identity of a span and the pairs of text that travel with it -/
structure SpanContext where
  traceId : UInt64
  spanId : UInt64
  baggage : Wire.TextMap
  deriving DecidableEq

inductive TagValue where
  | string (s : String)
  | int (i : Int64)
  | double (d : Double)
  | bool (b : Bool)
  | json (s : String)
  deriving DecidableEq

/-- a tag, or a field of a log -/
structure KeyValue where
  key : String
  value : Option TagValue
  deriving DecidableEq

structure Log where
  timestamp : Option Timestamp
  fields : List KeyValue
  deriving DecidableEq

inductive Relationship where
  | childOf
  | followsFrom
  deriving DecidableEq

structure Reference where
  relationship : Int32
  spanContext : Option SpanContext
  deriving DecidableEq

/-- a number of no known meaning is read as the first of the relationships -/
def Reference.kind (r : Reference) : Relationship :=
  if r.relationship = 1 then .followsFrom else .childOf

structure Span where
  spanContext : Option SpanContext
  operationName : String
  references : List Reference
  startTimestamp : Option Timestamp
  durationMicros : UInt64
  tags : List KeyValue
  logs : List Log
  deriving DecidableEq

structure Reporter where
  reporterId : UInt64
  tags : List KeyValue
  deriving DecidableEq

inductive SampleValue where
  | int (i : Int64)
  | double (d : Double)
  deriving DecidableEq

structure MetricsSample where
  name : String
  value : Option SampleValue
  deriving DecidableEq

structure InternalMetrics where
  startTimestamp : Option Timestamp
  durationMicros : UInt64
  logs : List Log
  counts : List MetricsSample
  gauges : List MetricsSample
  deriving DecidableEq

structure Auth where
  accessToken : String
  deriving DecidableEq

structure Report where
  reporter : Option Reporter
  auth : Option Auth
  spans : List Span
  timestampOffsetMicros : Int64
  internalMetrics : Option InternalMetrics
  deriving DecidableEq

structure Command where
  disable : Bool
  devMode : Bool
  deriving DecidableEq

structure ReportResponse where
  commands : List Command
  receiveTimestamp : Option Timestamp
  transmitTimestamp : Option Timestamp
  errors : List String
  warnings : List String
  infos : List String
  deriving DecidableEq

structure Reports where
  reports : List Report
  deriving DecidableEq

structure Spans where
  spans : List Span
  deriving DecidableEq

/-- a tag that holds text -/
def KeyValue.string (key value : String) : KeyValue := ⟨key, some (.string value)⟩

end MockCollector
