import MockCollector.Message.Basic
/-!
# The layout of each message

One `Layout` for each message type: the fields in the order of their numbers, each with the kind of
value it holds.  The encoder and the decoder of a message are `Layout.encode` and `Layout.decode` of
its layout.

The four numbers that a report stream is framed with have names: `Report.reporterField`,
`Report.authField`, `Report.spansField`, `Report.internalMetricsField`.
-/

namespace MockCollector

open Wire

private def place (message field : String) : Option Place := some ⟨message, field⟩

/-! ## time and identity -/

def Timestamp.layout : Layout Timestamp where
  fields := [
    .singular (place "Timestamp" "seconds") 1 .int64,
    .singular (place "Timestamp" "nanos") 2 .int32]
  split m := (m.seconds, m.nanos, ())
  join vs := ⟨vs.1, vs.2.1⟩
  join_split _ := rfl
  split_join _ := rfl

def SpanContext.layout : Layout SpanContext where
  fields := [
    .singular (place "SpanContext" "trace_id") 1 .uint64,
    .singular (place "SpanContext" "span_id") 2 .uint64,
    .textMap (place "SpanContext" "baggage") 3]
  split m := (m.traceId, m.spanId, m.baggage, ())
  join vs := ⟨vs.1, vs.2.1, vs.2.2.1⟩
  join_split _ := rfl
  split_join _ := rfl

/-! ## tags and logs -/

def TagValue.members : List (Member TagValue) := [
  ⟨String, 2, .text, .string, fun | .string s => some s | _ => none⟩,
  ⟨Int64, 3, .int64, .int, fun | .int i => some i | _ => none⟩,
  ⟨Double, 4, .double, .double, fun | .double d => some d | _ => none⟩,
  ⟨Bool, 5, .bool, .bool, fun | .bool b => some b | _ => none⟩,
  ⟨String, 6, .text, .json, fun | .json s => some s | _ => none⟩]

def KeyValue.layout : Layout KeyValue where
  fields := [
    .singular (place "KeyValue" "key") 1 .text,
    .oneof (place "KeyValue" "value") TagValue.members]
  split m := (m.key, m.value, ())
  join vs := ⟨vs.1, vs.2.1⟩
  join_split _ := rfl
  split_join _ := rfl

def Log.layout : Layout Log where
  fields := [
    .optional (place "Log" "timestamp") 1 Timestamp.layout,
    .repeated (place "Log" "fields") 2 KeyValue.layout]
  split m := (m.timestamp, m.fields, ())
  join vs := ⟨vs.1, vs.2.1⟩
  join_split _ := rfl
  split_join _ := rfl

/-! ## spans -/

def Reference.layout : Layout Reference where
  fields := [
    .singular (place "Reference" "relationship") 1 .int32,
    .optional (place "Reference" "span_context") 2 SpanContext.layout]
  split m := (m.relationship, m.spanContext, ())
  join vs := ⟨vs.1, vs.2.1⟩
  join_split _ := rfl
  split_join _ := rfl

def Span.layout : Layout Span where
  fields := [
    .optional (place "Span" "span_context") 1 SpanContext.layout,
    .singular (place "Span" "operation_name") 2 .text,
    .repeated (place "Span" "references") 3 Reference.layout,
    .optional (place "Span" "start_timestamp") 4 Timestamp.layout,
    .singular (place "Span" "duration_micros") 5 .uint64,
    .repeated (place "Span" "tags") 6 KeyValue.layout,
    .repeated (place "Span" "logs") 7 Log.layout]
  split m := (m.spanContext, m.operationName, m.references, m.startTimestamp, m.durationMicros,
    m.tags, m.logs, ())
  join vs := ⟨vs.1, vs.2.1, vs.2.2.1, vs.2.2.2.1, vs.2.2.2.2.1, vs.2.2.2.2.2.1, vs.2.2.2.2.2.2.1⟩
  join_split _ := rfl
  split_join _ := rfl

/-! ## reporters and their metrics -/

def Reporter.layout : Layout Reporter where
  fields := [
    .singular (place "Reporter" "reporter_id") 1 .uint64,
    .repeated (place "Reporter" "tags") 4 KeyValue.layout]
  split m := (m.reporterId, m.tags, ())
  join vs := ⟨vs.1, vs.2.1⟩
  join_split _ := rfl
  split_join _ := rfl

def SampleValue.members : List (Member SampleValue) := [
  ⟨Int64, 2, .int64, .int, fun | .int i => some i | _ => none⟩,
  ⟨Double, 3, .double, .double, fun | .double d => some d | _ => none⟩]

def MetricsSample.layout : Layout MetricsSample where
  fields := [
    .singular (place "MetricsSample" "name") 1 .text,
    .oneof (place "MetricsSample" "value") SampleValue.members]
  split m := (m.name, m.value, ())
  join vs := ⟨vs.1, vs.2.1⟩
  join_split _ := rfl
  split_join _ := rfl

def InternalMetrics.layout : Layout InternalMetrics where
  fields := [
    .optional (place "InternalMetrics" "start_timestamp") 1 Timestamp.layout,
    .singular (place "InternalMetrics" "duration_micros") 2 .uint64,
    .repeated (place "InternalMetrics" "logs") 3 Log.layout,
    .repeated (place "InternalMetrics" "counts") 4 MetricsSample.layout,
    .repeated (place "InternalMetrics" "gauges") 5 MetricsSample.layout]
  split m := (m.startTimestamp, m.durationMicros, m.logs, m.counts, m.gauges, ())
  join vs := ⟨vs.1, vs.2.1, vs.2.2.1, vs.2.2.2.1, vs.2.2.2.2.1⟩
  join_split _ := rfl
  split_join _ := rfl

def Auth.layout : Layout Auth where
  fields := [.singular (place "Auth" "access_token") 1 .text]
  split m := (m.accessToken, ())
  join vs := ⟨vs.1⟩
  join_split _ := rfl
  split_join _ := rfl

/-! ## reports -/

def Report.reporterField : Nat := 1
def Report.authField : Nat := 2
def Report.spansField : Nat := 3
def Report.internalMetricsField : Nat := 6

def Report.layout : Layout Report where
  fields := [
    .optional (place "ReportRequest" "reporter") Report.reporterField Reporter.layout,
    .optional (place "ReportRequest" "auth") Report.authField Auth.layout,
    .repeated (place "ReportRequest" "spans") Report.spansField Span.layout,
    .singular (place "ReportRequest" "timestamp_offset_micros") 5 .int64,
    .optional (place "ReportRequest" "internal_metrics") Report.internalMetricsField
      InternalMetrics.layout]
  split m := (m.reporter, m.auth, m.spans, m.timestampOffsetMicros, m.internalMetrics, ())
  join vs := ⟨vs.1, vs.2.1, vs.2.2.1, vs.2.2.2.1, vs.2.2.2.2.1⟩
  join_split _ := rfl
  split_join _ := rfl

/-- the report no field of which was written -/
def Report.empty : Report := Report.layout.empty

/-! ## answers -/

def Command.layout : Layout Command where
  fields := [
    .singular (place "Command" "disable") 1 .bool,
    .singular (place "Command" "dev_mode") 2 .bool]
  split m := (m.disable, m.devMode, ())
  join vs := ⟨vs.1, vs.2.1⟩
  join_split _ := rfl
  split_join _ := rfl

def ReportResponse.layout : Layout ReportResponse where
  fields := [
    .repeated (place "ReportResponse" "commands") 1 Command.layout,
    .optional (place "ReportResponse" "receive_timestamp") 2 Timestamp.layout,
    .optional (place "ReportResponse" "transmit_timestamp") 3 Timestamp.layout,
    .repeatedScalar (place "ReportResponse" "errors") 4 .text,
    .repeatedScalar (place "ReportResponse" "warnings") 5 .text,
    .repeatedScalar (place "ReportResponse" "infos") 6 .text]
  split m := (m.commands, m.receiveTimestamp, m.transmitTimestamp, m.errors, m.warnings, m.infos, ())
  join vs := ⟨vs.1, vs.2.1, vs.2.2.1, vs.2.2.2.1, vs.2.2.2.2.1, vs.2.2.2.2.2.1⟩
  join_split _ := rfl
  split_join _ := rfl

def Reports.layout : Layout Reports where
  fields := [.repeated (place "Reports" "reports") 1 Report.layout]
  split m := (m.reports, ())
  join vs := ⟨vs.1⟩
  join_split _ := rfl
  split_join _ := rfl

def Spans.layout : Layout Spans where
  fields := [.repeated (place "Spans" "spans") 1 Span.layout]
  split m := (m.spans, ())
  join vs := ⟨vs.1⟩
  join_split _ := rfl
  split_join _ := rfl

end MockCollector
