import MockCollector.Message.Layouts
/-!
# The types of message

* `MessageType`            the messages that have a layout;
* `MessageType.Message`, `MessageType.layout`   their values, and how they are laid out.
-/

namespace MockCollector

inductive MessageType where
  | timestamp
  | spanContext
  | keyValue
  | log
  | reference
  | span
  | reporter
  | metricsSample
  | internalMetrics
  | auth
  | report
  | command
  | reportResponse
  | reports
  | spans
  deriving DecidableEq, Repr

namespace MessageType

def Message : MessageType → Type
  | .timestamp => Timestamp
  | .spanContext => SpanContext
  | .keyValue => KeyValue
  | .log => Log
  | .reference => Reference
  | .span => Span
  | .reporter => Reporter
  | .metricsSample => MetricsSample
  | .internalMetrics => InternalMetrics
  | .auth => Auth
  | .report => Report
  | .command => Command
  | .reportResponse => ReportResponse
  | .reports => Reports
  | .spans => Spans

instance : (t : MessageType) → DecidableEq t.Message
  | .timestamp => inferInstanceAs (DecidableEq Timestamp)
  | .spanContext => inferInstanceAs (DecidableEq SpanContext)
  | .keyValue => inferInstanceAs (DecidableEq KeyValue)
  | .log => inferInstanceAs (DecidableEq Log)
  | .reference => inferInstanceAs (DecidableEq Reference)
  | .span => inferInstanceAs (DecidableEq Span)
  | .reporter => inferInstanceAs (DecidableEq Reporter)
  | .metricsSample => inferInstanceAs (DecidableEq MetricsSample)
  | .internalMetrics => inferInstanceAs (DecidableEq InternalMetrics)
  | .auth => inferInstanceAs (DecidableEq Auth)
  | .report => inferInstanceAs (DecidableEq Report)
  | .command => inferInstanceAs (DecidableEq Command)
  | .reportResponse => inferInstanceAs (DecidableEq ReportResponse)
  | .reports => inferInstanceAs (DecidableEq Reports)
  | .spans => inferInstanceAs (DecidableEq Spans)

def layout : (t : MessageType) → Wire.Layout t.Message
  | .timestamp => Timestamp.layout
  | .spanContext => SpanContext.layout
  | .keyValue => KeyValue.layout
  | .log => Log.layout
  | .reference => Reference.layout
  | .span => Span.layout
  | .reporter => Reporter.layout
  | .metricsSample => MetricsSample.layout
  | .internalMetrics => InternalMetrics.layout
  | .auth => Auth.layout
  | .report => Report.layout
  | .command => Command.layout
  | .reportResponse => ReportResponse.layout
  | .reports => Reports.layout
  | .spans => Spans.layout

end MessageType

end MockCollector
