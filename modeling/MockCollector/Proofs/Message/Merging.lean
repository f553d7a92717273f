import MockCollector.Proofs.Message.RoundTrip
/-!
# Messages laid over one another

What it is to lay one message over another, said field by field.

* `overlay zero a b`       `b`, or `a` where `b` is the value that a missing field has;
* `mergeOptional merge`    two messages that may be missing;
* `Timestamp.merge`, `Span.merge`, `Report.merge`, …   two messages of each type; of two entries for one
                           key, the baggage of the second wins (`SpanContext.getElem?_baggage_merge`);
* `MessageType.layout_merge`   which is how the decoder lays what it reads over what is there;
* `MessageType.concatenation_merges`   so two messages, written one after the other, are read as the second
                           laid over the first.
-/

namespace MockCollector

open Wire

/-! ## fields -/

/-- the second value, unless it is the one that a missing field has -/
def overlay {α : Type} [DecidableEq α] (zero a b : α) : α := if b = zero then a else b

def mergeOptional {M : Type} (merge : M → M → M) : Option M → Option M → Option M
  | o, none => o
  | none, some n => some n
  | some m, some n => some (merge m n)

/-! ## time and identity -/

def Timestamp.merge (m n : Timestamp) : Timestamp where
  seconds := overlay 0 m.seconds n.seconds
  nanos := overlay 0 m.nanos n.nanos

def SpanContext.merge (m n : SpanContext) : SpanContext where
  traceId := overlay 0 m.traceId n.traceId
  spanId := overlay 0 m.spanId n.spanId
  baggage := m.baggage ∪ n.baggage

theorem SpanContext.getElem?_baggage_merge (m n : SpanContext) (key : String) :
    (m.merge n).baggage[key]? = n.baggage[key]?.or m.baggage[key]? :=
  Std.ExtTreeMap.getElem?_union

/-! ## tags and logs -/

def KeyValue.merge (m n : KeyValue) : KeyValue where
  key := overlay "" m.key n.key
  value := n.value <|> m.value

def Log.merge (m n : Log) : Log where
  timestamp := mergeOptional Timestamp.merge m.timestamp n.timestamp
  fields := m.fields ++ n.fields

/-! ## spans -/

def Reference.merge (m n : Reference) : Reference where
  relationship := overlay 0 m.relationship n.relationship
  spanContext := mergeOptional SpanContext.merge m.spanContext n.spanContext

def Span.merge (m n : Span) : Span where
  spanContext := mergeOptional SpanContext.merge m.spanContext n.spanContext
  operationName := overlay "" m.operationName n.operationName
  references := m.references ++ n.references
  startTimestamp := mergeOptional Timestamp.merge m.startTimestamp n.startTimestamp
  durationMicros := overlay 0 m.durationMicros n.durationMicros
  tags := m.tags ++ n.tags
  logs := m.logs ++ n.logs

/-! ## reporters and their metrics -/

def Reporter.merge (m n : Reporter) : Reporter where
  reporterId := overlay 0 m.reporterId n.reporterId
  tags := m.tags ++ n.tags

def MetricsSample.merge (m n : MetricsSample) : MetricsSample where
  name := overlay "" m.name n.name
  value := n.value <|> m.value

def InternalMetrics.merge (m n : InternalMetrics) : InternalMetrics where
  startTimestamp := mergeOptional Timestamp.merge m.startTimestamp n.startTimestamp
  durationMicros := overlay 0 m.durationMicros n.durationMicros
  logs := m.logs ++ n.logs
  counts := m.counts ++ n.counts
  gauges := m.gauges ++ n.gauges

def Auth.merge (m n : Auth) : Auth where
  accessToken := overlay "" m.accessToken n.accessToken

/-! ## reports -/

def Report.merge (m n : Report) : Report where
  reporter := mergeOptional Reporter.merge m.reporter n.reporter
  auth := mergeOptional Auth.merge m.auth n.auth
  spans := m.spans ++ n.spans
  timestampOffsetMicros := overlay 0 m.timestampOffsetMicros n.timestampOffsetMicros
  internalMetrics := mergeOptional InternalMetrics.merge m.internalMetrics n.internalMetrics

/-! ## answers -/

def Command.merge (m n : Command) : Command where
  disable := overlay false m.disable n.disable
  devMode := overlay false m.devMode n.devMode

def ReportResponse.merge (m n : ReportResponse) : ReportResponse where
  commands := m.commands ++ n.commands
  receiveTimestamp := mergeOptional Timestamp.merge m.receiveTimestamp n.receiveTimestamp
  transmitTimestamp := mergeOptional Timestamp.merge m.transmitTimestamp n.transmitTimestamp
  errors := m.errors ++ n.errors
  warnings := m.warnings ++ n.warnings
  infos := m.infos ++ n.infos

def Reports.merge (m n : Reports) : Reports := ⟨m.reports ++ n.reports⟩

def Spans.merge (m n : Spans) : Spans := ⟨m.spans ++ n.spans⟩

/-! ## every message -/

namespace MessageType

def merge : (t : MessageType) → t.Message → t.Message → t.Message
  | .timestamp => Timestamp.merge
  | .spanContext => SpanContext.merge
  | .keyValue => KeyValue.merge
  | .log => Log.merge
  | .reference => Reference.merge
  | .span => Span.merge
  | .reporter => Reporter.merge
  | .metricsSample => MetricsSample.merge
  | .internalMetrics => InternalMetrics.merge
  | .auth => Auth.merge
  | .report => Report.merge
  | .command => Command.merge
  | .reportResponse => ReportResponse.merge
  | .reports => Reports.merge
  | .spans => Spans.merge

/-- the decoder lays the fields of a message over those of another as `merge` does -/
theorem layout_merge (t : MessageType) (m n : t.Message) : t.layout.merge m n = t.merge m n := by
  cases t <;> rfl

/-- **Concatenation is merging**: two messages, written one after the other, are read as the second laid
over the first, whatever the order in which the entries of their maps were written. -/
theorem concatenation_merges (t : MessageType) (m n : t.Message)
    (small : (t.layout.encode m ++ t.layout.encode n).length < UInt64.size) :
    t.layout.decode (t.layout.encode m ++ t.layout.encode n) = .ok (t.merge m n) ∧
      ∀ bs cs, t.layout.Encodes m bs → t.layout.Encodes n cs →
        t.layout.decode (bs ++ cs) = .ok (t.merge m n) := by
  have hm := t.layout.encodes_encode m
  have hn := t.layout.encodes_encode n
  have every (bs cs : List UInt8) (hb : t.layout.Encodes m bs) (hc : t.layout.Encodes n cs) :
      t.layout.decode (bs ++ cs) = .ok (t.merge m n) := by
    rw [List.length_append, ← t.sound_layout.length_encodes hb hm,
      ← t.sound_layout.length_encodes hc hn, ← List.length_append] at small
    rw [← layout_merge]
    exact t.sound_layout.decode_append (by decide) hb hc small
  exact ⟨every _ _ hm hn, every⟩

def earlier : Reference := ⟨1, some ⟨7, 0, ((∅ : TextMap).insert "b" "").insert "a" "x"⟩⟩

/-- it leaves out the relationship, and has a new value for one key -/
def later : Reference := ⟨0, some ⟨0, 9, (∅ : TextMap).insert "a" "y"⟩⟩

theorem concatenation_merges_baggage :
    (Reference.layout.encode earlier ++ Reference.layout.encode later).length < UInt64.size ∧
      Reference.layout.decode (Reference.layout.encode earlier ++ Reference.layout.encode later)
        = .ok ⟨1, some ⟨7, 9, ((∅ : TextMap).insert "b" "").insert "a" "y"⟩⟩ := by
  have small :
      (Reference.layout.encode earlier ++ Reference.layout.encode later).length < UInt64.size := by
    decide +kernel
  have merged : earlier.merge later
      = ⟨1, some ⟨7, 9, ((∅ : TextMap).insert "b" "").insert "a" "y"⟩⟩ := by decide +kernel
  exact ⟨small, (concatenation_merges .reference earlier later small).1.trans (congrArg _ merged)⟩

end MessageType

end MockCollector
