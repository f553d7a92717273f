import MockCollector.Message.Types
import MockCollector.Proofs.Wire.Exactness
/-!
# Messages are read exactly

The layout of every message is `Layout.Exact`: each field is read from a payload of the wire type that its
key tells, baggage apart (`MessageType.maps`).
-/

namespace MockCollector

open Wire

/-! ## time and identity -/

theorem Timestamp.exact_layout : Timestamp.layout.Exact [] := by
  simp only [Layout.Exact, Timestamp.layout, List.forall_mem_cons]
  exact ⟨Field.exact_singular (Scalar.exact_ofVarint _ _ _) (by decide),
    Field.exact_singular (Scalar.exact_ofVarint _ _ _) (by decide), List.forall_mem_nil _⟩

theorem SpanContext.exact_layout : SpanContext.layout.Exact [3] := by
  simp only [Layout.Exact, SpanContext.layout, List.forall_mem_cons]
  exact ⟨Field.exact_singular (Scalar.exact_ofVarint _ _ _) (by decide),
    Field.exact_singular (Scalar.exact_ofVarint _ _ _) (by decide), Field.exact_textMap (by decide),
    List.forall_mem_nil _⟩

/-! ## tags and logs -/

theorem KeyValue.exact_layout : KeyValue.layout.Exact [] := by
  have members : ∀ c ∈ TagValue.members, c.scalar.Exact := by
    simp only [TagValue.members, List.forall_mem_cons]
    exact ⟨Scalar.exact_text, Scalar.exact_ofVarint _ _ _, Scalar.exact_double,
      Scalar.exact_ofVarint _ _ _, Scalar.exact_text, List.forall_mem_nil _⟩
  simp only [Layout.Exact, KeyValue.layout, List.forall_mem_cons]
  exact ⟨Field.exact_singular Scalar.exact_text (by decide), Field.exact_oneof members (by decide),
    List.forall_mem_nil _⟩

theorem Log.exact_layout : Log.layout.Exact [] := by
  simp only [Layout.Exact, Log.layout, List.forall_mem_cons]
  exact ⟨Field.exact_optional Timestamp.exact_layout (by decide),
    Field.exact_repeated KeyValue.exact_layout (by decide), List.forall_mem_nil _⟩

/-! ## spans -/

theorem Reference.exact_layout : Reference.layout.Exact [] := by
  simp only [Layout.Exact, Reference.layout, List.forall_mem_cons]
  exact ⟨Field.exact_singular (Scalar.exact_ofVarint _ _ _) (by decide),
    Field.exact_optional SpanContext.exact_layout (by decide), List.forall_mem_nil _⟩

theorem Span.exact_layout : Span.layout.Exact [] := by
  simp only [Layout.Exact, Span.layout, List.forall_mem_cons]
  exact ⟨Field.exact_optional SpanContext.exact_layout (by decide),
    Field.exact_singular Scalar.exact_text (by decide),
    Field.exact_repeated Reference.exact_layout (by decide),
    Field.exact_optional Timestamp.exact_layout (by decide),
    Field.exact_singular (Scalar.exact_ofVarint _ _ _) (by decide),
    Field.exact_repeated KeyValue.exact_layout (by decide),
    Field.exact_repeated Log.exact_layout (by decide), List.forall_mem_nil _⟩

/-! ## reporters and their metrics -/

theorem Reporter.exact_layout : Reporter.layout.Exact [] := by
  simp only [Layout.Exact, Reporter.layout, List.forall_mem_cons]
  exact ⟨Field.exact_singular (Scalar.exact_ofVarint _ _ _) (by decide),
    Field.exact_repeated KeyValue.exact_layout (by decide), List.forall_mem_nil _⟩

theorem MetricsSample.exact_layout : MetricsSample.layout.Exact [] := by
  have members : ∀ c ∈ SampleValue.members, c.scalar.Exact := by
    simp only [SampleValue.members, List.forall_mem_cons]
    exact ⟨Scalar.exact_ofVarint _ _ _, Scalar.exact_double, List.forall_mem_nil _⟩
  simp only [Layout.Exact, MetricsSample.layout, List.forall_mem_cons]
  exact ⟨Field.exact_singular Scalar.exact_text (by decide), Field.exact_oneof members (by decide),
    List.forall_mem_nil _⟩

theorem InternalMetrics.exact_layout : InternalMetrics.layout.Exact [] := by
  simp only [Layout.Exact, InternalMetrics.layout, List.forall_mem_cons]
  exact ⟨Field.exact_optional Timestamp.exact_layout (by decide),
    Field.exact_singular (Scalar.exact_ofVarint _ _ _) (by decide),
    Field.exact_repeated Log.exact_layout (by decide),
    Field.exact_repeated MetricsSample.exact_layout (by decide),
    Field.exact_repeated MetricsSample.exact_layout (by decide), List.forall_mem_nil _⟩

theorem Auth.exact_layout : Auth.layout.Exact [] := by
  simp only [Layout.Exact, Auth.layout, List.forall_mem_cons]
  exact ⟨Field.exact_singular Scalar.exact_text (by decide), List.forall_mem_nil _⟩

/-! ## reports -/

theorem Report.exact_layout : Report.layout.Exact [] := by
  simp only [Layout.Exact, Report.layout, List.forall_mem_cons]
  exact ⟨Field.exact_optional Reporter.exact_layout (by decide),
    Field.exact_optional Auth.exact_layout (by decide),
    Field.exact_repeated Span.exact_layout (by decide),
    Field.exact_singular (Scalar.exact_ofVarint _ _ _) (by decide),
    Field.exact_optional InternalMetrics.exact_layout (by decide), List.forall_mem_nil _⟩

/-! ## answers -/

theorem Command.exact_layout : Command.layout.Exact [] := by
  simp only [Layout.Exact, Command.layout, List.forall_mem_cons]
  exact ⟨Field.exact_singular (Scalar.exact_ofVarint _ _ _) (by decide),
    Field.exact_singular (Scalar.exact_ofVarint _ _ _) (by decide), List.forall_mem_nil _⟩

theorem ReportResponse.exact_layout : ReportResponse.layout.Exact [] := by
  simp only [Layout.Exact, ReportResponse.layout, List.forall_mem_cons]
  exact ⟨Field.exact_repeated Command.exact_layout (by decide),
    Field.exact_optional Timestamp.exact_layout (by decide),
    Field.exact_optional Timestamp.exact_layout (by decide),
    Field.exact_repeatedScalar Scalar.exact_text (by decide),
    Field.exact_repeatedScalar Scalar.exact_text (by decide),
    Field.exact_repeatedScalar Scalar.exact_text (by decide), List.forall_mem_nil _⟩

theorem Reports.exact_layout : Reports.layout.Exact [] := by
  simp only [Layout.Exact, Reports.layout, List.forall_mem_cons]
  exact ⟨Field.exact_repeated Report.exact_layout (by decide), List.forall_mem_nil _⟩

theorem Spans.exact_layout : Spans.layout.Exact [] := by
  simp only [Layout.Exact, Spans.layout, List.forall_mem_cons]
  exact ⟨Field.exact_repeated Span.exact_layout (by decide), List.forall_mem_nil _⟩

/-! ## every message -/

namespace MessageType

/-- the fields that are maps -/
def maps : MessageType → List Nat
  | .spanContext => [3]
  | _ => []

theorem exact_layout (t : MessageType) : t.layout.Exact t.maps := by
  cases t with
  | timestamp => exact Timestamp.exact_layout
  | spanContext => exact SpanContext.exact_layout
  | keyValue => exact KeyValue.exact_layout
  | log => exact Log.exact_layout
  | reference => exact Reference.exact_layout
  | span => exact Span.exact_layout
  | reporter => exact Reporter.exact_layout
  | metricsSample => exact MetricsSample.exact_layout
  | internalMetrics => exact InternalMetrics.exact_layout
  | auth => exact Auth.exact_layout
  | report => exact Report.exact_layout
  | command => exact Command.exact_layout
  | reportResponse => exact ReportResponse.exact_layout
  | reports => exact Reports.exact_layout
  | spans => exact Spans.exact_layout

theorem maps_subset_numbers (t : MessageType) : ∀ n ∈ t.maps, n ∈ Values.numbers t.layout.fields := by
  cases t with
  | spanContext => decide
  | _ => exact fun _ h => absurd h List.not_mem_nil

end MessageType

end MockCollector
