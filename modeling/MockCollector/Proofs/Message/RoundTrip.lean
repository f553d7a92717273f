import MockCollector.Message.Types
import MockCollector.Proofs.Wire.Fields
/-!
# Messages are read back

* `Span.sound_layout`, `Report.sound_layout`, …   the layout of every message is sound;
* `MessageType.decode_of_encodes`   so every message is read back from its bytes, whatever the order in
                                    which the entries of its maps were written.
-/

namespace MockCollector

open Wire

/-! ## time and identity -/

theorem Timestamp.sound_layout : Timestamp.layout.Sound 0 where
  apart := by decide
  fields := by
    simp only [Timestamp.layout, List.forall_mem_cons]
    exact ⟨Field.sound_singular Scalar.sound_int64 (by decide),
      Field.sound_singular Scalar.sound_int32 (by decide), List.forall_mem_nil _⟩

theorem SpanContext.sound_layout : SpanContext.layout.Sound 1 where
  apart := by decide
  fields := by
    simp only [SpanContext.layout, List.forall_mem_cons]
    exact ⟨Field.sound_singular Scalar.sound_uint64 (by decide),
      Field.sound_singular Scalar.sound_uint64 (by decide),
      Field.sound_textMap (by decide), List.forall_mem_nil _⟩

/-! ## tags and logs -/

theorem TagValue.complete_members : Member.Complete TagValue.members where
  apart := by decide
  fits := by decide
  scalar := by
    simp only [TagValue.members, List.forall_mem_cons]
    exact ⟨Scalar.sound_text, Scalar.sound_int64, Scalar.sound_double, Scalar.sound_bool,
      Scalar.sound_text, List.forall_mem_nil _⟩
  covers v := by
    cases v with
    | string s => exact ⟨TagValue.members[0], by simp [TagValue.members], s, rfl, rfl⟩
    | int i => exact ⟨TagValue.members[1], by simp [TagValue.members], i, rfl, rfl⟩
    | double d => exact ⟨TagValue.members[2], by simp [TagValue.members], d, rfl, rfl⟩
    | bool b => exact ⟨TagValue.members[3], by simp [TagValue.members], b, rfl, rfl⟩
    | json s => exact ⟨TagValue.members[4], by simp [TagValue.members], s, rfl, rfl⟩

theorem KeyValue.sound_layout : KeyValue.layout.Sound 0 where
  apart := by decide
  fields := by
    simp only [KeyValue.layout, List.forall_mem_cons]
    exact ⟨Field.sound_singular Scalar.sound_text (by decide),
      Field.sound_oneof TagValue.complete_members, List.forall_mem_nil _⟩

theorem Log.sound_layout : Log.layout.Sound 1 where
  apart := by decide
  fields := by
    simp only [Log.layout, List.forall_mem_cons]
    exact ⟨Field.sound_optional Timestamp.sound_layout (by decide),
      Field.sound_repeated KeyValue.sound_layout (by decide), List.forall_mem_nil _⟩

/-! ## spans -/

theorem Reference.sound_layout : Reference.layout.Sound 2 where
  apart := by decide
  fields := by
    simp only [Reference.layout, List.forall_mem_cons]
    exact ⟨Field.sound_singular Scalar.sound_int32 (by decide),
      Field.sound_optional SpanContext.sound_layout (by decide), List.forall_mem_nil _⟩

theorem Span.sound_layout : Span.layout.Sound 3 where
  apart := by decide
  fields := by
    simp only [Span.layout, List.forall_mem_cons]
    exact ⟨(Field.sound_optional SpanContext.sound_layout (by decide)).mono (by decide),
      Field.sound_singular Scalar.sound_text (by decide),
      Field.sound_repeated Reference.sound_layout (by decide),
      (Field.sound_optional Timestamp.sound_layout (by decide)).mono (by decide),
      Field.sound_singular Scalar.sound_uint64 (by decide),
      (Field.sound_repeated KeyValue.sound_layout (by decide)).mono (by decide),
      (Field.sound_repeated Log.sound_layout (by decide)).mono (by decide), List.forall_mem_nil _⟩

/-! ## reporters and their metrics -/

theorem Reporter.sound_layout : Reporter.layout.Sound 1 where
  apart := by decide
  fields := by
    simp only [Reporter.layout, List.forall_mem_cons]
    exact ⟨Field.sound_singular Scalar.sound_uint64 (by decide),
      Field.sound_repeated KeyValue.sound_layout (by decide), List.forall_mem_nil _⟩

theorem SampleValue.complete_members : Member.Complete SampleValue.members where
  apart := by decide
  fits := by decide
  scalar := by
    simp only [SampleValue.members, List.forall_mem_cons]
    exact ⟨Scalar.sound_int64, Scalar.sound_double, List.forall_mem_nil _⟩
  covers v := by
    cases v with
    | int i => exact ⟨SampleValue.members[0], by simp [SampleValue.members], i, rfl, rfl⟩
    | double d => exact ⟨SampleValue.members[1], by simp [SampleValue.members], d, rfl, rfl⟩

theorem MetricsSample.sound_layout : MetricsSample.layout.Sound 0 where
  apart := by decide
  fields := by
    simp only [MetricsSample.layout, List.forall_mem_cons]
    exact ⟨Field.sound_singular Scalar.sound_text (by decide),
      Field.sound_oneof SampleValue.complete_members, List.forall_mem_nil _⟩

theorem InternalMetrics.sound_layout : InternalMetrics.layout.Sound 2 where
  apart := by decide
  fields := by
    simp only [InternalMetrics.layout, List.forall_mem_cons]
    exact ⟨(Field.sound_optional Timestamp.sound_layout (by decide)).mono (by decide),
      Field.sound_singular Scalar.sound_uint64 (by decide),
      Field.sound_repeated Log.sound_layout (by decide),
      (Field.sound_repeated MetricsSample.sound_layout (by decide)).mono (by decide),
      (Field.sound_repeated MetricsSample.sound_layout (by decide)).mono (by decide),
      List.forall_mem_nil _⟩

theorem Auth.sound_layout : Auth.layout.Sound 0 where
  apart := by decide
  fields := by
    simp only [Auth.layout, List.forall_mem_cons]
    exact ⟨Field.sound_singular Scalar.sound_text (by decide), List.forall_mem_nil _⟩

/-! ## reports -/

theorem Report.sound_layout : Report.layout.Sound 4 where
  apart := by decide
  fields := by
    simp only [Report.layout, List.forall_mem_cons]
    exact ⟨(Field.sound_optional Reporter.sound_layout (by decide)).mono (by decide),
      (Field.sound_optional Auth.sound_layout (by decide)).mono (by decide),
      Field.sound_repeated Span.sound_layout (by decide),
      Field.sound_singular Scalar.sound_int64 (by decide),
      (Field.sound_optional InternalMetrics.sound_layout (by decide)).mono (by decide),
      List.forall_mem_nil _⟩

/-! ## answers -/

theorem Command.sound_layout : Command.layout.Sound 0 where
  apart := by decide
  fields := by
    simp only [Command.layout, List.forall_mem_cons]
    exact ⟨Field.sound_singular Scalar.sound_bool (by decide),
      Field.sound_singular Scalar.sound_bool (by decide), List.forall_mem_nil _⟩

theorem ReportResponse.sound_layout : ReportResponse.layout.Sound 1 where
  apart := by decide
  fields := by
    simp only [ReportResponse.layout, List.forall_mem_cons]
    exact ⟨Field.sound_repeated Command.sound_layout (by decide),
      Field.sound_optional Timestamp.sound_layout (by decide),
      Field.sound_optional Timestamp.sound_layout (by decide),
      Field.sound_repeatedScalar Scalar.sound_text (by decide),
      Field.sound_repeatedScalar Scalar.sound_text (by decide),
      Field.sound_repeatedScalar Scalar.sound_text (by decide), List.forall_mem_nil _⟩

theorem Reports.sound_layout : Reports.layout.Sound 5 where
  apart := by decide
  fields := by
    simp only [Reports.layout, List.forall_mem_cons]
    exact ⟨Field.sound_repeated Report.sound_layout (by decide), List.forall_mem_nil _⟩

theorem Spans.sound_layout : Spans.layout.Sound 4 where
  apart := by decide
  fields := by
    simp only [Spans.layout, List.forall_mem_cons]
    exact ⟨Field.sound_repeated Span.sound_layout (by decide), List.forall_mem_nil _⟩

/-! ## every message -/

namespace MessageType

/-- how many levels of messages there are below a message of any type -/
def height : Nat := 5

theorem sound_layout (t : MessageType) : t.layout.Sound height := by
  cases t with
  | timestamp => exact Timestamp.sound_layout.mono (by decide)
  | spanContext => exact SpanContext.sound_layout.mono (by decide)
  | keyValue => exact KeyValue.sound_layout.mono (by decide)
  | log => exact Log.sound_layout.mono (by decide)
  | reference => exact Reference.sound_layout.mono (by decide)
  | span => exact Span.sound_layout.mono (by decide)
  | reporter => exact Reporter.sound_layout.mono (by decide)
  | metricsSample => exact MetricsSample.sound_layout.mono (by decide)
  | internalMetrics => exact InternalMetrics.sound_layout.mono (by decide)
  | auth => exact Auth.sound_layout.mono (by decide)
  | report => exact Report.sound_layout.mono (by decide)
  | command => exact Command.sound_layout.mono (by decide)
  | reportResponse => exact ReportResponse.sound_layout.mono (by decide)
  | reports => exact Reports.sound_layout
  | spans => exact Spans.sound_layout.mono (by decide)

/-- **Every message is read back**, in whatever order the entries of its maps were written, and all
these ways to write it are equally long. -/
theorem read_back (t : MessageType) (m : t.Message)
    (small : (t.layout.encode m).length < UInt64.size) :
    t.layout.Encodes m (t.layout.encode m) ∧ ∀ bs, t.layout.Encodes m bs →
      t.layout.decode bs = .ok m ∧ bs.length = (t.layout.encode m).length := by
  have written := t.layout.encodes_encode m
  refine ⟨written, fun bs hm => ?_⟩
  have length := t.sound_layout.length_encodes hm written
  exact ⟨t.sound_layout.decode_of_encodes (by decide) hm (length ▸ small), length⟩

/-- a message that can be written in two ways -/
def ambiguous : SpanContext := ⟨300, 0, ((∅ : TextMap).insert "b" "").insert "a" "x"⟩

theorem read_back_later_key_first :
    (SpanContext.layout.encode ambiguous).length < UInt64.size ∧
      SpanContext.layout.decode [8, 172, 2, 26, 3, 10, 1, 98, 26, 6, 10, 1, 97, 18, 1, 120]
        = .ok ambiguous := by
  have small : (SpanContext.layout.encode ambiguous).length < UInt64.size := by decide +kernel
  have perm : [("b", ""), ("a", "x")].Perm ambiguous.baggage.toList := by decide +kernel
  have written : SpanContext.layout.Encodes ambiguous
      [8, 172, 2, 26, 3, 10, 1, 98, 26, 6, 10, 1, 97, 18, 1, 120] :=
    ⟨_, ⟨_, _, rfl, ⟨_, _, rfl, ⟨_, [], ⟨_, perm, rfl⟩, rfl, rfl⟩, rfl⟩, rfl⟩, by decide +kernel⟩
  exact ⟨small, ((MessageType.read_back .spanContext ambiguous small).2 _ written).1⟩

end MessageType

end MockCollector
