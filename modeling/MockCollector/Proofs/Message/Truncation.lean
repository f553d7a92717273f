import Mathlib.Control.Monad.Basic
import MockCollector.Proofs.Message.Exactness
import MockCollector.Proofs.Message.RoundTrip
import MockCollector.Proofs.Wire.Prefixes
/-!
# Truncated messages

* `Record.boundary rs j`    where the first `j` of some records end;
* `MessageType.divisible_layout`   every field of every message is `Field.Divisible`;
* `MessageType.truncated_between_records_only`   the head of a message is decoded if it ends where a record
                            does, to the message of the records in it, and nowhere else.
-/

namespace MockCollector

open Wire

namespace Wire.Record

/-! ## boundaries -/

def boundary (rs : List Record) (j : Nat) : Nat := ((rs.take j).flatMap bytes).length

theorem take_boundary (rs : List Record) (j : Nat) :
    (rs.flatMap bytes).take (boundary rs j) = (rs.take j).flatMap bytes := by
  have split : rs.flatMap bytes = (rs.take j).flatMap bytes ++ (rs.drop j).flatMap bytes := by
    rw [← List.flatMap_append, List.take_append_drop]
  rw [split, boundary, List.take_left]

theorem boundary_append (before after : List Record) :
    boundary (before ++ after) before.length = (before.flatMap bytes).length := by
  rw [boundary, List.take_left]

end Wire.Record

namespace MessageType

/-! ## every message -/

theorem divisible_layout (t : MessageType) : ∀ f ∈ t.layout.fields, f.Divisible := by
  cases t <;> simp [layout, Timestamp.layout, SpanContext.layout, KeyValue.layout, Log.layout,
    Reference.layout, Span.layout, Reporter.layout, MetricsSample.layout, InternalMetrics.layout,
    Auth.layout, Report.layout, Command.layout, ReportResponse.layout, Reports.layout, Spans.layout,
    TagValue.complete_members, SampleValue.complete_members]

/-- **No truncated message is accepted.**  In whatever order the entries of its maps were written, a
message is cut anywhere.  Between two records, and in front of all of them, what is left is decoded as the
message of which exactly these records are a writing; anywhere else it is not decoded. -/
theorem truncated_between_records_only (t : MessageType) (m : t.Message)
    (small : (t.layout.encode m).length < UInt64.size) :
    (∃ rs, Values.Writes t.layout.fields (t.layout.split m) rs ∧
        t.layout.encode m = rs.flatMap Record.bytes) ∧
      ∀ rs, Values.Writes t.layout.fields (t.layout.split m) rs →
        ∀ k < (rs.flatMap Record.bytes).length,
          (∀ j, k = Record.boundary rs j →
            ∃ n, Values.Writes t.layout.fields (t.layout.split n) (rs.take j) ∧
              t.layout.decode ((rs.flatMap Record.bytes).take k) = .ok n) ∧
          ((∀ j, k ≠ Record.boundary rs j) →
            ∃ e, t.layout.decode ((rs.flatMap Record.bytes).take k) = .error e) := by
  refine ⟨⟨t.layout.records m, Values.writes_records _ _, rfl⟩, fun rs written k short => ?_⟩
  have sound := t.sound_layout
  have small : (rs.flatMap Record.bytes).length < UInt64.size := by
    rwa [sound.length_encodes ⟨rs, written, rfl⟩ (t.layout.encodes_encode m)]
  constructor
  · rintro j rfl
    rw [Record.take_boundary]
    exact sound.decode_take (by decide) t.divisible_layout written small j
  · intro elsewhere
    obtain ⟨before, r, after, i, rfl, cut, rfl⟩ := exists_cut_piece short
    have begun : 0 < i := by
      refine Nat.pos_of_ne_zero fun none => elsewhere before.length ?_
      rw [Record.boundary_append, none, Nat.add_zero]
    rw [take_of_cut_piece before after cut]
    exact sound.decode_error_of_cut (by decide) t.exact_layout written small begun cut

/-- the records of `ambiguous`, its later key first -/
def laterKeyFirst : List Record :=
  [Scalar.uint64.record 1 300, entryLayout.embed 3 ("b", ""), entryLayout.embed 3 ("a", "x")]

/-- what is left of `ambiguous` without the last of them -/
def withoutEntry : SpanContext := ⟨300, 0, (∅ : TextMap).insert "b" ""⟩

theorem truncated_between_records_only_of_baggage :
    (SpanContext.layout.encode ambiguous).length < UInt64.size ∧
      Values.Writes SpanContext.layout.fields (SpanContext.layout.split ambiguous) laterKeyFirst ∧
      8 < (laterKeyFirst.flatMap Record.bytes).length ∧ 8 = Record.boundary laterKeyFirst 2 ∧
      Values.Writes SpanContext.layout.fields (SpanContext.layout.split withoutEntry)
        (laterKeyFirst.take 2) ∧
      SpanContext.layout.decode ((laterKeyFirst.flatMap Record.bytes).take 8) = .ok withoutEntry ∧
      13 < (laterKeyFirst.flatMap Record.bytes).length ∧ (∀ j, 13 ≠ Record.boundary laterKeyFirst j) ∧
      ∃ e, SpanContext.layout.decode ((laterKeyFirst.flatMap Record.bytes).take 13) = .error e := by
  have small : (SpanContext.layout.encode ambiguous).length < UInt64.size := by decide +kernel
  have perm : [("b", ""), ("a", "x")].Perm ambiguous.baggage.toList := by decide +kernel
  have written : Values.Writes SpanContext.layout.fields (SpanContext.layout.split ambiguous)
      laterKeyFirst :=
    ⟨_, _, rfl, ⟨_, _, rfl, ⟨_, [], ⟨_, perm, rfl⟩, rfl, rfl⟩, rfl⟩, by decide +kernel⟩
  have first : 8 < (laterKeyFirst.flatMap Record.bytes).length := by decide +kernel
  have second : 13 < (laterKeyFirst.flatMap Record.bytes).length := by decide +kernel
  have between : 8 = Record.boundary laterKeyFirst 2 := by decide +kernel
  have within : ∀ j, 13 ≠ Record.boundary laterKeyFirst j := by
    intro j
    match j with
    | 0 | 1 | 2 => decide +kernel
    | j + 3 =>
      have all : laterKeyFirst.take (j + 3) = laterKeyFirst :=
        List.take_of_length_le (Nat.le_add_left 3 j)
      rw [Record.boundary, all]
      decide +kernel
  have truncated := (truncated_between_records_only .spanContext ambiguous small).2 _ written
  obtain ⟨n, fewer, decoded⟩ := (truncated 8 first).1 2 between
  have same : SpanContext.layout.decode ((laterKeyFirst.flatMap Record.bytes).take 8)
      = .ok withoutEntry := by decide +kernel
  obtain rfl : n = withoutEntry := Except.ok.inj (decoded.symm.trans same)
  exact ⟨small, written, first, between, fewer, same, second, within, (truncated 13 second).2 within⟩

end MessageType

end MockCollector
