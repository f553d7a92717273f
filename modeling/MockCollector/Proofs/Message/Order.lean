import Mathlib.Control.Monad.Basic
import MockCollector.Proofs.Message.Exactness
import MockCollector.Proofs.Message.RoundTrip
import MockCollector.Proofs.Wire.Gathering
/-!
# The order of records, and unknown fields

* `MessageType.records_in_any_order`   between the records of different fields the order does not matter,
                             and records that the message does not know may stand anywhere;
* `untyped_entries_mind_their_neighbours`   a baggage entry is read as a length and that many bytes behind
                             a key of any wire type, and then what stands behind it matters.
-/

namespace MockCollector

open Wire

namespace MessageType

/-- **Records are read in any order**: complete records that are decoded as a message are decoded as it in
every order that is the same within each field, and with a complete record of no field, if that is passed
over by itself, anywhere among them. -/
theorem records_in_any_order (t : MessageType) (rs : List WireRecord)
    (complete : ∀ r ∈ rs, r.CompleteIn t.maps) (m : t.Message)
    (decoded : t.layout.decode (rs.flatMap WireRecord.bytes) = .ok m) :
    (∀ ss, Reordered t.layout.fields rs ss → t.layout.decode (ss.flatMap WireRecord.bytes) = .ok m) ∧
      ∀ before after r, rs = before ++ after → r.Complete → r.number ∉ Values.numbers t.layout.fields →
        t.layout.decode r.bytes = .ok t.layout.empty →
        t.layout.decode ((before ++ r :: after).flatMap WireRecord.bytes) = .ok m := by
  constructor
  · intro ss reordered
    exact Layout.decode_reordered t.exact_layout t.maps_subset_numbers t.sound_layout.apart complete
      reordered decoded
  · rintro before after r rfl whole unknown alone
    exact Layout.decode_inserted t.exact_layout t.maps_subset_numbers t.sound_layout.apart complete
      whole unknown alone decoded

/-- a span context of two trace ids, an entry of its baggage and a span id -/
def contextRecords : List WireRecord :=
  [.written ⟨1, .varint⟩ (by decide) [7], .written ⟨3, .fixed32⟩ (by decide) [3, 10, 1, 97],
    .written ⟨1, .varint⟩ (by decide) [9], .written ⟨2, .varint⟩ (by decide) [133, 0]]

/-- the same with the span id first and the entry last -/
def shuffledRecords : List WireRecord :=
  [.written ⟨2, .varint⟩ (by decide) [133, 0], .written ⟨1, .varint⟩ (by decide) [7],
    .written ⟨1, .varint⟩ (by decide) [9], .written ⟨3, .fixed32⟩ (by decide) [3, 10, 1, 97]]

/-- a text within a group -/
def foreignText : WireRecord := .written ⟨10, .lengthDelimited⟩ (by decide) [1, 84]

def foreignGroup : WireRecord :=
  .written ⟨9, .groupStart⟩ (by decide)
    ([foreignText].flatMap WireRecord.bytes ++ Key.encode ⟨9, .groupEnd⟩)

def contextRead : SpanContext := ⟨9, 5, (∅ : TextMap).insert "a" ""⟩

theorem records_in_any_order_of_a_span_context :
    (∀ r ∈ contextRecords, r.CompleteIn [3]) ∧
      SpanContext.layout.decode (contextRecords.flatMap WireRecord.bytes) = .ok contextRead ∧
      Reordered SpanContext.layout.fields contextRecords shuffledRecords ∧
      SpanContext.layout.decode (shuffledRecords.flatMap WireRecord.bytes) = .ok contextRead ∧
      foreignGroup.Complete ∧
      SpanContext.layout.decode ((contextRecords.take 1 ++ foreignGroup ::
        contextRecords.drop 1).flatMap WireRecord.bytes) = .ok contextRead := by
  have complete : ∀ r ∈ contextRecords, r.CompleteIn [3] := by
    simp only [contextRecords, List.forall_mem_cons]
    exact ⟨.plain (by decide), (by decide : WireType.lengthDelimited.Lays [3, 10, 1, 97]),
      .plain (by decide), .plain (by decide), List.forall_mem_nil _⟩
  have decoded : SpanContext.layout.decode (contextRecords.flatMap WireRecord.bytes)
      = .ok contextRead := by decide +kernel
  have reordered : Reordered SpanContext.layout.fields contextRecords shuffledRecords := by
    refine ⟨by decide +kernel, ?_⟩
    simp only [SpanContext.layout, List.forall_mem_cons]
    exact ⟨rfl, rfl, rfl, List.forall_mem_nil _⟩
  have whole : foreignGroup.Complete := by
    have inside : ∀ s ∈ [foreignText], s.Complete :=
      List.forall_mem_singleton.mpr (.plain (by decide))
    exact .group rfl inside (Key.spells_encode (by decide)) rfl
  have any := records_in_any_order .spanContext contextRecords complete contextRead decoded
  refine ⟨complete, decoded, reordered, any.1 _ reordered, whole, ?_⟩
  exact any.2 _ _ foreignGroup (List.take_append_drop 1 contextRecords).symm whole (by decide)
    (by decide +kernel)

end MessageType

/-! ## baggage -/

/-- by its wire type an entry of the baggage is a number; it is read as the length of the next record -/
def untypedEntry : WireRecord := .written ⟨3, .varint⟩ (by decide) [3]

def typedText : WireRecord := .written ⟨1, .lengthDelimited⟩ (by decide) [1, 97]

def foreignNumber : WireRecord := .written ⟨9, .varint⟩ (by decide) [1]

/-- what is complete by its wire type alone minds its neighbours: another order, or a record of no field
in between, and the entry is of other bytes -/
theorem untyped_entries_mind_their_neighbours :
    (∀ r ∈ [untypedEntry, typedText, foreignNumber], r.Complete) ∧
      SpanContext.layout.decode ([untypedEntry, typedText].flatMap WireRecord.bytes)
        = .ok ⟨0, 0, (∅ : TextMap).insert "a" ""⟩ ∧
      Reordered SpanContext.layout.fields [untypedEntry, typedText] [typedText, untypedEntry] ∧
      SpanContext.layout.decode ([typedText, untypedEntry].flatMap WireRecord.bytes)
        = .error ⟨.wrongWireType .lengthDelimited .varint, [⟨"SpanContext", "trace_id"⟩]⟩ ∧
      foreignNumber.number ∉ Values.numbers SpanContext.layout.fields ∧
      SpanContext.layout.decode foreignNumber.bytes = .ok SpanContext.layout.empty ∧
      SpanContext.layout.decode ([untypedEntry, foreignNumber, typedText].flatMap WireRecord.bytes)
        = .error ⟨.lengthExceeded, [⟨"SpanContext", "baggage"⟩]⟩ := by
  have complete : ∀ r ∈ [untypedEntry, typedText, foreignNumber], r.Complete := by
    simp only [List.forall_mem_cons]
    exact ⟨.plain (by decide), .plain (by decide), .plain (by decide), List.forall_mem_nil _⟩
  have reordered :
      Reordered SpanContext.layout.fields [untypedEntry, typedText] [typedText, untypedEntry] := by
    refine ⟨.swap _ _ _, ?_⟩
    simp only [SpanContext.layout, List.forall_mem_cons]
    exact ⟨rfl, rfl, rfl, List.forall_mem_nil _⟩
  exact ⟨complete, by decide +kernel, reordered, by decide +kernel, by decide, by decide +kernel,
    by decide +kernel⟩

end MockCollector
