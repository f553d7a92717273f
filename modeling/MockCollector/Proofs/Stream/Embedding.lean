import Mathlib.Algebra.Group.Nat.Defs
import MockCollector.Proofs.Stream.Resynchronisation
/-!
# Sub-messages in any field

A sub-message is written under a field number and read under one, the same or another.

* `Decoder.answers_other_tag`   a step that expects another field stops behind the tag;
* `Decoder.answers_other_field`   so it does at a record that carries a message in another field;
* `Decoder.embedded_read_where_written`   where a message was written, a step for its field takes it and
                            nothing else, and a step for any other field takes the tag.
-/

namespace MockCollector

open Wire

theorem fieldTag_injective : Function.Injective fieldTag := by
  intro f g same
  rw [fieldTag, fieldTag] at same
  omega

namespace Decoder

open Body

section
variable {M N : Type} {field : Nat} {m : M}

theorem answers_other_tag {L : Layout M} {found : Nat} {tag : List UInt8}
    (ht : Varint.decode tag = some (found, [])) (other : found ≠ fieldTag field) :
    (embedded L field).Answers tag (.error (.unexpectedTag field (fieldTag field) found)) := by
  rw [embedded_eq, ← List.append_nil tag]
  refine (answers_varint ht).bind ?_
  rw [behindTag, if_neg other]
  exact answers_give _

theorem answers_other_field (L : Layout N) {K : Layout M} {r : Record} {g : Nat}
    (hr : K.Embeds field m r) (fits : Key.Fits field) (other : g ≠ field) :
    (embedded L g).Answers r.key.encode
      (.error (.unexpectedTag g (fieldTag g) (fieldTag field))) := by
  obtain ⟨_, -, rfl⟩ := hr
  obtain ⟨key, small⟩ := encode_key_eq fits
  have tag : Varint.decode ((⟨field, .lengthDelimited⟩ : Key).encode) = some (fieldTag field, []) :=
    key ▸ Varint.decode_encode_nil small
  exact answers_other_tag tag (fieldTag_injective.ne other.symm)

end

/-- **Writer and reader of sub-messages agree for every field.**  A message is written behind any bytes
and anything may come behind it, failures included.  Past those bytes a step for its field answers the
message and leaves what comes behind; a step for another field, whatever type it expects, names both tags
and leaves the length and the message as well. -/
theorem embedded_read_where_written (t : MessageType) (m : t.Message) (field : Nat)
    (least : 1 ≤ field) (most : field < 2 ^ 29) (small : (t.layout.encode m).length < UInt64.size) :
    (∃ r, t.layout.Embeds field m r ∧ r.bytes = encodeEmbedded t.layout field m) ∧
      ∀ r, t.layout.Embeds field m r → ∀ (front : List UInt8) (behind : List Event) (body : Body),
        events body = (front ++ r.bytes).map .byte ++ behind →
          ∃ mid, body.read front.length = (.ok front, mid) ∧
            (∃ rest, embedded t.layout field mid = (.ok m, rest) ∧ events rest = behind) ∧
            ∀ g, g ≠ field → ∀ u : MessageType, ∃ rest,
              embedded u.layout g mid = (.error (.unexpectedTag g (8 * g + 2) (8 * field + 2)), rest) ∧
                events rest = r.payload.map .byte ++ behind := by
  have fits : Key.Fits field := ⟨least, most⟩
  refine ⟨⟨_, t.layout.embeds_embed field m, rfl⟩, fun r hr front behind body comes => ?_⟩
  rw [List.map_append, List.append_assoc] at comes
  obtain ⟨mid, hfront, here⟩ := read_of_events comes
  refine ⟨mid, hfront, answers_record t.sound_layout (by decide) fits hr small mid behind here, ?_⟩
  intro g other u
  rw [Record.bytes, List.map_append, List.append_assoc] at here
  exact answers_other_field u.layout hr fits other mid _ here

/-- a field whose tag takes five bytes -/
def farField : Nat := 2 ^ 29 - 1

/-- `MessageType.ambiguous` in that field, its later key first -/
def farRecord : Record :=
  ⟨⟨farField, .lengthDelimited⟩, [16, 8, 172, 2, 26, 3, 10, 1, 98, 26, 6, 10, 1, 97, 18, 1, 120]⟩

/-- the record behind two bytes and in pieces, and a failure behind it -/
def farBody : Body :=
  [.bytes [7, 0, 250], .bytes [255, 255, 255, 15, 16, 8, 172], .bytes [],
    .bytes [2, 26, 3, 10, 1, 98, 26, 6, 10, 1, 97, 18, 1, 120], .failure lost, .bytes [26]]

theorem embedded_read_where_written_far_field :
    1 ≤ farField ∧ farField < 2 ^ 29 ∧
      (SpanContext.layout.encode MessageType.ambiguous).length < UInt64.size ∧
      ∃ mid, farBody.read 2 = (.ok [7, 0], mid) ∧
        (∃ rest, embedded SpanContext.layout farField mid = (.ok MessageType.ambiguous, rest) ∧
          events rest = [.failure lost, .byte 26]) ∧
        ∃ rest, embedded Auth.layout 2 mid = (.error (.unexpectedTag 2 18 4294967290), rest) ∧
          events rest = farRecord.payload.map .byte ++ [.failure lost, .byte 26] := by
  have least : 1 ≤ farField := by decide
  have most : farField < 2 ^ 29 := by decide
  have small : (SpanContext.layout.encode MessageType.ambiguous).length < UInt64.size := by
    decide +kernel
  have perm : [("b", ""), ("a", "x")].Perm MessageType.ambiguous.baggage.toList := by decide +kernel
  have encodes : SpanContext.layout.Encodes MessageType.ambiguous (farRecord.payload.drop 1) :=
    ⟨_, ⟨_, _, rfl, ⟨_, _, rfl, ⟨_, [], ⟨_, perm, rfl⟩, rfl, rfl⟩, rfl⟩, rfl⟩, by decide +kernel⟩
  have written : SpanContext.layout.Embeds farField MessageType.ambiguous farRecord :=
    ⟨_, encodes, by decide +kernel⟩
  have comes : events farBody
      = ([7, 0] ++ farRecord.bytes).map .byte ++ [.failure lost, .byte 26] := by decide +kernel
  obtain ⟨mid, passed, taken, others⟩ := (embedded_read_where_written .spanContext
    MessageType.ambiguous farField least most small).2 farRecord written [7, 0] _ farBody comes
  exact ⟨least, most, small, mid, passed, taken, others 2 (by decide) .auth⟩

end Decoder

end MockCollector
