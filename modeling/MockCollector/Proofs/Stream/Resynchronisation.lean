import Mathlib.Control.Monad.Basic
import MockCollector.Proofs.Stream.Sequencing
/-!
# Frames with any payload

A frame is taken off a body whole, whatever bytes its payload has.

* `Frame`, `Frame.bytes`    a frame in its parts: a tag, a length and a payload;
* `Frame.Spelt f field`     the tag is that of `field` and the length that of the payload, spelt in any way;
* `Decoder.answers_embedded_of_spelt`   a step answers what the payload tells, be it an error, and leaves
                          what is behind the frame;
* `Decoder.bad_payloads_cost_no_span`   so frames in a row are told apart whatever they carry.
-/

namespace MockCollector

open Wire

structure Frame where
  tag : List UInt8
  length : List UInt8
  payload : List UInt8
  deriving DecidableEq

namespace Frame

def bytes (f : Frame) : List UInt8 := f.tag ++ (f.length ++ f.payload)

structure Spelt (f : Frame) (field : Nat) : Prop where
  tag : Varint.Spells (8 * field + 2) f.tag
  length : Varint.Spells f.payload.length f.length

theorem Spelt.bytes_ne_nil {f : Frame} {field : Nat} (h : f.Spelt field) : f.bytes ≠ [] :=
  List.append_ne_nil_of_left_ne_nil h.tag.chained.ne_nil _

end Frame

namespace Decoder

open Body

section
variable {M : Type} {L : Layout M} {field : Nat} {f : Frame}

theorem answers_payload_of_spells {length payload : List UInt8}
    (h : Varint.Spells payload.length length) :
    (Decoder.payload L).Answers (length ++ payload) (carried L payload) := by
  rw [payload_eq]
  have told : ((exactly payload.length).bind fun bs => give (carried L bs)).Answers (payload ++ [])
      (carried L payload) := (answers_exactly payload).bind (answers_give _)
  rw [List.append_nil] at told
  exact (answers_varint h.decode).bind told

theorem answers_embedded_of_spelt (h : f.Spelt field) :
    (embedded L field).Answers f.bytes (carried L f.payload) := by
  rw [embedded_eq]
  refine (answers_varint h.tag.decode).bind ?_
  rw [behindTag_expected]
  exact answers_payload_of_spells h.length

end

/-- what a step for a span answers to a payload -/
def spanIn (payload : List UInt8) : Except FrameError (Option Span) :=
  match Span.layout.decode payload with
  | .error e => .error (.decode e)
  | .ok s => .ok (some s)

theorem answers_span?_of_spelt {f : Frame} (h : f.Spelt 3) : span?.Answers f.bytes (spanIn f.payload) := by
  have same : (carried Span.layout f.payload).map some = spanIn f.payload := by
    rw [carried, spanIn]
    cases Span.layout.decode f.payload <;> rfl
  rw [← same]
  exact answers_span? h.bytes_ne_nil (answers_embedded_of_spelt h)

/-- **A payload never moves a frame boundary.**  Frames of spans follow one another, their numbers spelt
in any way and their payloads any bytes, and behind them comes anything.  As many steps answer, in order,
the span that each payload is, or that it is none; and they leave what is behind the frames. -/
theorem bad_payloads_cost_no_span {fs : List Frame} (spelt : ∀ f ∈ fs, f.Spelt 3) {body : Body}
    {behind : List Event} (comes : events body = (fs.flatMap Frame.bytes).map .byte ++ behind) :
    ∃ rest, times span? fs.length body = (fs.map fun f => spanIn f.payload, rest) ∧
      events rest = behind := by
  induction fs generalizing body with
  | nil => exact ⟨body, rfl, comes⟩
  | cons f fs ih =>
    obtain ⟨first, others⟩ := List.forall_mem_cons.mp spelt
    rw [List.flatMap_cons, List.map_append, List.append_assoc] at comes
    obtain ⟨mid, hf, left⟩ := answers_span?_of_spelt first body _ comes
    obtain ⟨rest, hfs, left⟩ := ih others left
    refine ⟨rest, ?_, left⟩
    rw [List.length_cons, times, hf, hfs]
    rfl

/-- payloads that look like frames and like numbers without end, and one of nothing -/
def unruly : List Frame :=
  [⟨[26], [2], [26, 255]⟩, ⟨[154, 128, 0], [131, 0], [18, 1, 97]⟩, ⟨[26], [5], [26, 3, 18, 1, 97]⟩,
    ⟨[154, 0], [0], []⟩, ⟨[26], [11], [255, 255, 255, 255, 255, 255, 255, 255, 255, 255, 2]⟩]

def lost : IoError := ⟨.connectionReset, "lost"⟩

/-- the frames in pieces, the start of another one, and a failure -/
def unrulyBody : Body :=
  [.bytes [26, 2, 26], .bytes [255, 154], .bytes [128, 0, 131, 0, 18, 1, 97, 26, 5, 26, 3], .bytes [],
    .bytes [18, 1, 97, 154, 0, 0, 26, 11, 255, 255, 255, 255, 255, 255, 255, 255, 255, 255, 2, 26],
    .failure lost]

theorem bad_payloads_cost_no_span_of_unruly_frames :
    (∀ f ∈ unruly, f.Spelt 3) ∧
      ∃ rest, times span? 5 unrulyBody
          = ([.error (.decode ⟨.malformedVarint, [⟨"Span", "references"⟩]⟩), .ok twoSpans[0]?,
              .error (.decode ⟨.underflow, [⟨"Reference", "span_context"⟩, ⟨"Span", "references"⟩]⟩),
              .ok twoSpans[1]?, .error (.decode ⟨.malformedVarint, []⟩)], rest) ∧
        events rest = [.byte 26, .failure lost] := by
  have spelt : ∀ f ∈ unruly, f.Spelt 3 := by
    have numbers : ∀ f ∈ unruly, Varint.decode f.tag = some (26, []) ∧
        Varint.decode f.length = some (f.payload.length, []) := by decide +kernel
    intro f hf
    exact ⟨Varint.spells_of_decode (numbers f hf).1, Varint.spells_of_decode (numbers f hf).2⟩
  have comes : events unrulyBody = (unruly.flatMap Frame.bytes).map .byte ++ [.byte 26, .failure lost] :=
    rfl
  have told : (unruly.map fun f => spanIn f.payload)
      = [.error (.decode ⟨.malformedVarint, [⟨"Span", "references"⟩]⟩), .ok twoSpans[0]?,
          .error (.decode ⟨.underflow, [⟨"Reference", "span_context"⟩, ⟨"Span", "references"⟩]⟩),
          .ok twoSpans[1]?, .error (.decode ⟨.malformedVarint, []⟩)] := by decide +kernel
  obtain ⟨rest, answers, left⟩ := bad_payloads_cost_no_span spelt comes
  exact ⟨spelt, rest, told ▸ answers, left⟩

end Decoder

end MockCollector
