import MockCollector.Proofs.Message.RoundTrip
import MockCollector.Proofs.Stream.Reading
/-!
# Report streams are read back

* `StreamEncodes header spans bs`   the ways to write a stream, of which `encodeStream` takes one;
* `opening header`                  what the opening frames of a stream tell;
* `Decoder.times d n`               the answers of `n` steps;
* `stream_read_back`                a stream, however it is cut, is read back to its end.
-/

namespace MockCollector

open Wire

/-! ## writing -/

def StreamEncodes (header : Report) (spans : List Span) (bs : List UInt8) : Prop :=
  ∃ r a m ss,
    Reporter.layout.Embeds Report.reporterField (header.reporter.getD Reporter.layout.empty) r ∧
    Auth.layout.Embeds Report.authField (header.auth.getD Auth.layout.empty) a ∧
    InternalMetrics.layout.Embeds Report.internalMetricsField
      (header.internalMetrics.getD InternalMetrics.layout.empty) m ∧
    Span.layout.EmbedsAll Report.spansField spans ss ∧
    bs = r.bytes ++ (a.bytes ++ m.bytes) ++ ss.flatMap Record.bytes

theorem streamEncodes_encodeStream (header : Report) (spans : List Span) :
    StreamEncodes header spans (encodeStream header spans) := by
  refine ⟨_, _, _, spans.map (Span.layout.embed Report.spansField),
    Reporter.layout.embeds_embed _ _, Auth.layout.embeds_embed _ _,
    InternalMetrics.layout.embeds_embed _ _, Span.layout.embedsAll_map_embed _ _, ?_⟩
  rw [encodeStream, List.flatMap_map]
  simp only [List.append_assoc]
  rfl

/-- the parts that the opening frames carry: an empty message where the header has none -/
def opening (header : Report) : Report :=
  ⟨some (header.reporter.getD Reporter.layout.empty), some (header.auth.getD Auth.layout.empty),
    [], 0, some (header.internalMetrics.getD InternalMetrics.layout.empty)⟩

/-- every part of a stream is short enough for a length to be written in front of it -/
structure StreamFits (header : Report) (spans : List Span) : Prop where
  reporter : (Reporter.layout.encode
    (header.reporter.getD Reporter.layout.empty)).length < UInt64.size
  auth : (Auth.layout.encode (header.auth.getD Auth.layout.empty)).length < UInt64.size
  metrics : (InternalMetrics.layout.encode
    (header.internalMetrics.getD InternalMetrics.layout.empty)).length < UInt64.size
  spans : ∀ s ∈ spans, (Span.layout.encode s).length < UInt64.size

/-! ## the steps -/

namespace Decoder

open Body

theorem answers_opening {header : Report} {spans : List Span} (fits : StreamFits header spans)
    {r a m : Record}
    (hr : Reporter.layout.Embeds Report.reporterField
      (header.reporter.getD Reporter.layout.empty) r)
    (ha : Auth.layout.Embeds Report.authField (header.auth.getD Auth.layout.empty) a)
    (hm : InternalMetrics.layout.Embeds Report.internalMetricsField
      (header.internalMetrics.getD InternalMetrics.layout.empty) m) :
    Decoder.header.Answers (r.bytes ++ (a.bytes ++ m.bytes)) (.ok (opening header)) :=
  answers_header
    (answers_record Reporter.sound_layout (by decide) (by decide) hr fits.reporter)
    (answers_record Auth.sound_layout (by decide) (by decide) ha fits.auth)
    (answers_record InternalMetrics.sound_layout (by decide) (by decide) hm fits.metrics)

theorem answers_span?_record {s : Span} {r : Record}
    (hr : Span.layout.Embeds Report.spansField s r)
    (small : (Span.layout.encode s).length < UInt64.size) : span?.Answers r.bytes (.ok (some s)) := by
  refine answers_span? ?_ (answers_record Span.sound_layout (by decide) (by decide) hr small)
  intro none
  have key := Key.decode_encode (k := r.key) (by
    obtain ⟨bs, -, rfl⟩ := hr
    exact (by decide : Key.Fits Report.spansField)) []
  rw [Record.bytes] at none
  rw [(List.append_eq_nil_iff.mp none).1] at key
  cases key

/-! ## steps in a row -/

/-- what `n` steps answer, one after the other, and what they leave -/
def times {α : Type} (d : Decoder α) : Nat → Body → List (Except FrameError α) × Body
  | 0, body => ([], body)
  | n + 1, body => ((d body).1 :: (times d n (d body).2).1, (times d n (d body).2).2)

theorem times_span?_of_events_nil {body : Body} (h : events body = []) (n : Nat) :
    times span? n body = (List.replicate n (.ok none), body) := by
  induction n with
  | zero => rfl
  | succ n ih => rw [times, span?_of_events_nil h, ih, List.replicate_succ]

theorem times_span? {spans : List Span} {ss : List Record} {body : Body} (extra : Nat)
    (hs : Span.layout.EmbedsAll Report.spansField spans ss)
    (small : ∀ s ∈ spans, (Span.layout.encode s).length < UInt64.size)
    (hb : events body = (ss.flatMap Record.bytes).map .byte) :
    ∃ last, times span? (spans.length + extra) body
        = (spans.map (fun s => .ok (some s)) ++ List.replicate extra (.ok none), last) ∧
      events last = [] := by
  induction spans generalizing ss body with
  | nil =>
    obtain rfl : ss = [] := hs
    refine ⟨body, ?_, hb⟩
    rw [List.length_nil, Nat.zero_add, times_span?_of_events_nil hb]
    rfl
  | cons s spans ih =>
    obtain ⟨r, ss, hr, hss, rfl⟩ := hs
    rw [List.flatMap_cons, List.map_append] at hb
    obtain ⟨rest, hstep, he⟩ := answers_span?_record hr (small s List.mem_cons_self) body _ hb
    obtain ⟨last, hlast, hend⟩ := ih hss (fun t ht => small t (List.mem_cons_of_mem s ht)) he
    refine ⟨last, ?_, hend⟩
    rw [List.length_cons, Nat.add_right_comm, times, hstep, hlast]
    rfl

end Decoder

/-- **A stream is read back**: however it was written and however its bytes are cut, the opening
frames tell what the header does, the spans come in order, and after them there is no other, nor is
a byte left. -/
theorem stream_read_back (header : Report) (spans : List Span) (fits : StreamFits header spans) :
    StreamEncodes header spans (encodeStream header spans) ∧
      ∀ bs, StreamEncodes header spans bs → ∀ chunks : List (List UInt8), chunks.flatten = bs →
        ∃ rest, Decoder.header (chunks.map .bytes) = (.ok (opening header), rest) ∧
          ∀ extra, ∃ last, Decoder.times Decoder.span? (spans.length + extra) rest
              = (spans.map (fun s => .ok (some s)) ++ List.replicate extra (.ok none), last) ∧
            Body.events last = [] := by
  refine ⟨streamEncodes_encodeStream header spans, ?_⟩
  rintro bs ⟨r, a, m, ss, hr, ha, hm, hs, rfl⟩ chunks cut
  have whole := Body.events_map_bytes chunks
  rw [cut, List.map_append] at whole
  obtain ⟨rest, hh, he⟩ := Decoder.answers_opening fits hr ha hm _ _ whole
  exact ⟨rest, hh, fun extra => Decoder.times_span? extra hs fits.spans he⟩

/-- a header whose spans and offset are not written -/
def sparse : Report := ⟨none, some ⟨"k"⟩, [Span.layout.empty], 7, none⟩

def twoSpans : List Span := [{ Span.layout.empty with operationName := "a" }, Span.layout.empty]

/-- a stream that is cut behind a tag, within a payload and before a length -/
def pieces : List (List UInt8) :=
  [[10], [], [0, 18, 3, 10, 1], [107, 50, 0, 26, 3, 18, 1, 97, 26], [0], []]

theorem stream_read_back_in_pieces :
    StreamFits sparse twoSpans ∧ StreamEncodes sparse twoSpans pieces.flatten ∧
      ∃ rest, Decoder.header (pieces.map .bytes) = (.ok (opening sparse), rest) ∧
        ∃ last, Decoder.times Decoder.span? 4 rest
            = ([.ok (twoSpans[0]?), .ok (twoSpans[1]?), .ok none, .ok none], last) ∧
          Body.events last = [] := by
  have fits : StreamFits sparse twoSpans :=
    ⟨by decide +kernel, by decide +kernel, by decide +kernel, by decide +kernel⟩
  have written := stream_read_back sparse twoSpans fits
  have same : pieces.flatten = encodeStream sparse twoSpans := by decide +kernel
  have encodes : StreamEncodes sparse twoSpans pieces.flatten := same ▸ written.1
  obtain ⟨rest, hh, hs⟩ := written.2 _ encodes pieces rfl
  exact ⟨fits, encodes, rest, hh, hs 2⟩

end MockCollector
