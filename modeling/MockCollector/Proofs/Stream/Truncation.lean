import Mathlib.Data.List.Forall2
import MockCollector.Proofs.Stream.Verdicts
import MockCollector.Proofs.Wire.Prefixes
/-!
# Streams that are cut short

Of a stream that ends too early nothing is made up, and it is told from one that ends where it may.

* `Frame.shortfall f j`     what a step says of a frame of which only `j` bytes are there;
* `Frame.Spelt.short_take`  so a frame that is cut is too little for a step;
* `StreamFrames header spans fs`   the frames of a stream: the opening ones, and one for each span;
* `Frame.Cut fs k before f j`   the place `k` lies `j` bytes into `f`, with `before` in front of it;
* `truncation_is_noticed`   wherever a stream is cut, the spans in front of the cut are read, and then the
                          shortfall is told unless the cut lies between two frames of the spans.
-/

namespace MockCollector

open Wire

/-! ## a frame that is cut -/

namespace Frame

/-- the bytes in front of the payload -/
def headLength (f : Frame) : Nat := f.tag.length + f.length.length

def shortfall (f : Frame) (j : Nat) : FrameError :=
  if f.headLength ≤ j then .truncated f.payload.length (j - f.headLength) else .unexpectedEnd

theorem length_bytes (f : Frame) : f.bytes.length = f.headLength + f.payload.length := by
  rw [bytes, List.length_append, List.length_append, headLength, Nat.add_assoc]

/-- a message and a frame that carries it -/
def Carries {M : Type} (L : Layout M) (field : Nat) (m : M) (f : Frame) : Prop :=
  f.Spelt field ∧ L.decode f.payload = .ok m

section
variable {M : Type} {L : Layout M} {field j : Nat} {f : Frame} {m : M}

theorem Carries.tells (h : f.Carries L field m) : Tells L field f.bytes (.ok m) := by
  have told : Decoder.carried L f.payload = .ok m := by rw [Decoder.carried, h.2]
  exact told ▸ .whole h.1

theorem Spelt.short_take (h : f.Spelt field) (cut : j < f.bytes.length) :
    Short field (f.bytes.take j) (f.shortfall j) := by
  have total := f.length_bytes
  have head : f.headLength = f.tag.length + f.length.length := rfl
  rw [bytes, List.take_append]
  by_cases tagged : f.tag.length ≤ j
  · rw [List.take_of_length_le tagged, List.take_append]
    by_cases counted : f.length.length ≤ j - f.tag.length
    · have some : (f.payload.take (j - f.tag.length - f.length.length)).length = j - f.headLength := by
        rw [List.length_take]
        omega
      have behind : f.headLength ≤ j := by omega
      rw [List.take_of_length_le counted, shortfall, if_pos behind, ← some]
      exact .payload h.tag h.length (by omega)
    · have short : j - f.tag.length < f.length.length := Nat.lt_of_not_le counted
      have within : ¬ f.headLength ≤ j := by omega
      rw [Nat.sub_eq_zero_of_le (Nat.le_of_lt short), List.take_zero, List.append_nil, shortfall,
        if_neg within]
      exact .length h.tag (h.length.unfinished_take short)
  · have short : j < f.tag.length := Nat.lt_of_not_le tagged
    have within : ¬ f.headLength ≤ j := by omega
    rw [Nat.sub_eq_zero_of_le (Nat.le_of_lt short), List.take_zero, List.append_nil, shortfall,
      if_neg within]
    exact .tag (h.tag.unfinished_take short)

end

end Frame

namespace Decoder

open Body

/-! ## the spans -/

/-- the spans whose frames are whole are read, and then the end of the body is met -/
theorem spans_of_cut {spans : List Span} {before after : List Frame} {f : Frame} {j : Nat}
    (carry : List.Forall₂ (fun s f => f.Carries Span.layout Report.spansField s) spans
      (before ++ f :: after))
    (cut : j < f.bytes.length) {body : Body}
    (hb : events body = (before.flatMap Frame.bytes ++ f.bytes.take j).map .byte) :
    Decoder.spans body
      = (spans.take before.length, if j = 0 then none else some (f.shortfall j)) := by
  induction before generalizing spans body with
  | nil =>
    rw [List.flatMap_nil, List.nil_append] at hb
    rw [List.length_nil, List.take_zero]
    by_cases whole : j = 0
    · rw [if_pos whole]
      rw [whole, List.take_zero] at hb
      exact spans_of_end (span?_of_events_nil hb)
    · cases carry with
      | cons here _ =>
        have begun : f.bytes.take j ≠ [] := by
          rw [ne_eq, List.take_eq_nil_iff, not_or]
          exact ⟨whole, here.1.bytes_ne_nil⟩
        have starves := (here.1.short_take cut).starves Span.layout
        obtain ⟨rest, failed, -⟩ := (starves_span? begun starves).ended body hb
        rw [if_neg whole]
        exact spans_of_error failed
  | cons g before ih =>
    cases carry with
    | @cons s _ spans _ first others =>
      rw [List.flatMap_cons, List.append_assoc, List.map_append] at hb
      obtain ⟨rest, read, left⟩ :=
        answers_span? first.1.bytes_ne_nil first.tells.answers body _ hb
      rw [spans_of_span read, ih others left]
      rfl

end Decoder

/-! ## places in a stream -/

namespace Frame

structure Cut (fs : List Frame) (k : Nat) (before : List Frame) (f : Frame) (j : Nat) : Prop where
  split : ∃ after, fs = before ++ f :: after
  within : j < f.bytes.length
  position : k = (before.flatMap bytes).length + j

theorem exists_cut {fs : List Frame} {k : Nat} (short : k < (fs.flatMap bytes).length) :
    ∃ before f j, Cut fs k before f j := by
  obtain ⟨before, f, after, j, split, within, position⟩ := exists_cut_piece short
  exact ⟨before, f, j, ⟨after, split⟩, within, position⟩

theorem Cut.take_eq {fs before : List Frame} {k j : Nat} {f : Frame} (h : Cut fs k before f j) :
    (fs.flatMap bytes).take k = before.flatMap bytes ++ f.bytes.take j := by
  obtain ⟨⟨after, rfl⟩, within, rfl⟩ := h
  exact take_of_cut_piece before after within

end Frame

/-! ## streams -/

def StreamFrames (header : Report) (spans : List Span) (fs : List Frame) : Prop :=
  ∃ r a m ss, fs = r :: a :: m :: ss ∧
    r.Carries Reporter.layout Report.reporterField (header.reporter.getD Reporter.layout.empty) ∧
    a.Carries Auth.layout Report.authField (header.auth.getD Auth.layout.empty) ∧
    m.Carries InternalMetrics.layout Report.internalMetricsField
      (header.internalMetrics.getD InternalMetrics.layout.empty) ∧
    List.Forall₂ (fun s f => f.Carries Span.layout Report.spansField s) spans ss

theorem exists_frame {M : Type} {L : Layout M} {height field : Nat} {m : M} {r : Record}
    (hL : L.Sound height) (deep : height ≤ Layout.maxDepth) (fits : Key.Fits field)
    (hr : L.Embeds field m r) (small : (L.encode m).length < UInt64.size) :
    ∃ f : Frame, f.Carries L field m ∧ r.bytes = f.bytes := by
  obtain ⟨bs, hm, rfl⟩ := hr
  obtain ⟨key, tagSmall⟩ := Decoder.encode_key_eq fits
  have short : bs.length < UInt64.size := hL.length_encodes hm (L.encodes_encode m) ▸ small
  refine ⟨⟨Varint.encode (fieldTag field), Varint.encode bs.length, bs⟩, ⟨⟨?_, ?_⟩, ?_⟩, ?_⟩
  · exact Varint.spells_of_decode (Varint.decode_encode_nil tagSmall)
  · exact Varint.spells_of_decode (Varint.decode_encode_nil short)
  · exact hL.decode_of_encodes deep hm short
  · rw [Record.bytes, key, delimited]
    rfl

theorem exists_frames {spans : List Span} {ss : List Record}
    (hs : Span.layout.EmbedsAll Report.spansField spans ss)
    (small : ∀ s ∈ spans, (Span.layout.encode s).length < UInt64.size) :
    ∃ fs : List Frame,
      List.Forall₂ (fun s f => f.Carries Span.layout Report.spansField s) spans fs ∧
        ss.flatMap Record.bytes = fs.flatMap Frame.bytes := by
  induction spans generalizing ss with
  | nil =>
    obtain rfl : ss = [] := hs
    exact ⟨[], .nil, rfl⟩
  | cons s spans ih =>
    obtain ⟨r, ss, hr, hss, rfl⟩ := hs
    obtain ⟨f, carries, same⟩ :=
      exists_frame Span.sound_layout (by decide) (by decide) hr (small s List.mem_cons_self)
    obtain ⟨fs, others, all⟩ := ih hss fun t ht => small t (List.mem_cons_of_mem s ht)
    refine ⟨f :: fs, .cons carries others, ?_⟩
    rw [List.flatMap_cons, List.flatMap_cons, same, all]

theorem StreamEncodes.frames {header : Report} {spans : List Span} {bs : List UInt8}
    (h : StreamEncodes header spans bs) (fits : StreamFits header spans) :
    ∃ fs, StreamFrames header spans fs ∧ bs = fs.flatMap Frame.bytes := by
  obtain ⟨r, a, m, ss, hr, ha, hm, hs, rfl⟩ := h
  obtain ⟨fr, cr, er⟩ := exists_frame Reporter.sound_layout (by decide) (by decide) hr fits.reporter
  obtain ⟨fa, ca, ea⟩ := exists_frame Auth.sound_layout (by decide) (by decide) ha fits.auth
  obtain ⟨fm, cm, em⟩ :=
    exists_frame InternalMetrics.sound_layout (by decide) (by decide) hm fits.metrics
  obtain ⟨fs, cs, es⟩ := exists_frames hs fits.spans
  refine ⟨fr :: fa :: fm :: fs, ⟨fr, fa, fm, fs, rfl, cr, ca, cm, cs⟩, ?_⟩
  rw [er, ea, em, es]
  simp only [List.flatMap_cons, List.append_assoc]

/-- a stream that is cut within its opening is not opened, and one that is cut behind it is read up to the
cut -/
theorem StreamFrames.cut {header : Report} {spans : List Span} {fs before : List Frame} {f : Frame}
    {k j : Nat} (h : StreamFrames header spans fs) (cut : Frame.Cut fs k before f j) {body : Body}
    (hb : body.events = ((fs.flatMap Frame.bytes).take k).map .byte) :
    if before.length < 3 then ∃ rest, Decoder.header body = (.error (f.shortfall j), rest)
    else ∃ rest, Decoder.header body = (.ok (opening header), rest) ∧
      Decoder.spans rest
        = (spans.take (before.length - 3), if j = 0 then none else some (f.shortfall j)) := by
  rw [cut.take_eq] at hb
  obtain ⟨r, a, m, ss, same, hr, ha, hm, hs⟩ := h
  obtain ⟨⟨after, rfl⟩, within, -⟩ := cut
  have not_opened {bs : List UInt8} (short : Opening.Short bs (f.shortfall j))
      (hb : body.events = bs.map .byte) :
      ∃ rest, Decoder.header body = (.error (f.shortfall j), rest) := by
    obtain ⟨rest, failed, -⟩ := short.starves.ended body hb
    exact ⟨rest, failed⟩
  match before with
  | [] =>
    simp only [List.nil_append, List.cons.injEq] at same
    obtain ⟨rfl, -⟩ := same
    exact not_opened (.reporter (hr.1.short_take within)) hb
  | [_] =>
    simp only [List.cons_append, List.nil_append, List.cons.injEq] at same
    obtain ⟨rfl, rfl, -⟩ := same
    simp only [List.flatMap_cons, List.flatMap_nil, List.append_nil] at hb
    exact not_opened (.auth hr.tells (ha.1.short_take within)) hb
  | [_, _] =>
    simp only [List.cons_append, List.nil_append, List.cons.injEq] at same
    obtain ⟨rfl, rfl, rfl, -⟩ := same
    simp only [List.flatMap_cons, List.flatMap_nil, List.append_nil, List.append_assoc] at hb
    exact not_opened (.metrics hr.tells ha.tells (hm.1.short_take within)) hb
  | first :: second :: third :: before =>
    simp only [List.cons_append, List.cons.injEq] at same
    obtain ⟨rfl, rfl, rfl, rfl⟩ := same
    have opens : body.events = (first.bytes ++ (second.bytes ++ third.bytes)).map .byte
        ++ (before.flatMap Frame.bytes ++ f.bytes.take j).map .byte := by
      rw [hb]
      simp only [List.flatMap_cons, List.map_append, List.append_assoc]
    have tells : Opening.Tells (first.bytes ++ (second.bytes ++ third.bytes)) (.ok (opening header)) :=
      .whole hr.tells ha.tells hm.tells
    obtain ⟨rest, hh, left⟩ := tells.answers body _ opens
    exact ⟨rest, hh, Decoder.spans_of_cut hs within left⟩

/-- **A stream that is cut short is not taken for a whole one.**  However it was written and wherever it is
cut, `j` bytes into one of its frames: within the opening it is not opened, and the shortfall of the frame
is told; behind it the spans whose frames are whole are read, and then, where the cut lies between two
frames, the end, and otherwise the shortfall. -/
theorem truncation_is_noticed (header : Report) (spans : List Span) (fits : StreamFits header spans) :
    StreamEncodes header spans (encodeStream header spans) ∧
      ∀ bs, StreamEncodes header spans bs →
        ∃ fs, StreamFrames header spans fs ∧ bs = fs.flatMap Frame.bytes ∧
          ∀ k < bs.length, ∃ before f j, Frame.Cut fs k before f j ∧
            ∀ chunks : List (List UInt8), chunks.flatten = bs.take k →
              if before.length < 3 then
                ∃ rest, Decoder.header (chunks.map .bytes) = (.error (f.shortfall j), rest)
              else ∃ rest, Decoder.header (chunks.map .bytes) = (.ok (opening header), rest) ∧
                Decoder.spans rest = (spans.take (before.length - 3),
                  if j = 0 then none else some (f.shortfall j)) := by
  refine ⟨streamEncodes_encodeStream header spans, fun bs encodes => ?_⟩
  obtain ⟨fs, frames, rfl⟩ := encodes.frames fits
  refine ⟨fs, frames, rfl, fun k short => ?_⟩
  obtain ⟨before, f, j, cut⟩ := Frame.exists_cut short
  refine ⟨before, f, j, cut, fun chunks taken => ?_⟩
  exact frames.cut cut (taken ▸ Body.events_map_bytes chunks)

/-- the stream of `pieces` up to the first byte of a payload of three -/
def cutPieces : List (List UInt8) := [[10], [0, 18, 3, 10, 1], [107, 50, 0], [], [26, 3, 18]]

theorem truncation_is_noticed_within_a_payload :
    StreamFits sparse twoSpans ∧ cutPieces.flatten = (encodeStream sparse twoSpans).take 12 ∧
      ∃ fs before f j rest, StreamFrames sparse twoSpans fs ∧ Frame.Cut fs 12 before f j ∧
        f.shortfall j = .truncated 3 1 ∧
        Decoder.header (cutPieces.map .bytes) = (.ok (opening sparse), rest) ∧
        Decoder.spans rest = ([], some (f.shortfall j)) := by
  have fits : StreamFits sparse twoSpans :=
    ⟨by decide +kernel, by decide +kernel, by decide +kernel, by decide +kernel⟩
  have taken : cutPieces.flatten = (encodeStream sparse twoSpans).take 12 := by decide +kernel
  have short : 12 < (encodeStream sparse twoSpans).length := by decide +kernel
  have opened : Decoder.header (cutPieces.map .bytes)
      = (.ok (opening sparse), [.bytes [], .bytes [], .bytes [26, 3, 18]]) := by decide +kernel
  have read : Decoder.spans [.bytes [], .bytes [], .bytes [26, 3, 18]]
      = ([], some (.truncated 3 1)) := by decide +kernel
  have noticed := truncation_is_noticed sparse twoSpans fits
  obtain ⟨fs, frames, -, every⟩ := noticed.2 _ noticed.1
  obtain ⟨before, f, j, cut, answers⟩ := every 12 short
  have answers := answers cutPieces taken
  rw [opened] at answers
  split at answers
  · obtain ⟨_, failed⟩ := answers
    cases failed
  · obtain ⟨_, same, spans⟩ := answers
    obtain rfl := (Prod.mk.inj same).2
    rw [read] at spans
    have told := (Prod.mk.inj spans).2
    split at told
    · cases told
    · have shortfall := (Option.some.inj told).symm
      exact ⟨fits, taken, fs, before, f, j, _, frames, cut, shortfall, opened, shortfall ▸ read⟩

end MockCollector
