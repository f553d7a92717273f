import Mathlib.Control.Monad.Basic
import MockCollector.Proofs.Message.Exactness
import MockCollector.Proofs.Stream.Grammar
/-!
# A stream as one message

A stream is laid out as a report is written, so it can also be decoded all at once.  Its payloads are
then one level further down than a decoder of streams finds them.

* `Values.Passes low high fs depth vs bs ws`   reading goes past `bs`, or it lacks the levels to do so;
* `Layout.Carries L field m low high bs`       read within another message, `bs` is `field` with `m`;
* `carries_frame`, `carries_record`            so it is for a frame, and with room to spare for what was
                                               encoded;
* `passes_stream`                              the opening frames and the spans, one after the other;
* `stream_decoded_whole`                       a stream that can be read frame by frame is decoded as
                                               the report of all its parts.
-/

namespace MockCollector

namespace Wire

/-! ## past some bytes -/

section
variable {fs : List Field} {low high depth : Nat} {us vs ws : Values fs} {bs cs : List UInt8}

/-- whatever comes out behind `bs`, when reading starts there with `ws`, also comes out in front of it -/
def Values.Passes (fs : List Field) (low high depth : Nat) (vs : Values fs) (bs : List UInt8)
    (ws : Values fs) : Prop :=
  ∀ rest a, Agrees low high (readRecords fs depth 0 ws rest) a →
    Agrees low high (readRecords fs depth 0 vs (bs ++ rest)) a

theorem Values.Passes.nil (vs : Values fs) : Values.Passes fs low high depth vs [] vs :=
  fun _ _ h => h

theorem Values.Passes.append (first : Values.Passes fs low high depth us bs vs)
    (second : Values.Passes fs low high depth vs cs ws) :
    Values.Passes fs low high depth us (bs ++ cs) ws := by
  intro rest a h
  rw [List.append_assoc]
  exact first _ a (second rest a h)

theorem Values.Passes.end (h : Values.Passes fs low high depth vs bs ws) :
    Agrees low high (readRecords fs depth 0 vs bs) (ws, []) := by
  have read := h [] (ws, []) (Or.inl (readRecords_done (Nat.le_refl 0)))
  rwa [List.append_nil] at read

end

/-! ## frames within a message -/

section
variable {M : Type} {L : Layout M} {field low high height : Nat} {m : M}

/-- read where `low + 1` levels are left, `bs` is a record of `field`, and `m` is read from it unless
the levels do not suffice -/
def Layout.Carries (L : Layout M) (field : Nat) (low high : Nat) (m : M) (bs : List UInt8) : Prop :=
  ∀ rest, ∃ body, Key.decode (bs ++ rest) = .ok (⟨field, .lengthDelimited⟩, body) ∧
    Agrees low high (L.readInto (low + 1) L.empty body) (m, rest)

theorem Field.agrees_optional {place : Option Place} {body rest : List UInt8}
    (h : Agrees low high (L.readInto (low + 1) L.empty body) (m, rest)) :
    Agrees low high ((Field.optional place field L).read (low + 1) ⟨field, .lengthDelimited⟩ none body)
      (some m, rest) := by
  show Agrees low high (mapRead some (Field.readMessage L _ _ L.empty body)) (some m, rest)
  rw [Field.readMessage, if_neg (fun other => other rfl)]
  exact h.mapRead some

theorem Field.agrees_repeated {place : Option Place} {body rest : List UInt8} (ms : List M)
    (h : Agrees low high (L.readInto (low + 1) L.empty body) (m, rest)) :
    Agrees low high ((Field.repeated place field L).read (low + 1) ⟨field, .lengthDelimited⟩ ms body)
      (ms ++ [m], rest) := by
  show Agrees low high (mapRead (fun m => ms ++ [m]) (Field.readMessage L _ _ L.empty body)) _
  rw [Field.readMessage, if_neg (fun other => other rfl)]
  exact h.mapRead fun m => ms ++ [m]

theorem Layout.Carries.passes {fs : List Field} {vs ws : Values fs} {bs : List UInt8}
    (h : L.Carries field low high m bs)
    (into : ∀ body rest, Agrees low high (L.readInto (low + 1) L.empty body) (m, rest) →
      ∃ r, Values.read? fs (low + 1) ⟨field, .lengthDelimited⟩ vs body = some r ∧
        Agrees low high r (ws, rest)) :
    Values.Passes fs low high (low + 1) vs bs ws := by
  intro rest a later
  obtain ⟨body, key, agrees⟩ := h rest
  obtain ⟨r, read, taken⟩ := into body rest agrees
  have longer : 0 < (bs ++ rest).length := Nat.lt_of_le_of_lt (Nat.zero_le _) (Key.decode_length key)
  have record : readRecord fs (low + 1) ⟨field, .lengthDelimited⟩ vs body = r := by
    rw [readRecord, read]
  -- a record that nests too deep ends the reading, whatever comes behind it
  rcases taken with rfl | ⟨less, e, rfl, deep⟩
  · rw [readRecords_step longer key record]
    exact later
  · rw [readRecords_error longer key record]
    exact Or.inr ⟨less, e, rfl, deep⟩

theorem carries_record (hL : L.Sound height) (deep : height ≤ low) (fits : Key.Fits field) {r : Record}
    (hr : L.Embeds field m r) (small : (L.encode m).length < UInt64.size) :
    L.Carries field low high m r.bytes := by
  obtain ⟨bs, hm, rfl⟩ := hr
  have short : bs.length < UInt64.size := hL.length_encodes hm (L.encodes_encode m) ▸ small
  intro rest
  refine ⟨delimited bs ++ rest, ?_, Or.inl ?_⟩
  · rw [Record.bytes, List.append_assoc]
    exact Key.decode_encode fits _
  · rw [hL.readInto deep hm short, hL.merge_empty]

end

end Wire

open Wire

section
variable {M : Type} {L : Layout M} {field : Nat} {m : M} {bs : List UInt8}

theorem carries_frame {maps : List Nat} (hL : L.Exact maps) (fits : Key.Fits field)
    (h : IsFrame L field m bs) (low : Nat) : L.Carries field low Layout.maxDepth m bs := by
  obtain ⟨tag, length, payload, ht, hl, hm, rfl⟩ := h
  intro rest
  refine ⟨length ++ payload ++ rest, ?_, hL.readInto_of_decode hl hm low rest⟩
  rw [List.append_assoc]
  exact Key.decode_of_spells (k := ⟨field, .lengthDelimited⟩) fits ht _

end

/-! ## the frames of a stream -/

section
variable {low high : Nat} {bs : List UInt8} {reporter : Option Reporter} {auth : Option Auth}
  {spans : List Span} {offset : Int64} {metrics : Option InternalMetrics}

theorem passes_reporter {m : Reporter}
    (h : Reporter.layout.Carries Report.reporterField low high m bs) :
    Values.Passes Report.layout.fields low high (low + 1) (none, auth, spans, offset, metrics, ()) bs
      (some m, auth, spans, offset, metrics, ()) :=
  h.passes fun _ _ read => Values.agrees_head (by decide) (Field.agrees_optional read)

theorem passes_auth {m : Auth} (h : Auth.layout.Carries Report.authField low high m bs) :
    Values.Passes Report.layout.fields low high (low + 1)
      (reporter, none, spans, offset, metrics, ()) bs (reporter, some m, spans, offset, metrics, ()) :=
  h.passes fun _ _ read =>
    Values.agrees_tail (by decide) (Values.agrees_head (by decide) (Field.agrees_optional read))

theorem passes_metrics {m : InternalMetrics}
    (h : InternalMetrics.layout.Carries Report.internalMetricsField low high m bs) :
    Values.Passes Report.layout.fields low high (low + 1) (reporter, auth, spans, offset, none, ()) bs
      (reporter, auth, spans, offset, some m, ()) :=
  h.passes fun _ _ read =>
    Values.agrees_tail (by decide) (Values.agrees_tail (by decide) (Values.agrees_tail (by decide)
      (Values.agrees_tail (by decide) (Values.agrees_head (by decide) (Field.agrees_optional read)))))

theorem passes_span {m : Span} (h : Span.layout.Carries Report.spansField low high m bs) :
    Values.Passes Report.layout.fields low high (low + 1) (reporter, auth, spans, offset, metrics, ())
      bs (reporter, auth, spans ++ [m], offset, metrics, ()) :=
  h.passes fun _ _ read =>
    Values.agrees_tail (by decide) (Values.agrees_tail (by decide)
      (Values.agrees_head (by decide) (Field.agrees_repeated spans read)))

theorem passes_spans {more : List Span}
    (h : Frames (Span.layout.Carries Report.spansField low high) more bs) :
    Values.Passes Report.layout.fields low high (low + 1) (reporter, auth, spans, offset, metrics, ())
      bs (reporter, auth, spans ++ more, offset, metrics, ()) := by
  induction h generalizing spans with
  | nil =>
    rw [List.append_nil]
    exact .nil _
  | @cons m ms bs cs first _ ih =>
    have later := @ih (spans ++ [m])
    rw [List.append_assoc] at later
    exact (passes_span first).append later

theorem passes_stream {m₁ : Reporter} {m₂ : Auth} {m₃ : InternalMetrics} {r a m ss : List UInt8}
    (hr : Reporter.layout.Carries Report.reporterField low high m₁ r)
    (ha : Auth.layout.Carries Report.authField low high m₂ a)
    (hm : InternalMetrics.layout.Carries Report.internalMetricsField low high m₃ m)
    (hs : Frames (Span.layout.Carries Report.spansField low high) spans ss) :
    Values.Passes Report.layout.fields low high (low + 1) (Values.empty _) (r ++ (a ++ (m ++ ss)))
      (Report.layout.split ⟨some m₁, some m₂, spans, 0, some m₃⟩) :=
  (passes_reporter hr).append ((passes_auth ha).append ((passes_metrics hm).append (passes_spans hs)))

end

/-! ## streams -/

theorem frames_of_embedsAll {spans : List Span} {ss : List Record} {low high : Nat} (deep : 3 ≤ low)
    (hs : Span.layout.EmbedsAll Report.spansField spans ss)
    (small : ∀ s ∈ spans, (Span.layout.encode s).length < UInt64.size) :
    Frames (Span.layout.Carries Report.spansField low high) spans (ss.flatMap Record.bytes) := by
  induction spans generalizing ss with
  | nil =>
    obtain rfl : ss = [] := hs
    exact .nil
  | cons s spans ih =>
    obtain ⟨r, ss, hr, hss, rfl⟩ := hs
    exact .cons (carries_record Span.sound_layout deep (by decide) hr (small s List.mem_cons_self))
      (ih hss fun t ht => small t (List.mem_cons_of_mem s ht))

/-- with `low` levels left for the payloads of a stream, its parts are read off it unless they nest
too deep -/
theorem agrees_of_stream {header : Report} {spans : List Span} {bs : List UInt8}
    (h : IsStream header spans bs) (low : Nat) :
    Agrees low Layout.maxDepth (readRecords Report.layout.fields (low + 1) 0 (Values.empty _) bs)
      (Report.layout.split { header with spans := spans }, []) := by
  obtain ⟨_, _, _, r, a, m, ss, hr, ha, hm, frames, rfl, rfl⟩ := h
  exact (passes_stream (carries_frame Reporter.exact_layout (by decide) hr low)
    (carries_frame Auth.exact_layout (by decide) ha low)
    (carries_frame InternalMetrics.exact_layout (by decide) hm low)
    (frames.mono fun _ _ hs => carries_frame Span.exact_layout (by decide) hs low)).end

theorem decode_of_agrees {M : Type} {L : Layout M} {low high : Nat} {m : M} {bs : List UInt8}
    (h : Agrees low high (readRecords L.fields Layout.maxDepth 0 (Values.empty _) bs)
      (L.split m, [])) : Agrees low high (L.decode bs) m := by
  rw [Layout.decode]
  rcases h with same | ⟨less, e, failed, deep⟩
  · rw [same]
    exact Or.inl (congrArg Except.ok (L.join_split m))
  · rw [failed]
    exact Or.inr ⟨less, e, rfl, deep⟩

/-- **A stream is laid out as the report of its parts is.**  Whatever can be read as a stream is also
decoded all at once, to the parts of the header, every span and no offset, or its payloads nest too deep
to be one level further down; with one level more they never do.  What was encoded never does. -/
theorem stream_decoded_whole :
    (∀ (chunks : List (List UInt8)) (header : Report) (spans : List Span),
      Decoder.Completes (chunks.map .bytes) header spans →
        ((∃ e, Report.layout.decode chunks.flatten = .error e ∧ e.fault = .nestedTooDeep ∧
            e.fault.message = "recursion limit reached") ∨
          Report.layout.decode chunks.flatten
            = .ok ⟨header.reporter, header.auth, spans, 0, header.internalMetrics⟩) ∧
        readRecords Report.layout.fields (Layout.maxDepth + 1) 0 (Values.empty _) chunks.flatten
          = .ok (Report.layout.split ⟨header.reporter, header.auth, spans, 0, header.internalMetrics⟩,
            [])) ∧
    ∀ (header : Report) (spans : List Span), StreamFits header spans →
      ∀ bs, StreamEncodes header spans bs →
        Report.layout.decode bs = .ok { opening header with spans := spans } := by
  constructor
  · intro chunks header spans complete
    have stream := isStream_of_completes complete
    have parts : { header with spans := spans }
        = (⟨header.reporter, header.auth, spans, 0, header.internalMetrics⟩ : Report) := by
      obtain ⟨_, _, _, _, _, _, _, -, -, -, -, -, rfl⟩ := stream
      rfl
    have whole := decode_of_agrees (agrees_of_stream stream (Layout.maxDepth - 1))
    have further := (agrees_of_stream stream Layout.maxDepth).of_same
    rw [parts] at whole further
    refine ⟨?_, further⟩
    rcases whole with same | ⟨-, e, failed, deep⟩
    · exact Or.inr same
    · exact Or.inl ⟨e, failed, deep, deep ▸ rfl⟩
  · rintro header spans fits _ ⟨r, a, m, ss, hr, ha, hm, hs, rfl⟩
    have enough : 3 ≤ Layout.maxDepth - 1 := by decide
    have whole : Agrees (Layout.maxDepth - 1) (Layout.maxDepth - 1)
        (Report.layout.decode (r.bytes ++ (a.bytes ++ (m.bytes ++ ss.flatMap Record.bytes))))
        { opening header with spans := spans } :=
      decode_of_agrees (passes_stream
        (carries_record Reporter.sound_layout (by decide) (by decide) hr fits.reporter)
        (carries_record Auth.sound_layout (by decide) (by decide) ha fits.auth)
        (carries_record InternalMetrics.sound_layout (by decide) (by decide) hm fits.metrics)
        (frames_of_embedsAll enough hs fits.spans)).end
    rw [← List.append_assoc a.bytes, ← List.append_assoc r.bytes] at whole
    exact whole.of_same

/-- a stream with numbers that are longer than they need be, and with a group that no reporter has -/
def longWinded : List (List UInt8) :=
  [[138, 0, 134, 128], [0, 8, 7, 75, 8, 1, 76, 18, 0], [50, 0, 154, 128, 0, 128, 0, 26],
    [3, 18, 1, 97]]

def longWindedReport : Report :=
  ⟨some ⟨7, []⟩, some Auth.layout.empty, twoSpans.reverse, 0, some InternalMetrics.layout.empty⟩

theorem stream_decoded_whole_long_winded :
    Decoder.Completes (longWinded.map .bytes) { longWindedReport with spans := [] } twoSpans.reverse ∧
      Report.layout.decode longWinded.flatten = .ok longWindedReport ∧
      StreamFits sparse twoSpans ∧
      Report.layout.decode (encodeStream sparse twoSpans)
        = .ok { opening sparse with spans := twoSpans } := by
  have complete : Decoder.Completes (longWinded.map .bytes) { longWindedReport with spans := [] }
      twoSpans.reverse :=
    ⟨[.bytes [154, 128, 0, 128, 0, 26], .bytes [3, 18, 1, 97]], by decide +kernel, by decide +kernel⟩
  have fits : StreamFits sparse twoSpans :=
    ⟨by decide +kernel, by decide +kernel, by decide +kernel, by decide +kernel⟩
  have within : (Report.layout.decode longWinded.flatten).isOk = true := by decide +kernel
  refine ⟨complete, ?_, fits, ?_⟩
  · rcases (stream_decoded_whole.1 longWinded _ _ complete).1 with ⟨e, failed, -⟩ | same
    · rw [failed] at within
      cases within
    · exact same
  · exact stream_decoded_whole.2 sparse twoSpans fits _ (streamEncodes_encodeStream _ _)

/-- a reporter whose groups go down as far as they may -/
def bottomless : List (List UInt8) :=
  [[10, 200, 1], List.replicate 100 19 ++ List.replicate 100 20, [18, 0, 50, 0]]

example : (Decoder.header (bottomless.map .bytes)).1.isOk ∧
    Report.layout.decode bottomless.flatten
      = .error ⟨.nestedTooDeep, [⟨"ReportRequest", "reporter"⟩]⟩ := by
  decide +kernel

end MockCollector
