import MockCollector.Proofs.Stream.Verdicts
/-!
# Failures of the transport

A failure is met by the one step that has to read past the bytes in front of it.

* `Decoder.Step.Meets s es t left`   of the events `es` a step tells `t` and leaves `left`: what the bytes in
                            front tell it, or else the failure or the end that is behind them;
* `Decoder.Step.exists_meets`   one of these is so, whatever the events;
* `Decoder.Step.Meets.take`     and that is what the step does;
* `Decoder.Reads ss es ts left`   steps in a row, each of which takes up where the one before it stopped;
* `Decoder.Reads.steps`     and that is what they do;
* `Decoder.failures_surface_once`   so every failure is met once, and by nobody whose bytes are all in front of it.
-/

namespace MockCollector

open Wire

/-! ## events -/

namespace Body

def failures (es : List Event) : List IoError :=
  es.filterMap fun
    | .byte _ => none
    | .failure f => some f

theorem failures_append (a b : List Event) : failures (a ++ b) = failures a ++ failures b :=
  List.filterMap_append

theorem failures_bytes (bs : List UInt8) : failures (bs.map .byte) = [] := by
  rw [failures, List.filterMap_map, List.filterMap_eq_nil_iff]
  exact fun _ _ => rfl

/-- bytes come first, and behind them the end or a failure -/
theorem bytes_of_events (es : List Event) : ∃ (bs : List UInt8) (behind : List Event),
    es = bs.map .byte ++ behind ∧ (behind = [] ∨ ∃ f rest, behind = .failure f :: rest) := by
  induction es with
  | nil => exact ⟨[], [], rfl, .inl rfl⟩
  | cons e es ih =>
    cases e with
    | failure f => exact ⟨[], _, rfl, .inr ⟨f, es, rfl⟩⟩
    | byte b =>
      obtain ⟨bs, behind, rfl, next⟩ := ih
      exact ⟨b :: bs, behind, rfl, next⟩

end Body

namespace Decoder

open Body

/-! ## one step -/

/-- what a step answers, what it takes off, and the failure that it met -/
structure Told where
  answer : Except FrameError Answer
  took : List Event
  met : Option IoError

namespace Step

inductive Meets (s : Step) : List Event → Told → List Event → Prop where
  | settled {used kept : List UInt8} {x : Except FrameError Answer} (es : List Event)
    (tells : s.Tells used kept x) :
    Meets s ((used ++ kept).map .byte ++ es) ⟨x, used.map .byte, none⟩ (kept.map .byte ++ es)
  | failed {bs : List UInt8} {x : Except FrameError Answer} {f : IoError} (es : List Event)
    (short : s.Short bs x) : Meets s (bs.map .byte ++ .failure f :: es)
      ⟨.error (s.blame bs f), bs.map .byte ++ [.failure f], some f⟩ es
  | ended {bs : List UInt8} {x : Except FrameError Answer} (short : s.Short bs x) :
    Meets s (bs.map .byte) ⟨x, bs.map .byte, none⟩ []

theorem exists_meets (s : Step) (es : List Event) : ∃ t left, s.Meets es t left := by
  obtain ⟨bs, behind, rfl, next⟩ := bytes_of_events es
  rcases s.tells_or_short bs with ⟨used, kept, x, rfl, tells⟩ | ⟨x, short⟩
  · exact ⟨_, _, .settled behind tells⟩
  · rcases next with rfl | ⟨f, es, rfl⟩
    · rw [List.append_nil]
      exact ⟨_, _, .ended short⟩
    · exact ⟨_, _, .failed es short⟩

theorem blame_eq_io {s : Step} {bs : List UInt8} {f g : IoError} (h : s.blame bs f = .io g) : f = g := by
  unfold blame at h
  split at h
  · exact FrameError.io.inj h
  · exact FrameError.io.inj h
  · split at h
    · cases h
    · exact FrameError.io.inj h

namespace Meets

variable {s : Step} {es left : List Event} {t : Told}

theorem take {body : Body} (h : s.Meets (events body) t left) :
    ∃ rest, s.take body = (t.answer, rest) ∧ events rest = left := by
  generalize comes : events body = es at h
  cases h with
  | settled es tells => exact tells.answers comes
  | failed es short => exact short.failed comes
  | ended short => exact short.ended comes

/-- nothing is taken but what comes first -/
theorem eq_took_append (h : s.Meets es t left) : es = t.took ++ left := by
  cases h with
  | settled es _ => rw [List.map_append, List.append_assoc]
  | failed left _ => exact List.append_cons ..
  | ended _ => exact (List.append_nil _).symm

/-- a failure that was taken off was met -/
theorem failures_took (h : s.Meets es t left) : failures t.took = t.met.toList := by
  cases h with
  | settled _ _ => exact failures_bytes _
  | failed _ _ => rw [failures_append, failures_bytes]; rfl
  | ended _ => exact failures_bytes _

theorem met_of_io {f : IoError} (h : s.Meets es t left) (io : t.answer = .error (.io f)) :
    t.met = some f := by
  cases h with
  | settled _ tells => exact absurd io (tells.ne_io f)
  | failed _ _ => exact congrArg some (blame_eq_io (Except.error.inj io))
  | ended short => exact absurd io (short.ne_io f)

end Meets

end Step

/-! ## steps in a row -/

inductive Reads : List Step → List Event → List Told → List Event → Prop where
  | done (es : List Event) : Reads [] es [] es
  | step {s : Step} {ss : List Step} {es mid left : List Event} {t : Told} {ts : List Told}
    (first : s.Meets es t mid) (later : Reads ss mid ts left) : Reads (s :: ss) es (t :: ts) left

theorem exists_reads (ss : List Step) (es : List Event) : ∃ ts left, Reads ss es ts left := by
  induction ss generalizing es with
  | nil => exact ⟨[], es, .done es⟩
  | cons s ss ih =>
    obtain ⟨t, mid, first⟩ := s.exists_meets es
    obtain ⟨ts, left, later⟩ := ih mid
    exact ⟨t :: ts, left, .step first later⟩

namespace Reads

variable {ss : List Step} {es left : List Event} {ts : List Told}

theorem steps {body : Body} (h : Reads ss (events body) ts left) :
    (steps ss body).1 = ts.map Told.answer ∧ events (Decoder.steps ss body).2 = left := by
  generalize comes : events body = es at h
  induction h generalizing body with
  | done es => exact ⟨rfl, comes⟩
  | step first _ ih =>
    obtain ⟨rest, took, mid⟩ := (comes ▸ first).take
    obtain ⟨answers, left⟩ := ih mid
    rw [Decoder.steps, took]
    exact ⟨congrArg _ answers, left⟩

theorem eq_took_append (h : Reads ss es ts left) : es = ts.flatMap Told.took ++ left := by
  induction h with
  | done es => rfl
  | step first _ ih => rw [first.eq_took_append, ih, List.flatMap_cons, List.append_assoc]

theorem failures_eq (h : Reads ss es ts left) :
    failures es = ts.filterMap Told.met ++ failures left := by
  induction h with
  | done es => rfl
  | @step s ss es mid left t ts first _ ih =>
    rw [first.eq_took_append, failures_append, first.failures_took, ih, List.filterMap_cons]
    cases t.met <;> rfl

theorem met_of_mem (h : Reads ss es ts left) : ∀ t ∈ ts, failures t.took = t.met.toList ∧
    ∀ f, t.answer = .error (.io f) → t.met = some f := by
  induction h with
  | done es => exact List.forall_mem_nil _
  | step first _ ih =>
    exact List.forall_mem_cons.mpr ⟨⟨first.failures_took, fun f => first.met_of_io⟩, ih⟩

end Reads

/-- **A failure of the transport surfaces once, and costs only the step that meets it.**  Whatever steps are
taken on whatever body, there is one account of them, by the bytes and failures alone: a step answers what the
bytes at hand tell it, and takes off those and no more; where they are too few, it fails with the failure
behind them, or says what it says of the end, and the next step takes up right behind that.  So nothing is
skipped and nothing is read twice; the failures of a body are those that steps met, in order and once each, and
those that are left; and no step speaks of a failure that it did not meet.

What the bytes in front of a failure tell, they tell without it as well; and a frame in front of it, spelt in
any way and with any payload or none, tells what its payload is. -/
theorem failures_surface_once (ss : List Step) (body : Body) :
    (∃ ts left, Reads ss (events body) ts left) ∧
    (∀ ts left, Reads ss (events body) ts left →
      (steps ss body).1 = ts.map Told.answer ∧ events (steps ss body).2 = left ∧
      events body = ts.flatMap Told.took ++ left ∧
      failures (events body) = ts.filterMap Told.met ++ failures left ∧
      ∀ t ∈ ts, failures t.took = t.met.toList ∧ ∀ f, t.answer = .error (.io f) → t.met = some f) ∧
    (∀ (s : Step) (used kept : List UInt8) (x : Except FrameError Answer), s.Tells used kept x →
      ∀ (f : IoError) (es : List Event) (failing sound : Body),
        events failing = (used ++ kept).map .byte ++ .failure f :: es →
        events sound = (used ++ kept).map .byte ++ es →
        ∃ restF restS, s.take failing = (x, restF) ∧ events restF = kept.map .byte ++ .failure f :: es ∧
          s.take sound = (x, restS) ∧ events restS = kept.map .byte ++ es) ∧
    ∀ (frame : Frame) (kept : List UInt8) (f : IoError) (es : List Event) (failing : Body),
      events failing = (frame.bytes ++ kept).map .byte ++ .failure f :: es →
      (frame.Spelt 3 → ∃ rest, span? failing = (spanIn frame.payload, rest) ∧
        events rest = kept.map .byte ++ .failure f :: es) ∧
      ∀ (t : MessageType) (field : Nat), frame.Spelt field → ∃ rest,
        embedded t.layout field failing = (carried t.layout frame.payload, rest) ∧
        events rest = kept.map .byte ++ .failure f :: es := by
  refine ⟨exists_reads ss _, ?_, ?_, ?_⟩
  · intro ts left reads
    obtain ⟨answers, rest⟩ := reads.steps
    exact ⟨answers, rest, reads.eq_took_append, reads.failures_eq, reads.met_of_mem⟩
  · intro s used kept x tells f es failing sound hf hs
    obtain ⟨restF, tookF, leftF⟩ := tells.answers hf
    obtain ⟨restS, tookS, leftS⟩ := tells.answers hs
    exact ⟨restF, restS, tookF, leftF, tookS, leftS⟩
  · intro frame kept f es failing hf
    rw [List.map_append, List.append_assoc] at hf
    refine ⟨fun spelt => answers_span?_of_spelt spelt failing _ hf, fun t field spelt => ?_⟩
    exact answers_embedded_of_spelt spelt failing _ hf

def gone : IoError := ⟨.unexpectedEof, "gone"⟩

/-- a failure within a frame, one between two, and an end within one -/
def troubled : Body :=
  [.bytes [26], .failure lost, .bytes [], .bytes [26, 0], .failure gone, .bytes [18], .bytes [1]]

/-- the span of an empty payload -/
def noSpanAtAll : Frame := ⟨[26], [0], []⟩

theorem failures_surface_once_behind_an_empty_payload :
    (∃ ts, Reads [.span, .span, .atEnd, .message .auth 2] (events troubled) ts [] ∧
      ts.filterMap Told.met = [lost, gone]) ∧
    (steps [.span, .span, .atEnd, .message .auth 2] troubled).1
      = [.error (.io lost), .ok (.span twoSpans[1]?), .error (.io gone), .error (.truncated 1 0)] ∧
    noSpanAtAll.Spelt 3 ∧
    (∃ rest, span? [.bytes [26, 0], .failure gone] = (.ok twoSpans[1]?, rest) ∧
      events rest = [.failure gone]) ∧
    ∃ rest, Step.span.take [.bytes [26], .bytes [0]] = (.ok (.span twoSpans[1]?), rest) ∧
      events rest = [] := by
  have tag : Varint.Spells (8 * 3 + 2) [26] := Varint.spells_of_decode (by decide)
  have empty : noSpanAtAll.Spelt 3 := ⟨tag, Varint.spells_of_decode (by decide)⟩
  have told : carried Span.layout noSpanAtAll.payload = .ok Span.layout.empty := by decide +kernel
  have frame : Frame.Tells Span.layout 3 [26, 0] (.ok Span.layout.empty) := told ▸ .whole empty
  have tells : Step.Tells .span [26, 0] [] (.ok (.span twoSpans[1]?)) := .span frame
  have begun : Frame.Short 3 ([26] ++ []) .unexpectedEnd :=
    .length tag ⟨List.forall_mem_nil _, by decide⟩
  have auth : Varint.Spells (8 * 2 + 2) [18] := Varint.spells_of_decode (by decide)
  have one : Varint.Spells 1 [1] := Varint.spells_of_decode (by decide)
  have cut : Frame.Short 2 [18, 1] (.truncated 1 0) := .payload auth one (by decide : [].length < 1)
  have reads : Reads [.span, .span, .atEnd, .message .auth 2] (events troubled) _ [] :=
    .step (.failed _ (.span (by decide) begun))
      (.step (.settled _ tells) (.step (.failed _ .atEnd) (.step (.ended (.message cut)) (.done []))))
  obtain ⟨-, account, same, whole⟩ :=
    failures_surface_once [.span, .span, .atEnd, .message .auth 2] troubled
  obtain ⟨answers, -, -, -, -⟩ := account _ _ reads
  obtain ⟨rest, took, left⟩ := (whole noSpanAtAll [] gone [] [.bytes [26, 0], .failure gone] rfl).1 empty
  obtain ⟨-, restS, -, -, tookS, leftS⟩ :=
    same .span [26, 0] [] _ tells gone [] [.bytes [26, 0], .failure gone] [.bytes [26], .bytes [0]] rfl rfl
  have spanIn_eq : spanIn noSpanAtAll.payload = .ok twoSpans[1]? := by decide +kernel
  exact ⟨⟨_, reads, rfl⟩, answers, empty, ⟨rest, spanIn_eq ▸ took, left⟩, ⟨restS, tookS, leftS⟩⟩

end Decoder

end MockCollector
