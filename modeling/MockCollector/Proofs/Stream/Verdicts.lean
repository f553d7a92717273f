import MockCollector.Proofs.Stream.Embedding
/-!
# What bytes tell a step

A step goes by its first bytes, and here it is said of the bytes alone which they are.

* `Frame.Tells L field bs x`    `bs` is a frame of `field`, or as much as shows that it is none, and it tells `x`;
* `Frame.Short field bs e`      `bs` is only the beginning of a frame, and if it ends there, that is `e`;
* `Opening.Tells`, `Opening.Short`   the same of the frames that open a stream;
* `Step.Tells s used kept x`    the same of a step, which leaves the bytes `kept`;
* `Step.Short s bs x`           `bs` is too little for a step, which answers `x` if the body ends there;
* `Step.tells_or_short`         there are no other bytes;
* `Step.Tells.answers`, `Step.Short.failed`, `Step.Short.ended`   and the steps go by them.
-/

namespace MockCollector

open Wire Body Decoder

/-! ## one frame -/

namespace Frame

section
variable {M : Type}

inductive Tells (L : Layout M) (field : Nat) : List UInt8 → Except FrameError M → Prop where
  /-- whatever its payload is, and however long -/
  | whole {f : Frame} (spelt : f.Spelt field) : Tells L field f.bytes (carried L f.payload)
  | otherTag {found : Nat} {tag : List UInt8} (spells : Varint.Spells found tag)
    (other : found ≠ 8 * field + 2) :
    Tells L field tag (.error (.unexpectedTag field (8 * field + 2) found))
  | longTag {tag : List UInt8} (overlong : Varint.Overlong tag) :
    Tells L field tag (.error .malformedVarint)
  | longLength {tag length : List UInt8} (spells : Varint.Spells (8 * field + 2) tag)
    (overlong : Varint.Overlong length) : Tells L field (tag ++ length) (.error .malformedVarint)

inductive Short (field : Nat) : List UInt8 → FrameError → Prop where
  | tag {bs : List UInt8} (unfinished : Varint.Unfinished bs) : Short field bs .unexpectedEnd
  | length {tag bs : List UInt8} (spells : Varint.Spells (8 * field + 2) tag)
    (unfinished : Varint.Unfinished bs) : Short field (tag ++ bs) .unexpectedEnd
  | payload {n : Nat} {tag length bs : List UInt8} (spells : Varint.Spells (8 * field + 2) tag)
    (declared : Varint.Spells n length) (less : bs.length < n) :
    Short field (tag ++ (length ++ bs)) (.truncated n bs.length)

variable {L : Layout M} {field : Nat} {bs : List UInt8} {x : Except FrameError M} {e : FrameError}

theorem tells_or_short (L : Layout M) (field : Nat) (bs : List UInt8) :
    (∃ used kept x, bs = used ++ kept ∧ Tells L field used x) ∨ ∃ e, Short field bs e := by
  rcases Varint.spells_or_not bs with ⟨found, tag, rest, spells, rfl⟩ | ⟨ten, rest, overlong, rfl⟩ |
      unfinished
  · by_cases expected : found = 8 * field + 2
    · subst expected
      rcases Varint.spells_or_not rest with ⟨n, length, rest, declared, rfl⟩ |
          ⟨ten, rest, overlong, rfl⟩ | unfinished
      · by_cases less : rest.length < n
        · exact .inr ⟨_, .payload spells declared less⟩
        · have all : (rest.take n).length = n := List.length_take_of_le (Nat.le_of_not_lt less)
          have spelt : (⟨tag, length, rest.take n⟩ : Frame).Spelt field := ⟨spells, all.symm ▸ declared⟩
          refine .inl ⟨_, rest.drop n, _, ?_, .whole spelt⟩
          simp only [bytes, List.append_assoc, List.take_append_drop]
      · exact .inl ⟨_, rest, _, (List.append_assoc ..).symm, .longLength spells overlong⟩
      · exact .inr ⟨_, .length spells unfinished⟩
    · exact .inl ⟨tag, rest, _, rfl, .otherTag spells expected⟩
  · exact .inl ⟨ten, rest, _, rfl, .longTag overlong⟩
  · exact .inr ⟨_, .tag unfinished⟩

theorem Tells.answers (h : Tells L field bs x) : (embedded L field).Answers bs x := by
  cases h with
  | whole spelt => exact answers_embedded_of_spelt spelt
  | otherTag spells other => exact answers_other_tag spells.decode other
  | longTag overlong =>
    rw [embedded_eq]
    exact (answers_varint_of_overlong overlong).bind_error
  | longLength spells overlong =>
    rw [embedded_eq]
    refine (answers_varint spells.decode).bind ?_
    rw [behindTag_expected, payload_eq]
    exact (answers_varint_of_overlong overlong).bind_error

theorem Short.starves (h : Short field bs e) (L : Layout M) : (embedded L field).Starves bs e := by
  rw [embedded_eq]
  cases h with
  | tag unfinished => exact (starves_varint unfinished).bind
  | length spells unfinished =>
    refine (answers_varint spells.decode).bind_starves ?_
    rw [behindTag_expected, payload_eq]
    exact (starves_varint unfinished).bind
  | payload spells declared less =>
    refine (answers_varint spells.decode).bind_starves ?_
    rw [behindTag_expected, payload_eq]
    exact (answers_varint declared.decode).bind_starves (starves_exactly less).bind

theorem Tells.bytes_ne_nil (h : Tells L field bs x) : bs ≠ [] := by
  cases h with
  | whole spelt => exact spelt.bytes_ne_nil
  | otherTag spells _ => exact spells.chained.ne_nil
  | longTag overlong =>
    obtain ⟨-, -, -⟩ := overlong
    exact List.append_ne_nil_of_right_ne_nil _ (List.cons_ne_nil _ _)
  | longLength spells _ => exact List.append_ne_nil_of_left_ne_nil spells.chained.ne_nil _

/-- bytes are not to blame for the transport -/
theorem Tells.ne_io (h : Tells L field bs x) (f : IoError) : x ≠ .error (.io f) := by
  cases h with
  | whole _ =>
    rw [carried]
    split <;> rintro ⟨⟩
  | otherTag _ _ | longTag _ | longLength _ _ => rintro ⟨⟩

theorem Short.ne_io (h : Short field bs e) (f : IoError) : e ≠ .io f := by
  cases h <;> rintro ⟨⟩

end

end Frame

/-! ## the opening frames -/

namespace Opening

inductive Tells : List UInt8 → Except FrameError Report → Prop where
  | whole {a b c : List UInt8} {reporter : Reporter} {auth : Auth} {metrics : InternalMetrics}
    (first : Frame.Tells Reporter.layout 1 a (.ok reporter))
    (second : Frame.Tells Auth.layout 2 b (.ok auth))
    (third : Frame.Tells InternalMetrics.layout 6 c (.ok metrics)) :
    Tells (a ++ (b ++ c)) (.ok ⟨some reporter, some auth, [], 0, some metrics⟩)
  | notReporter {a : List UInt8} {e : FrameError}
    (first : Frame.Tells Reporter.layout 1 a (.error e)) : Tells a (.error e)
  | notAuth {a b : List UInt8} {reporter : Reporter} {e : FrameError}
    (first : Frame.Tells Reporter.layout 1 a (.ok reporter))
    (second : Frame.Tells Auth.layout 2 b (.error e)) : Tells (a ++ b) (.error e)
  | notMetrics {a b c : List UInt8} {reporter : Reporter} {auth : Auth} {e : FrameError}
    (first : Frame.Tells Reporter.layout 1 a (.ok reporter))
    (second : Frame.Tells Auth.layout 2 b (.ok auth))
    (third : Frame.Tells InternalMetrics.layout 6 c (.error e)) : Tells (a ++ (b ++ c)) (.error e)

inductive Short : List UInt8 → FrameError → Prop where
  | reporter {bs : List UInt8} {e : FrameError} (first : Frame.Short 1 bs e) : Short bs e
  | auth {a bs : List UInt8} {reporter : Reporter} {e : FrameError}
    (first : Frame.Tells Reporter.layout 1 a (.ok reporter)) (second : Frame.Short 2 bs e) :
    Short (a ++ bs) e
  | metrics {a b bs : List UInt8} {reporter : Reporter} {auth : Auth} {e : FrameError}
    (first : Frame.Tells Reporter.layout 1 a (.ok reporter))
    (second : Frame.Tells Auth.layout 2 b (.ok auth)) (third : Frame.Short 6 bs e) :
    Short (a ++ (b ++ bs)) e

variable {bs : List UInt8} {x : Except FrameError Report} {e : FrameError}

theorem tells_or_short (bs : List UInt8) :
    (∃ used kept x, bs = used ++ kept ∧ Tells used x) ∨ ∃ e, Short bs e := by
  rcases Frame.tells_or_short Reporter.layout 1 bs with ⟨a, bs, x, rfl, first⟩ | ⟨e, short⟩
  · cases x with
    | error e => exact .inl ⟨a, bs, _, rfl, .notReporter first⟩
    | ok reporter =>
      rcases Frame.tells_or_short Auth.layout 2 bs with ⟨b, bs, y, rfl, second⟩ | ⟨e, short⟩
      · cases y with
        | error e => exact .inl ⟨a ++ b, bs, _, (List.append_assoc ..).symm, .notAuth first second⟩
        | ok auth =>
          rcases Frame.tells_or_short InternalMetrics.layout 6 bs with ⟨c, bs, z, rfl, third⟩ | ⟨e, short⟩
          · have split : a ++ (b ++ (c ++ bs)) = a ++ (b ++ c) ++ bs := by
              simp only [List.append_assoc]
            cases z with
            | error e => exact .inl ⟨_, bs, _, split, .notMetrics first second third⟩
            | ok metrics => exact .inl ⟨_, bs, _, split, .whole first second third⟩
          · exact .inr ⟨e, .metrics first second short⟩
      · exact .inr ⟨e, .auth first short⟩
  · exact .inr ⟨e, .reporter short⟩

theorem Tells.answers (h : Tells bs x) : header.Answers bs x := by
  cases h with
  | whole first second third => exact answers_header first.answers second.answers third.answers
  | notReporter first =>
    rw [header_eq_bind]
    exact first.answers.bind_error
  | notAuth first second =>
    rw [header_eq_bind]
    exact first.answers.bind second.answers.bind_error
  | notMetrics first second third =>
    rw [header_eq_bind]
    exact first.answers.bind (second.answers.bind third.answers.bind_error)

theorem Short.starves (h : Short bs e) : header.Starves bs e := by
  rw [header_eq_bind]
  cases h with
  | reporter first => exact (first.starves _).bind
  | auth first second => exact first.answers.bind_starves (second.starves _).bind
  | metrics first second third =>
    exact first.answers.bind_starves (second.answers.bind_starves (third.starves _).bind)

theorem Tells.ne_io (h : Tells bs x) (f : IoError) : x ≠ .error (.io f) := by
  cases h with
  | whole _ _ _ => rintro ⟨⟩
  | notReporter first => exact fun io => first.ne_io f (congrArg _ (Except.error.inj io))
  | notAuth _ second => exact fun io => second.ne_io f (congrArg _ (Except.error.inj io))
  | notMetrics _ _ third => exact fun io => third.ne_io f (congrArg _ (Except.error.inj io))

theorem Short.ne_io (h : Short bs e) (f : IoError) : e ≠ .io f := by
  cases h with
  | reporter first => exact first.ne_io f
  | auth _ second => exact second.ne_io f
  | metrics _ _ third => exact third.ne_io f

end Opening

/-! ## steps -/

namespace Decoder.Step

inductive Tells : Step → (used kept : List UInt8) → Except FrameError Answer → Prop where
  | header {used kept : List UInt8} {x : Except FrameError Report} (frames : Opening.Tells used x) :
    Tells .header used kept (x.map .header)
  | span {used kept : List UInt8} {x : Except FrameError Span} (frame : Frame.Tells Span.layout 3 used x) :
    Tells .span used kept (x.map fun t => .span (some t))
  | message {t : MessageType} {field : Nat} {used kept : List UInt8} {x : Except FrameError t.Message}
    (frame : Frame.Tells t.layout field used x) : Tells (.message t field) used kept (x.map (.message t))
  /-- a byte is looked at and left -/
  | atEnd (b : UInt8) (kept : List UInt8) : Tells .atEnd [] (b :: kept) (.ok (.atEnd false))

inductive Short : Step → List UInt8 → Except FrameError Answer → Prop where
  | header {bs : List UInt8} {e : FrameError} (frames : Opening.Short bs e) : Short .header bs (.error e)
  | span {bs : List UInt8} {e : FrameError} (begun : bs ≠ []) (frame : Frame.Short 3 bs e) :
    Short .span bs (.error e)
  | noSpan : Short .span [] (.ok (.span none))
  | message {t : MessageType} {field : Nat} {bs : List UInt8} {e : FrameError}
    (frame : Frame.Short field bs e) : Short (.message t field) bs (.error e)
  | atEnd : Short .atEnd [] (.ok (.atEnd true))

/-- what a step says that has read `bs` and then meets the failure `f`: only within a frame is a transport
that reports the end taken at its word -/
def blame (s : Step) (bs : List UInt8) (f : IoError) : FrameError :=
  match s, bs with
  | .atEnd, _ => .io f
  | .span, [] => .io f
  | _, _ => if f.kind = .unexpectedEof then .unexpectedEnd else .io f

variable {s : Step} {used kept bs : List UInt8} {x : Except FrameError Answer}

theorem tells_or_short (s : Step) (bs : List UInt8) :
    (∃ used kept x, bs = used ++ kept ∧ s.Tells used kept x) ∨ ∃ x, s.Short bs x := by
  cases s with
  | header =>
    rcases Opening.tells_or_short bs with ⟨used, kept, x, rfl, frames⟩ | ⟨e, short⟩
    · exact .inl ⟨used, kept, _, rfl, .header frames⟩
    · exact .inr ⟨_, .header short⟩
  | message t field =>
    rcases Frame.tells_or_short t.layout field bs with ⟨used, kept, x, rfl, frame⟩ | ⟨e, short⟩
    · exact .inl ⟨used, kept, _, rfl, .message frame⟩
    · exact .inr ⟨_, .message short⟩
  | span =>
    by_cases begun : bs = []
    · subst begun
      exact .inr ⟨_, .noSpan⟩
    · rcases Frame.tells_or_short Span.layout 3 bs with ⟨used, kept, x, rfl, frame⟩ | ⟨e, short⟩
      · exact .inl ⟨used, kept, _, rfl, .span frame⟩
      · exact .inr ⟨_, .span begun short⟩
  | atEnd =>
    cases bs with
    | nil => exact .inr ⟨_, .atEnd⟩
    | cons b bs => exact .inl ⟨[], b :: bs, _, rfl, .atEnd b bs⟩

theorem Tells.answers (h : s.Tells used kept x) {body : Body} {es : List Event}
    (hb : events body = (used ++ kept).map .byte ++ es) :
    ∃ rest, s.take body = (x, rest) ∧ events rest = kept.map .byte ++ es := by
  rw [List.map_append, List.append_assoc] at hb
  cases h with
  | header frames => exact (frames.answers.map Answer.header) body _ hb
  | message frame => exact (frame.answers.map _) body _ hb
  | @span _ _ x frame =>
    have same : (x.map some).map Answer.span = x.map fun t => .span (some t) := by cases x <;> rfl
    rw [← same]
    exact ((answers_span? frame.bytes_ne_nil frame.answers).map Answer.span) body _ hb
  | atEnd b kept => exact ⟨body, by rw [take, map, atEnd_of_events_cons hb]; rfl, hb⟩

theorem Short.failed (h : s.Short bs x) {body : Body} {f : IoError} {es : List Event}
    (hb : events body = bs.map .byte ++ .failure f :: es) :
    ∃ rest, s.take body = (.error (s.blame bs f), rest) ∧ events rest = es := by
  cases h with
  | header frames => exact (frames.starves.map Answer.header).failed body f es hb
  | message frame => exact ((frame.starves _).map _).failed body f es hb
  | span begun frame =>
    have blames : Step.span.blame bs f = .ofIo f := by
      obtain ⟨b, bs, rfl⟩ := List.exists_cons_of_ne_nil begun
      rfl
    rw [blames]
    exact ((starves_span? begun (frame.starves _)).map Answer.span).failed body f es hb
  | noSpan =>
    obtain ⟨rest, hn, left⟩ := next_of_events_failure hb
    exact ⟨rest, by rw [take, map, span?, Decoder.atEnd, hn]; rfl, left⟩
  | atEnd =>
    obtain ⟨rest, hn, left⟩ := next_of_events_failure hb
    exact ⟨rest, by rw [take, map, Decoder.atEnd, hn]; rfl, left⟩

theorem Short.ended (h : s.Short bs x) {body : Body} (hb : events body = bs.map .byte) :
    ∃ rest, s.take body = (x, rest) ∧ events rest = [] := by
  cases h with
  | header frames => exact (frames.starves.map Answer.header).ended body hb
  | message frame => exact ((frame.starves _).map _).ended body hb
  | span begun frame => exact ((starves_span? begun (frame.starves _)).map Answer.span).ended body hb
  | noSpan => exact ⟨body, by rw [take, map, span?_of_events_nil hb]; rfl, hb⟩
  | atEnd => exact ⟨body, by rw [take, map, Decoder.atEnd, next_of_events_nil hb]; rfl, hb⟩

theorem ne_io_of_map {α : Type} {y : Except FrameError α} {g : α → Answer} {f : IoError}
    (h : y ≠ .error (.io f)) : y.map g ≠ .error (.io f) := by
  cases y with
  | error e => exact fun io => h (congrArg _ (Except.error.inj io))
  | ok a => rintro ⟨⟩

theorem Tells.ne_io (h : s.Tells used kept x) (f : IoError) : x ≠ .error (.io f) := by
  cases h with
  | header frames => exact ne_io_of_map (frames.ne_io f)
  | message frame => exact ne_io_of_map (frame.ne_io f)
  | span frame => exact ne_io_of_map (frame.ne_io f)
  | atEnd b kept => rintro ⟨⟩

theorem Short.ne_io (h : s.Short bs x) (f : IoError) : x ≠ .error (.io f) := by
  cases h with
  | header frames => exact fun io => frames.ne_io f (Except.error.inj io)
  | message frame => exact fun io => frame.ne_io f (Except.error.inj io)
  | span _ frame => exact fun io => frame.ne_io f (Except.error.inj io)
  | noSpan => rintro ⟨⟩
  | atEnd => rintro ⟨⟩

end Decoder.Step

end MockCollector
