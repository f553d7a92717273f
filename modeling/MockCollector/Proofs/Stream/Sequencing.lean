import MockCollector.Proofs.Stream.Chunking
import MockCollector.Proofs.Stream.Grammar
/-!
# Decoders put together

The steps of a decoder are put together from few parts, and what is known of the parts is known of them.

* `Decoder.bind d k`        `d`, and then, unless it fails, what `k` makes of its answer;
* `Decoder.give x`, `Decoder.exactly n`   an answer that needs no byte, and exactly `n` bytes;
* `payload_eq`, `embedded_eq`, `header_eq_bind`   the steps, so put together;
* `Decoder.Starves d bs e`  `bs` is too little for `d`: where the body ends behind it, that is the error
                          `e`, and where the transport fails there, `d` fails with it.
-/

namespace MockCollector

open Wire

namespace Decoder

open Body

/-! ## parts -/

section
variable {α β : Type}

def bind (d : Decoder α) (k : α → Decoder β) : Decoder β := fun body =>
  match d body with
  | (.error e, rest) => (.error e, rest)
  | (.ok a, rest) => k a rest

def give (x : Except FrameError α) : Decoder α := fun body => (x, body)

def exactly (n : Nat) : Decoder (List UInt8) := fun body =>
  match body.read n with
  | (.error e, rest) => (.error (.ofIo e), rest)
  | (.ok bs, rest) => if bs.length ≠ n then (.error (.truncated n bs.length), rest) else (.ok bs, rest)

/-- what a payload tells -/
def carried {M : Type} (L : Layout M) (payload : List UInt8) : Except FrameError M :=
  match L.decode payload with
  | .error e => .error (.decode e)
  | .ok m => .ok m

end

section
variable {M : Type} (L : Layout M) (field : Nat)

theorem payload_eq :
    payload L = varint.bind fun n => (exactly n).bind fun bs => give (carried L bs) := by
  funext body
  rw [payload, bind]
  rcases varint body with ⟨e | n, mid⟩
  · rfl
  · simp only [bind, exactly]
    rcases mid.read n with ⟨e | bs, rest⟩
    · rfl
    · simp only
      by_cases other : bs.length ≠ n
      · rw [if_pos other, if_pos other]
      · rw [if_neg other, if_neg other]
        simp only [give, carried]
        cases L.decode bs <;> rfl

/-- behind the tag that was expected comes a payload -/
def behindTag (found : Nat) : Decoder M :=
  if found = fieldTag field then payload L
  else give (.error (.unexpectedTag field (fieldTag field) found))

theorem behindTag_expected : behindTag L field (8 * field + 2) = payload L := if_pos rfl

theorem embedded_eq : embedded L field = varint.bind (behindTag L field) := by
  funext body
  rw [embedded, bind]
  rcases varint body with ⟨e | found, mid⟩
  · rfl
  · simp only [behindTag]
    by_cases expected : found = fieldTag field
    · rw [if_neg (not_not_intro expected), if_pos expected]
    · rw [if_pos expected, if_neg expected]
      rfl

theorem header_eq_bind : header =
    (embedded Reporter.layout Report.reporterField).bind fun reporter =>
      (embedded Auth.layout Report.authField).bind fun auth =>
        (embedded InternalMetrics.layout Report.internalMetricsField).bind fun metrics =>
          give (.ok ⟨some reporter, some auth, [], 0, some metrics⟩) := by
  funext body
  rw [header, bind]
  rcases embedded Reporter.layout Report.reporterField body with ⟨e | reporter, body₁⟩
  · rfl
  · simp only [bind]
    rcases embedded Auth.layout Report.authField body₁ with ⟨e | auth, body₂⟩
    · rfl
    · simp only
      rcases embedded InternalMetrics.layout Report.internalMetricsField body₂ with
        ⟨e | metrics, body₃⟩ <;> rfl

end

/-! ## answers -/

section
variable {α β : Type} {d : Decoder α} {k : α → Decoder β} {bs cs : List UInt8} {a : α}
  {x : Except FrameError β} {e : FrameError}

theorem answers_give (y : Except FrameError α) : (give y).Answers [] y :=
  fun body _ same => ⟨body, rfl, same⟩

theorem Answers.bind (h : d.Answers bs (.ok a)) (hk : (k a).Answers cs x) :
    (d.bind k).Answers (bs ++ cs) x := by
  intro body es hb
  rw [List.map_append, List.append_assoc] at hb
  obtain ⟨mid, hd, he⟩ := h body _ hb
  obtain ⟨rest, hx, he⟩ := hk mid es he
  refine ⟨rest, ?_, he⟩
  rw [Decoder.bind, hd]
  exact hx

theorem Answers.bind_error (h : d.Answers bs (.error e)) : (d.bind k).Answers bs (.error e) := by
  intro body es hb
  obtain ⟨rest, hd, he⟩ := h body es hb
  refine ⟨rest, ?_, he⟩
  rw [Decoder.bind, hd]

theorem Answers.map {y : Except FrameError α} (h : d.Answers bs y) (g : α → β) :
    (Decoder.map g d).Answers bs (y.map g) := by
  intro body es hb
  obtain ⟨rest, hd, he⟩ := h body es hb
  exact ⟨rest, by rw [Decoder.map, hd], he⟩

theorem answers_exactly (bs : List UInt8) : (exactly bs.length).Answers bs (.ok bs) := by
  intro body es hb
  obtain ⟨rest, hr, he⟩ := read_of_events hb
  refine ⟨rest, ?_, he⟩
  rw [exactly, hr]
  simp only [ne_eq, not_true, if_false]

/-! ## too little -/

structure Starves (d : Decoder α) (bs : List UInt8) (e : FrameError) : Prop where
  failed : ∀ body f es, events body = bs.map .byte ++ .failure f :: es →
    ∃ rest, d body = (.error (.ofIo f), rest) ∧ events rest = es
  ended : ∀ body, events body = bs.map .byte →
    ∃ rest, d body = (.error e, rest) ∧ events rest = []

theorem Starves.bind (h : d.Starves bs e) : (d.bind k).Starves bs e where
  failed body f es hb := by
    obtain ⟨rest, hd, he⟩ := h.failed body f es hb
    refine ⟨rest, ?_, he⟩
    rw [Decoder.bind, hd]
  ended body hb := by
    obtain ⟨rest, hd, he⟩ := h.ended body hb
    refine ⟨rest, ?_, he⟩
    rw [Decoder.bind, hd]

theorem Starves.map (h : d.Starves bs e) (g : α → β) : (Decoder.map g d).Starves bs e where
  failed body f es hb := by
    obtain ⟨rest, hd, he⟩ := h.failed body f es hb
    exact ⟨rest, by rw [Decoder.map, hd]; rfl, he⟩
  ended body hb := by
    obtain ⟨rest, hd, he⟩ := h.ended body hb
    exact ⟨rest, by rw [Decoder.map, hd]; rfl, he⟩

theorem Answers.bind_starves (h : d.Answers bs (.ok a)) (hk : (k a).Starves cs e) :
    (d.bind k).Starves (bs ++ cs) e where
  failed body f es hb := by
    rw [List.map_append, List.append_assoc] at hb
    obtain ⟨mid, hd, he⟩ := h body _ hb
    obtain ⟨rest, hx, he⟩ := hk.failed mid f es he
    refine ⟨rest, ?_, he⟩
    rw [Decoder.bind, hd]
    exact hx
  ended body hb := by
    rw [List.map_append] at hb
    obtain ⟨mid, hd, he⟩ := h body _ hb
    obtain ⟨rest, hx, he⟩ := hk.ended mid he
    refine ⟨rest, ?_, he⟩
    rw [Decoder.bind, hd]
    exact hx

end

/-- where there is a byte, a span is read as any frame is -/
theorem span?_of_begun {body : Body} {bs : List UInt8} {es : List Event} (begun : bs ≠ [])
    (hb : events body = bs.map .byte ++ es) :
    span? body = map some (embedded Span.layout Report.spansField) body := by
  obtain ⟨b, bs, rfl⟩ := List.exists_cons_of_ne_nil begun
  rw [span?, atEnd_of_events_cons hb, map]
  simp only
  rcases embedded Span.layout Report.spansField body with ⟨e | s, rest⟩ <;> rfl

theorem starves_span? {bs : List UInt8} {e : FrameError} (begun : bs ≠ [])
    (h : (embedded Span.layout Report.spansField).Starves bs e) : span?.Starves bs e where
  failed body f es hb := by
    rw [span?_of_begun begun hb]
    exact (h.map some).failed body f es hb
  ended body hb := by
    rw [span?_of_begun begun (by rw [hb, List.append_nil])]
    exact (h.map some).ended body hb

theorem read_of_failure {n : Nat} {bs : List UInt8} (few : bs.length < n) {body : Body} {f : IoError}
    {es : List Event} (hb : events body = bs.map .byte ++ .failure f :: es) :
    ∃ rest, body.read n = (.error f, rest) ∧ events rest = es := by
  induction bs generalizing n body with
  | nil =>
    obtain ⟨n, rfl⟩ := Nat.exists_eq_succ_of_ne_zero (Nat.ne_of_gt few)
    obtain ⟨rest, hn, he⟩ := next_of_events_failure hb
    refine ⟨rest, ?_, he⟩
    rw [Body.read, hn]
  | cons b bs ih =>
    obtain ⟨n, rfl⟩ := Nat.exists_eq_succ_of_ne_zero (Nat.ne_of_gt (Nat.zero_lt_of_lt few))
    obtain ⟨mid, hn, he⟩ := next_of_events_cons hb
    obtain ⟨rest, hr, he⟩ := ih (Nat.lt_of_succ_lt_succ few) he
    refine ⟨rest, ?_, he⟩
    rw [Body.read, hn]
    simp only [hr]

theorem read_of_end {n : Nat} {bs : List UInt8} (few : bs.length ≤ n) {body : Body}
    (hb : events body = bs.map .byte) : ∃ rest, body.read n = (.ok bs, rest) ∧ events rest = [] := by
  induction bs generalizing n body with
  | nil =>
    cases n with
    | zero => exact ⟨body, rfl, hb⟩
    | succ n =>
      refine ⟨[], ?_, rfl⟩
      rw [Body.read, next_of_events_nil hb]
  | cons b bs ih =>
    obtain ⟨n, rfl⟩ := Nat.exists_eq_succ_of_ne_zero (Nat.ne_of_gt (Nat.zero_lt_of_lt few))
    obtain ⟨mid, hn, he⟩ := next_of_events_cons hb
    obtain ⟨rest, hr, he⟩ := ih (Nat.le_of_succ_le_succ few) he
    refine ⟨rest, ?_, he⟩
    rw [Body.read, hn]
    simp only [hr]

theorem starves_exactly {n : Nat} {bs : List UInt8} (few : bs.length < n) :
    (exactly n).Starves bs (.truncated n bs.length) where
  failed body f es hb := by
    obtain ⟨rest, hr, he⟩ := read_of_failure few hb
    refine ⟨rest, ?_, he⟩
    rw [exactly, hr]
  ended body hb := by
    obtain ⟨rest, hr, he⟩ := read_of_end (Nat.le_of_lt few) hb
    refine ⟨rest, ?_, he⟩
    rw [exactly, hr]
    simp only [ne_eq, Nat.ne_of_lt few, not_false_eq_true, if_true]

/-! ## numbers -/

theorem varintFrom_of_overlong {front : List UInt8} {last : UInt8} (value : Nat)
    (more : ∀ b ∈ front, ¬ b < 128) (high : 1 < last) {body : Body} {es : List Event}
    (hb : events body = (front ++ [last]).map .byte ++ es) :
    ∃ rest, varintFrom (front.length + 1) value body = (.error .malformedVarint, rest) ∧
      events rest = es := by
  induction front generalizing value body with
  | nil =>
    obtain ⟨rest, hn, he⟩ := next_of_events_cons hb
    refine ⟨rest, ?_, he⟩
    rw [List.length_nil, varintFrom, hn]
    simp only [true_and, if_pos high]
  | cons b front ih =>
    obtain ⟨here, others⟩ := List.forall_mem_cons.mp more
    obtain ⟨mid, hn, he⟩ := next_of_events_cons hb
    obtain ⟨rest, hv, he⟩ := ih _ others he
    refine ⟨rest, ?_, he⟩
    rw [List.length_cons, varintFrom, hn]
    simp only [Nat.succ_ne_zero, false_and, if_false, if_neg here]
    exact hv

theorem answers_varint_of_overlong {bs : List UInt8} (h : Varint.Overlong bs) :
    varint.Answers bs (.error .malformedVarint) := by
  obtain ⟨more, full, high⟩ := h
  intro body es hb
  rw [varint, ← full]
  exact varintFrom_of_overlong 0 more high hb

theorem starves_varintFrom {left : Nat} {bs : List UInt8} (value : Nat)
    (more : ∀ b ∈ bs, ¬ b < 128) (few : bs.length < left) :
    (varintFrom left value).Starves bs .unexpectedEnd := by
  induction bs generalizing left value with
  | nil =>
    obtain ⟨left, rfl⟩ := Nat.exists_eq_succ_of_ne_zero (Nat.ne_of_gt few)
    constructor
    · intro body f es hb
      obtain ⟨rest, hn, he⟩ := next_of_events_failure hb
      exact ⟨rest, by rw [varintFrom, hn], he⟩
    · intro body hb
      exact ⟨[], by rw [varintFrom, next_of_events_nil hb], rfl⟩
  | cons b bs ih =>
    obtain ⟨left, rfl⟩ := Nat.exists_eq_succ_of_ne_zero (Nat.ne_of_gt (Nat.zero_lt_of_lt few))
    obtain ⟨here, others⟩ := List.forall_mem_cons.mp more
    have few : bs.length < left := Nat.lt_of_succ_lt_succ few
    have room : ¬ (left = 0 ∧ 1 < b) := fun full => Nat.not_lt_zero _ (full.1 ▸ few)
    have goes {body rest : Body} (hn : body.next = .byte b rest) : varintFrom (left + 1) value body
        = varintFrom left (value + b.toNat % 128 * Nat.pow 128 (Varint.maxBytes - 1 - left)) rest := by
      rw [varintFrom, hn]
      simp only [if_neg room, if_neg here]
    constructor
    · intro body f es hb
      obtain ⟨mid, hn, he⟩ := next_of_events_cons hb
      rw [goes hn]
      exact (ih _ others few).failed mid f es he
    · intro body hb
      obtain ⟨mid, hn, he⟩ := next_of_events_cons hb
      rw [goes hn]
      exact (ih _ others few).ended mid he

theorem starves_varint {bs : List UInt8} (h : Varint.Unfinished bs) :
    varint.Starves bs .unexpectedEnd :=
  starves_varintFrom 0 h.more h.short

end Decoder

end MockCollector
