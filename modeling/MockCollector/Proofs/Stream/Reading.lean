import MockCollector.Proofs.Wire.Fields
import MockCollector.Proofs.Wire.Spelling
import MockCollector.Stream.Frame
/-!
# What a decoder makes of the head of a body

A step of a decoder sees a body as events, so it does not matter how the bytes were cut.

* `Decoder.Answers d bs a`    on a body that opens with the bytes `bs`, whatever is behind them, `d`
                              answers `a` and leaves what is behind them;
* `Decoder.answers_varint`    a number, however it is spelt;
* `Decoder.answers_embedded`  a frame, however its tag and its length are spelt;
* `Decoder.answers_record`    a frame that was written for a message;
* `Decoder.answers_header`, `Decoder.answers_span?`   the opening frames, and a span.
-/

namespace MockCollector

open Wire

namespace Body

theorem next_of_events_cons {body : Body} {b : UInt8} {es : List Event}
    (h : events body = .byte b :: es) : ∃ rest, body.next = .byte b rest ∧ events rest = es := by
  rw [events_eq_next] at h
  cases hn : body.next with
  | ended =>
    rw [hn] at h
    cases h
  | byte c rest =>
    rw [hn] at h
    cases h
    exact ⟨rest, rfl, rfl⟩
  | failed e rest =>
    rw [hn] at h
    cases h

theorem next_of_events_nil {body : Body} (h : events body = []) : body.next = .ended := by
  rw [events_eq_next] at h
  cases hn : body.next with
  | ended => rfl
  | byte c rest =>
    rw [hn] at h
    cases h
  | failed e rest =>
    rw [hn] at h
    cases h

theorem next_of_events_failure {body : Body} {e : IoError} {es : List Event}
    (h : events body = .failure e :: es) : ∃ rest, body.next = .failed e rest ∧ events rest = es := by
  rw [events_eq_next] at h
  cases hn : body.next with
  | ended =>
    rw [hn] at h
    cases h
  | byte c rest =>
    rw [hn] at h
    cases h
  | failed e rest =>
    rw [hn] at h
    cases h
    exact ⟨rest, rfl, rfl⟩

theorem read_of_events {bs : List UInt8} {body : Body} {es : List Event}
    (h : events body = bs.map .byte ++ es) :
    ∃ rest, read bs.length body = (.ok bs, rest) ∧ events rest = es := by
  induction bs generalizing body with
  | nil => exact ⟨body, rfl, h⟩
  | cons b bs ih =>
    obtain ⟨rest, hn, hr⟩ := next_of_events_cons h
    obtain ⟨last, hl, he⟩ := ih hr
    refine ⟨last, ?_, he⟩
    rw [List.length_cons, read, hn]
    simp only [hl]

/-- cut into runs of bytes, a body has the bytes as events -/
theorem events_map_bytes (chunks : List (List UInt8)) :
    events (chunks.map .bytes) = chunks.flatten.map .byte := by
  induction chunks with
  | nil => rfl
  | cons c cs ih =>
    rw [List.map_cons, events_cons, ih, List.flatten_cons, List.map_append]
    rfl

end Body

namespace Decoder

open Body

/-- on a body that opens with `bs`, `d` answers `a` and leaves what is behind -/
def Answers {α : Type} (d : Decoder α) (bs : List UInt8) (a : Except FrameError α) : Prop :=
  ∀ body es, events body = bs.map .byte ++ es → ∃ rest, d body = (a, rest) ∧ events rest = es

/-! ## numbers -/

theorem weight_succ {left : Nat} (few : left + 1 ≤ Varint.maxBytes) :
    Nat.pow 128 (Varint.maxBytes - left)
      = 128 * Nat.pow 128 (Varint.maxBytes - (left + 1)) := by
  have : Varint.maxBytes - left = Varint.maxBytes - (left + 1) + 1 := by omega
  rw [this, Nat.pow, Nat.mul_eq, Nat.mul_comm]

/-- what is known of a number so far is added to the rest of it, which has its place behind -/
theorem varintFrom_of_decodeWithin {left n : Nat} {bs after : List UInt8} {body : Body}
    {es : List Event} (value : Nat) (few : left ≤ Varint.maxBytes)
    (h : Varint.decodeWithin left bs = some (n, after))
    (hb : events body = bs.map .byte ++ es) :
    ∃ rest, varintFrom left value body
        = (.ok (value + n * Nat.pow 128 (Varint.maxBytes - left)), rest) ∧
      events rest = after.map .byte ++ es := by
  induction left generalizing value n bs body with
  | zero => cases h
  | succ left ih =>
    cases bs with
    | nil => cases h
    | cons b bs =>
      obtain ⟨rest, hn, hr⟩ := next_of_events_cons hb
      have here : Varint.maxBytes - 1 - left = Varint.maxBytes - (left + 1) := by omega
      rw [Varint.decodeWithin] at h
      rw [varintFrom, hn]
      simp only
      by_cases last : b < 128
      · rw [if_pos last] at h
        split at h
        · cases h
        · rename_i small
          cases h
          rw [if_neg small, if_pos last, Varint.mod_of_last last, here]
          exact ⟨rest, rfl, hr⟩
      · rw [if_neg last] at h
        obtain ⟨⟨m, behind⟩, hm, heq⟩ := Option.map_eq_some_iff.mp h
        obtain ⟨rfl, rfl⟩ := Prod.mk.inj heq
        have more : ¬ (left = 0 ∧ 1 < b) := by
          rintro ⟨rfl, -⟩
          cases hm
        rw [if_neg more, if_neg last, Varint.mod_of_more last, here]
        obtain ⟨rest', hv, he⟩ := ih
          (value + (b.toNat - 128) * Nat.pow 128 (Varint.maxBytes - (left + 1))) (by omega) hm hr
        refine ⟨rest', ?_, he⟩
        rw [hv, weight_succ few, Nat.add_assoc, Nat.add_mul, Nat.mul_comm 128 m, Nat.mul_assoc]

theorem answers_varint {bs : List UInt8} {n : Nat} (h : Varint.decode bs = some (n, [])) :
    varint.Answers bs (.ok n) := by
  intro body es hb
  obtain ⟨rest, hv, he⟩ := varintFrom_of_decodeWithin 0 (Nat.le_refl _) h hb
  refine ⟨rest, ?_, he⟩
  rw [varint, hv, Nat.sub_self, Nat.zero_add]
  show (Except.ok (n * 1), rest) = _
  rw [Nat.mul_one]

/-! ## frames -/

section
variable {M : Type} {L : Layout M} {m : M} {tag length bs : List UInt8} {field : Nat}

theorem answers_payload (hl : Varint.decode length = some (bs.length, []))
    (hm : L.decode bs = .ok m) : (payload L).Answers (length ++ bs) (.ok m) := by
  intro body es hb
  rw [List.map_append, List.append_assoc] at hb
  obtain ⟨mid, hv, he⟩ := answers_varint hl body _ hb
  obtain ⟨rest, hr, he⟩ := read_of_events he
  refine ⟨rest, ?_, he⟩
  rw [payload, hv]
  simp only [hr, ne_eq, not_true, if_false, hm]

theorem answers_embedded (ht : Varint.decode tag = some (fieldTag field, []))
    (hl : Varint.decode length = some (bs.length, [])) (hm : L.decode bs = .ok m) :
    (embedded L field).Answers (tag ++ (length ++ bs)) (.ok m) := by
  intro body es hb
  rw [List.map_append, List.append_assoc] at hb
  obtain ⟨mid, hv, he⟩ := answers_varint ht body _ hb
  obtain ⟨rest, hp, he⟩ := answers_payload hl hm mid es he
  refine ⟨rest, ?_, he⟩
  rw [embedded, hv]
  simp only [ne_eq, not_true, if_false, hp]

end

/-- the key of a frame is its tag -/
theorem encode_key_eq {field : Nat} (fits : Key.Fits field) :
    (⟨field, .lengthDelimited⟩ : Key).encode = Varint.encode (fieldTag field) ∧
      fieldTag field < UInt64.size := by
  have word : fieldTag field < UInt32.size := Key.toNat_lt (k := ⟨field, .lengthDelimited⟩) fits
  refine ⟨?_, Nat.lt_trans word (by decide)⟩
  show Varint.encode (fieldTag field % UInt32.size) = _
  rw [Nat.mod_eq_of_lt word]

theorem answers_record {M : Type} {L : Layout M} {height field : Nat} {m : M} {r : Record}
    (hL : L.Sound height) (deep : height ≤ Layout.maxDepth) (fits : Key.Fits field)
    (hr : L.Embeds field m r) (small : (L.encode m).length < UInt64.size) :
    (embedded L field).Answers r.bytes (.ok m) := by
  obtain ⟨bs, hm, rfl⟩ := hr
  obtain ⟨key, tagSmall⟩ := encode_key_eq fits
  have short : bs.length < UInt64.size := hL.length_encodes hm (L.encodes_encode m) ▸ small
  have bytes : Record.bytes ⟨⟨field, .lengthDelimited⟩, delimited bs⟩
      = Varint.encode (fieldTag field) ++ (Varint.encode bs.length ++ bs) := by
    rw [Record.bytes, key, delimited]
  rw [bytes]
  exact answers_embedded (Varint.decode_encode_nil tagSmall) (Varint.decode_encode_nil short)
    (hL.decode_of_encodes deep hm short)

/-! ## headers and spans -/

theorem answers_header {reporter : Reporter} {auth : Auth} {metrics : InternalMetrics}
    {r a m : List UInt8}
    (hr : (embedded Reporter.layout Report.reporterField).Answers r (.ok reporter))
    (ha : (embedded Auth.layout Report.authField).Answers a (.ok auth))
    (hm : (embedded InternalMetrics.layout Report.internalMetricsField).Answers m (.ok metrics)) :
    header.Answers (r ++ (a ++ m)) (.ok ⟨some reporter, some auth, [], 0, some metrics⟩) := by
  intro body es hb
  rw [List.map_append, List.map_append, List.append_assoc, List.append_assoc] at hb
  obtain ⟨body₁, h₁, e₁⟩ := hr body _ hb
  obtain ⟨body₂, h₂, e₂⟩ := ha body₁ _ e₁
  obtain ⟨body₃, h₃, e₃⟩ := hm body₂ _ e₂
  refine ⟨body₃, ?_, e₃⟩
  rw [header, h₁]
  simp only [h₂, h₃]

theorem atEnd_of_events_cons {body : Body} {b : UInt8} {es : List Event}
    (h : events body = .byte b :: es) : atEnd body = (.ok false, body) := by
  obtain ⟨rest, hn, -⟩ := next_of_events_cons h
  rw [atEnd, hn]

theorem answers_span? {x : Except FrameError Span} {bs : List UInt8} (begun : bs ≠ [])
    (h : (embedded Span.layout Report.spansField).Answers bs x) : span?.Answers bs (x.map some) := by
  intro body es hb
  obtain ⟨rest, he, hes⟩ := h body es hb
  obtain ⟨b, bs, rfl⟩ := List.exists_cons_of_ne_nil begun
  refine ⟨rest, ?_, hes⟩
  rw [span?, atEnd_of_events_cons hb]
  simp only [he]
  cases x <;> rfl

theorem span?_of_events_nil {body : Body} (h : events body = []) :
    span? body = (.ok none, body) := by
  rw [span?, atEnd, next_of_events_nil h]

end Decoder

end MockCollector
