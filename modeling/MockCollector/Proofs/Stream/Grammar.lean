import MockCollector.Proofs.Stream.Items
import MockCollector.Proofs.Stream.RoundTrip
/-!
# The grammar of report streams

Which bytes are a stream, said without a decoder.

* `IsFrame L field m bs`    `bs` is a frame of `field` that carries `m`: a tag, the length of a payload
                          and the payload, the numbers spelt in any way;
* `Frames P ms bs`          `bs` is one piece after the other, one for each of `ms`;
* `IsStream header spans bs`   the opening frames and then a frame for each span;
* `Decoder.Yields d P`      what `d` reads is a piece that `P` allows (the converse of `Decoder.Answers`);
* `Decoder.Completes body header spans`   the header and every span are read, and the body ends there;
* `stream_completes_iff`    which is so for streams and for nothing else.
-/

namespace MockCollector

open Wire

/-! ## frames -/

def IsFrame {M : Type} (L : Layout M) (field : Nat) (m : M) (bs : List UInt8) : Prop :=
  ∃ tag length payload, Varint.Spells (8 * field + 2) tag ∧
    Varint.Spells payload.length length ∧ L.decode payload = .ok m ∧
    bs = tag ++ (length ++ payload)

inductive Frames {M : Type} (P : M → List UInt8 → Prop) : List M → List UInt8 → Prop where
  | nil : Frames P [] []
  | cons {m : M} {ms : List M} {bs cs : List UInt8} (first : P m bs) (rest : Frames P ms cs) :
    Frames P (m :: ms) (bs ++ cs)

theorem Frames.mono {M : Type} {P Q : M → List UInt8 → Prop} {ms : List M} {bs : List UInt8}
    (le : ∀ m bs, P m bs → Q m bs) (h : Frames P ms bs) : Frames Q ms bs := by
  induction h with
  | nil => exact .nil
  | cons first _ ih => exact .cons (le _ _ first) ih

/-- a reporter, an access token and metrics, in this order, and then spans to the end -/
def IsStream (header : Report) (spans : List Span) (bs : List UInt8) : Prop :=
  ∃ reporter auth metrics r a m ss,
    IsFrame Reporter.layout 1 reporter r ∧ IsFrame Auth.layout 2 auth a ∧
    IsFrame InternalMetrics.layout 6 metrics m ∧ Frames (IsFrame Span.layout 3) spans ss ∧
    bs = r ++ (a ++ (m ++ ss)) ∧ header = ⟨some reporter, some auth, [], 0, some metrics⟩

theorem IsFrame.ne_nil {M : Type} {L : Layout M} {field : Nat} {m : M} {bs : List UInt8}
    (h : IsFrame L field m bs) : bs ≠ [] := by
  obtain ⟨tag, length, payload, spells, -, -, rfl⟩ := h
  exact List.append_ne_nil_of_left_ne_nil spells.chained.ne_nil _

namespace Decoder

open Body

/-! ## what is read is a frame -/

/-- what `d` reads off a body is a piece that `P` allows; what is behind it is left -/
def Yields {α : Type} (d : Decoder α) (P : α → List UInt8 → Prop) : Prop :=
  ∀ body a rest, d body = (.ok a, rest) → ∃ bs, P a bs ∧ events body = bs.map .byte ++ events rest

theorem events_of_next {body rest : Body} {b : UInt8} (h : body.next = .byte b rest) :
    events body = .byte b :: events rest := by
  rw [events_eq_next, h]

theorem events_of_read {n : Nat} {body rest : Body} {bs : List UInt8}
    (h : body.read n = (.ok bs, rest)) : events body = bs.map .byte ++ events rest := by
  induction n generalizing body bs with
  | zero =>
    cases h
    rfl
  | succ n ih =>
    rw [Body.read] at h
    split at h
    · rename_i ended
      cases h
      rw [events_eq_next, ended]
      rfl
    · cases h
    · rename_i b mid hn
      split at h
      · rename_i cs last hr
        cases h
        rw [events_of_next hn, ih hr]
        rfl
      · cases h

/-- a number that was read in parts: what is known of it so far, and a spelling of the rest of it -/
theorem decodeWithin_of_varintFrom {left value n : Nat} {body rest : Body}
    (few : left ≤ Varint.maxBytes) (h : varintFrom left value body = (.ok n, rest)) :
    ∃ bs m, Varint.decodeWithin left bs = some (m, []) ∧
      n = value + m * Nat.pow 128 (Varint.maxBytes - left) ∧
      events body = bs.map .byte ++ events rest := by
  induction left generalizing value body with
  | zero => cases h
  | succ left ih =>
    rw [varintFrom] at h
    split at h
    · cases h
    · cases h
    · rename_i b mid hn
      have here : Varint.maxBytes - 1 - left = Varint.maxBytes - (left + 1) := by omega
      split at h
      · cases h
      · rename_i allowed
        simp only at h
        split at h
        · rename_i last
          cases h
          refine ⟨[b], b.toNat, ?_, ?_, events_of_next hn⟩
          · rw [Varint.decodeWithin, if_pos last, if_neg allowed]
          · rw [Varint.mod_of_last last, here]
        · rename_i more
          obtain ⟨bs, m, hm, rfl, he⟩ := ih (by omega) h
          refine ⟨b :: bs, b.toNat - 128 + 128 * m, ?_, ?_, ?_⟩
          · rw [Varint.decodeWithin, if_neg more, hm]
            rfl
          · rw [Varint.mod_of_more more, here, weight_succ few, Nat.add_assoc, Nat.add_mul,
              Nat.mul_comm 128 m, Nat.mul_assoc]
          · rw [events_of_next hn, he]
            rfl

theorem yields_varint : varint.Yields Varint.Spells := by
  intro body n rest h
  obtain ⟨bs, m, hm, rfl, he⟩ := decodeWithin_of_varintFrom (Nat.le_refl _) h
  refine ⟨bs, ?_, he⟩
  have same : 0 + m * Nat.pow 128 (Varint.maxBytes - Varint.maxBytes) = m := by
    rw [Nat.sub_self, Nat.zero_add]
    exact Nat.mul_one m
  rw [same]
  exact Varint.spells_of_decode hm

section
variable {M : Type} {L : Layout M} {field : Nat}

theorem yields_payload : (payload L).Yields fun m bs =>
    ∃ length payload, Varint.Spells payload.length length ∧ L.decode payload = .ok m ∧
      bs = length ++ payload := by
  intro body m rest h
  rw [payload] at h
  split at h
  · cases h
  · rename_i declared mid hv
    obtain ⟨length, spells, he⟩ := yields_varint _ _ _ hv
    split at h
    · cases h
    · rename_i bs last hr
      split at h
      · cases h
      · rename_i whole
        obtain rfl := Decidable.not_not.mp whole
        split at h
        · cases h
        · rename_i hm
          cases h
          refine ⟨length ++ bs, ⟨length, bs, spells, hm, rfl⟩, ?_⟩
          rw [he, events_of_read hr, List.map_append, List.append_assoc]

theorem yields_embedded : (embedded L field).Yields (IsFrame L field) := by
  intro body m rest h
  rw [embedded] at h
  split at h
  · cases h
  · rename_i found mid hv
    obtain ⟨tag, spells, he⟩ := yields_varint _ _ _ hv
    split at h
    · cases h
    · rename_i expected
      obtain rfl := Decidable.not_not.mp expected
      obtain ⟨_, ⟨length, bs, hl, hm, rfl⟩, hp⟩ := yields_payload _ _ _ h
      refine ⟨tag ++ (length ++ bs), ⟨tag, length, bs, spells, hl, hm, rfl⟩, ?_⟩
      rw [he, hp]
      simp only [List.map_append, List.append_assoc]

theorem answers_frame {m : M} {bs : List UInt8} (h : IsFrame L field m bs) :
    (embedded L field).Answers bs (.ok m) := by
  obtain ⟨tag, length, payload, ht, hl, hm, rfl⟩ := h
  exact answers_embedded ht.decode hl.decode hm

end

/-- an opening is read whatever its frames look like, and nothing else is read as one -/
theorem yields_header : header.Yields fun h bs => ∃ reporter auth metrics r a m,
    IsFrame Reporter.layout 1 reporter r ∧ IsFrame Auth.layout 2 auth a ∧
      IsFrame InternalMetrics.layout 6 metrics m ∧ bs = r ++ (a ++ m) ∧
      h = ⟨some reporter, some auth, [], 0, some metrics⟩ := by
  intro body h rest hh
  rw [header] at hh
  split at hh
  · cases hh
  · rename_i reporter body₁ hr
    split at hh
    · cases hh
    · rename_i auth body₂ ha
      split at hh
      · cases hh
      · rename_i metrics body₃ hm
        cases hh
        obtain ⟨r, frame₁, e₁⟩ := yields_embedded _ _ _ hr
        obtain ⟨a, frame₂, e₂⟩ := yields_embedded _ _ _ ha
        obtain ⟨m, frame₃, e₃⟩ := yields_embedded _ _ _ hm
        refine ⟨r ++ (a ++ m), ⟨_, _, _, r, a, m, frame₁, frame₂, frame₃, rfl, rfl⟩, ?_⟩
        rw [e₁, e₂, e₃]
        simp only [List.map_append, List.append_assoc]

/-! ## spans up to the end -/

theorem frame_of_span? {s : Span} {body rest : Body} (h : span? body = (.ok (some s), rest)) :
    ∃ bs, IsFrame Span.layout 3 s bs ∧ events body = bs.map .byte ++ events rest := by
  rw [span?] at h
  split at h
  · cases h
  · cases h
  · rename_i mid begun
    obtain rfl := length_events_atEnd begun
    split at h
    · cases h
    · rename_i hs
      cases h
      exact yields_embedded _ _ _ hs

theorem events_of_end {body rest : Body} (h : span? body = (.ok none, rest)) : events body = [] := by
  rw [span?] at h
  split at h
  · cases h
  · rename_i mid ended
    rw [atEnd] at ended
    split at ended
    · rename_i hn
      rw [events_eq_next, hn]
    · cases ended
    · cases ended
  · split at h <;> cases h

theorem frames_of_spans {body : Body} (h : (spans body).2 = none) :
    ∃ bs, Frames (IsFrame Span.layout 3) (spans body).1 bs ∧ events body = bs.map .byte := by
  fun_induction spans body with
  | case1 body e rest failed => cases h
  | case2 body rest ended => exact ⟨[], .nil, events_of_end ended⟩
  | case3 body s rest read ih =>
    obtain ⟨cs, frames, he⟩ := ih h
    obtain ⟨bs, frame, hb⟩ := frame_of_span? read
    refine ⟨bs ++ cs, .cons frame frames, ?_⟩
    rw [hb, he, List.map_append]

theorem spans_of_frames {ss : List Span} {bs : List UInt8} {body : Body}
    (h : Frames (IsFrame Span.layout 3) ss bs) (hb : events body = bs.map .byte) :
    spans body = (ss, none) := by
  induction h generalizing body with
  | nil => exact spans_of_end (span?_of_events_nil hb)
  | cons first _ ih =>
    rw [List.map_append] at hb
    obtain ⟨rest, hs, he⟩ := answers_span? first.ne_nil (answers_frame first) body _ hb
    rw [spans_of_span hs, ih he]

/-! ## streams -/

/-- `header` and then every span is read off the body, which ends there -/
def Completes (body : Body) (header : Report) (spans : List Span) : Prop :=
  ∃ rest, Decoder.header body = (.ok header, rest) ∧ Decoder.spans rest = (spans, none)

theorem completes_iff {body : Body} {header : Report} {spans : List Span} :
    Completes body header spans ↔ ∃ bs, IsStream header spans bs ∧ events body = bs.map .byte := by
  constructor
  · rintro ⟨rest, hh, hs⟩
    obtain ⟨_, ⟨reporter, auth, metrics, r, a, m, hr, ha, hm, rfl, same⟩, he⟩ :=
      yields_header _ _ _ hh
    obtain ⟨ss, frames, hss⟩ := frames_of_spans (congrArg Prod.snd hs)
    rw [hs] at frames
    refine ⟨r ++ (a ++ (m ++ ss)), ⟨reporter, auth, metrics, r, a, m, ss, hr, ha, hm, frames, rfl,
      same⟩, ?_⟩
    rw [he, hss]
    simp only [List.map_append, List.append_assoc]
  · rintro ⟨_, ⟨reporter, auth, metrics, r, a, m, ss, hr, ha, hm, frames, rfl, rfl⟩, he⟩
    have opens : events body = (r ++ (a ++ m)).map .byte ++ ss.map .byte := by
      rw [he]
      simp only [List.map_append, List.append_assoc]
    obtain ⟨rest, hh, hss⟩ := answers_header (answers_frame hr) (answers_frame ha)
      (answers_frame hm) body _ opens
    exact ⟨rest, hh, spans_of_frames frames hss⟩

end Decoder

theorem isStream_of_completes {chunks : List (List UInt8)} {header : Report} {spans : List Span}
    (h : Decoder.Completes (chunks.map .bytes) header spans) :
    IsStream header spans chunks.flatten := by
  obtain ⟨bs, stream, same⟩ := Decoder.completes_iff.mp h
  rw [Body.events_map_bytes] at same
  rwa [(List.map_inj_right fun _ _ => Body.Event.byte.inj).mp same]

/-- **A decoder accepts streams and nothing else**, however the bytes are cut and however the numbers
in them are spelt, and it answers what their frames carry. -/
theorem stream_completes_iff (chunks : List (List UInt8)) (header : Report) (spans : List Span) :
    Decoder.Completes (chunks.map .bytes) header spans ↔ IsStream header spans chunks.flatten :=
  ⟨isStream_of_completes, fun stream =>
    Decoder.completes_iff.mpr ⟨chunks.flatten, stream, Body.events_map_bytes chunks⟩⟩

end MockCollector
