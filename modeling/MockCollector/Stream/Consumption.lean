import MockCollector.Stream.Frame
/-!
# What a decoder consumes

No step of a decoder puts anything back, and a frame that was read took a byte at least, so whoever reads
frames comes to an end.

* `length_events_read`       reading leaves no more than there was;
* `length_events_varint`     a number takes a byte at least;
* `length_events_embedded`   so does a frame;
* `length_events_span?`      and so does a span.
-/

namespace MockCollector

namespace Body

theorem length_events_next {body rest : Body} {b : UInt8} (h : body.next = .byte b rest) :
    (events rest).length + 1 = (events body).length := by
  rw [events_eq_next body, h]
  rfl

theorem length_events_failed {body rest : Body} {e : IoError} (h : body.next = .failed e rest) :
    (events rest).length + 1 = (events body).length := by
  rw [events_eq_next body, h]
  rfl

theorem length_events_read (n : Nat) (body : Body) :
    (events (read n body).2).length ≤ (events body).length := by
  induction n generalizing body with
  | zero => exact Nat.le_refl _
  | succ n ih =>
    unfold read
    split
    · exact Nat.zero_le _
    · rename_i e rest h
      have := length_events_failed h
      simp only
      omega
    · rename_i b rest h
      have h1 := length_events_next h
      have h2 := ih rest
      split <;> rename_i h3 <;> simp only [h3] at h2 ⊢ <;> omega

end Body

namespace Decoder

open Body

theorem length_events_varintFrom {left value n : Nat} {body rest : Body}
    (h : varintFrom left value body = (.ok n, rest)) :
    (events rest).length < (events body).length := by
  induction left generalizing value body with
  | zero => simp [varintFrom] at h
  | succ left ih =>
    unfold varintFrom at h
    split at h
    · simp at h
    · simp at h
    · rename_i b next hb
      have := length_events_next hb
      split at h
      · simp at h
      · simp only at h
        split at h
        · obtain ⟨-, rfl⟩ := Prod.mk.inj h
          omega
        · have := ih h
          omega

theorem length_events_varint {n : Nat} {body rest : Body} (h : varint body = (.ok n, rest)) :
    (events rest).length < (events body).length :=
  length_events_varintFrom h

theorem length_events_payload {M : Type} {L : Wire.Layout M} {m : M} {body rest : Body}
    (h : payload L body = (.ok m, rest)) : (events rest).length < (events body).length := by
  unfold payload at h
  split at h
  · simp at h
  · rename_i declared mid hv
    have h1 := length_events_varint hv
    have h2 := length_events_read declared mid
    split at h
    · simp at h
    · rename_i bs last hr
      rw [hr] at h2
      split at h
      · simp at h
      · split at h
        · simp at h
        · obtain ⟨-, rfl⟩ := Prod.mk.inj h
          simp only at h2
          omega

theorem length_events_embedded {M : Type} {L : Wire.Layout M} {field : Nat} {m : M}
    {body rest : Body} (h : embedded L field body = (.ok m, rest)) :
    (events rest).length < (events body).length := by
  unfold embedded at h
  split at h
  · simp at h
  · rename_i found mid hv
    have h1 := length_events_varint hv
    split at h
    · simp at h
    · have h2 := length_events_payload h
      omega

theorem length_events_atEnd {b : Bool} {body rest : Body} (h : atEnd body = (.ok b, rest)) :
    rest = body := by
  unfold atEnd at h
  split at h
  · exact (Prod.mk.inj h).2.symm
  · exact (Prod.mk.inj h).2.symm
  · simp at h

theorem length_events_span? {s : Span} {body rest : Body}
    (h : span? body = (.ok (some s), rest)) : (events rest).length < (events body).length := by
  unfold span? at h
  split at h
  · simp at h
  · simp at h
  · rename_i mid he
    have := length_events_atEnd he
    split at h
    · simp at h
    · rename_i s' last hs
      obtain ⟨-, rfl⟩ := Prod.mk.inj h
      have := length_events_embedded hs
      simp_all

end Decoder

end MockCollector
