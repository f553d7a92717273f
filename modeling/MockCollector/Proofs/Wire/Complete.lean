import MockCollector.Proofs.Wire.Rows
import MockCollector.Proofs.Wire.Scalars
import MockCollector.Proofs.Wire.Spelling
/-!
# Complete records

Which bytes are a record, said without a reader.

* `WireType.Lays w bs`      `bs` is a payload of wire type `w`, which is not that of a group;
* `WireRecord`              a record whose key is spelt in some way;
* `WireRecord.Complete`     its payload is what the wire type announces: of a group, complete records and
                            the closing key;
* `WireRecord.CompleteIn maps`   but a record of a map, whose wire type is not looked at, is a length and that
                            many bytes;
* `skipGroups_complete`, `skipField_complete`   a complete record is passed over exactly.
-/

namespace MockCollector.Wire

/-! ## numbers -/

theorem readVarint_of_spells {n : Nat} {spelling : List UInt8} (h : Varint.Spells n spelling)
    (rest : List UInt8) : readVarint (spelling ++ rest) = .ok (n, rest) := by
  rw [readVarint, Varint.decode_eq_some_iff.mpr ⟨spelling, h, rfl⟩]

theorem spells_of_readVarint {n : Nat} {bs rest : List UInt8} (h : readVarint bs = .ok (n, rest)) :
    ∃ spelling, Varint.Spells n spelling ∧ bs = spelling ++ rest := by
  unfold readVarint at h
  split at h
  · cases h
  · rename_i read
    cases h
    exact Varint.decode_eq_some_iff.mp read

/-! ## payloads -/

inductive WireType.Lays : WireType → List UInt8 → Prop where
  | varint {n : Nat} {bs : List UInt8} (spells : Varint.Spells n bs) : Lays .varint bs
  | fixed64 {bs : List UInt8} (eight : bs.length = 8) : Lays .fixed64 bs
  | lengthDelimited {length bs : List UInt8} (spells : Varint.Spells bs.length length) :
    Lays .lengthDelimited (length ++ bs)
  | fixed32 {bs : List UInt8} (four : bs.length = 4) : Lays .fixed32 bs

namespace WireType.Lays

variable {w : WireType} {bs : List UInt8}

theorem ungrouped (h : w.Lays bs) : w ≠ .groupStart ∧ w ≠ .groupEnd := by
  cases h <;> exact ⟨nofun, nofun⟩

theorem skipPayload (h : w.Lays bs) (rest : List UInt8) : skipPayload w (bs ++ rest) = .ok rest := by
  cases h with
  | varint spells => rw [Wire.skipPayload, readVarint_of_spells spells rest]; rfl
  | fixed64 eight => rw [Wire.skipPayload, ← eight, takeBytes_append]; rfl
  | lengthDelimited spells =>
    rw [Wire.skipPayload, readDelimited, List.append_assoc, readVarint_of_spells spells]
    simp only [takeBytes_append]
    rfl
  | fixed32 four => rw [Wire.skipPayload, ← four, takeBytes_append]; rfl

end WireType.Lays

/-! ## records -/

structure WireRecord where
  key : Key
  /-- the bytes of the key -/
  tag : List UInt8
  payload : List UInt8
  fits : Key.Fits key.number
  spells : Varint.Spells key.toNat tag
  deriving DecidableEq

namespace WireRecord

abbrev number (r : WireRecord) : Nat := r.key.number

def bytes (r : WireRecord) : List UInt8 := r.tag ++ r.payload

inductive Complete : WireRecord → Prop where
  | plain {r : WireRecord} (lays : r.key.wire.Lays r.payload) : Complete r
  | group {r : WireRecord} {inside : List WireRecord} {closing : List UInt8}
    (starts : r.key.wire = .groupStart) (complete : ∀ s ∈ inside, Complete s)
    (ends : Varint.Spells (Key.toNat ⟨r.number, .groupEnd⟩) closing)
    (payload : r.payload = inside.flatMap bytes ++ closing) : Complete r

def CompleteIn (maps : List Nat) (r : WireRecord) : Prop :=
  if r.number ∈ maps then WireType.lengthDelimited.Lays r.payload else r.Complete

end WireRecord

theorem Key.spells_encode {k : Key} (fits : Key.Fits k.number) : Varint.Spells k.toNat k.encode := by
  have word := Key.toNat_lt fits
  rw [Key.encode, Nat.mod_eq_of_lt word]
  exact Varint.spells_of_decode (Varint.decode_encode_nil (Nat.lt_trans word (by decide)))

/-- the record whose key is spelt as a writer spells it -/
def WireRecord.written (k : Key) (fits : Key.Fits k.number) (payload : List UInt8) : WireRecord :=
  ⟨k, k.encode, payload, fits, Key.spells_encode fits⟩

theorem Key.decode_of_spells {k : Key} {tag : List UInt8} (fits : Key.Fits k.number)
    (spells : Varint.Spells k.toNat tag) (rest : List UInt8) :
    Key.decode (tag ++ rest) = .ok (k, rest) := by
  rw [Key.decode, readVarint_of_spells spells]
  simp only [Key.ofNat_toNat fits.1 fits.2]

/-! ## passing over them -/

section
variable {depth innermost : Nat} {outer : List Nat} {rest left : List UInt8} {r : WireRecord}

/-- one key within a group -/
theorem skipGroups_cons {k : Key} {bs : List UInt8} (hk : Key.decode bs = .ok (k, rest)) :
    skipGroups depth (innermost :: outer) bs =
      if k.wire = .groupEnd then
        if k.number = innermost then skipGroups depth outer rest else .error .strayGroupEnd
      else if depth ≤ (innermost :: outer).length then .error .nestedTooDeep
      else if k.wire = .groupStart then skipGroups depth (k.number :: innermost :: outer) rest
      else
        match skipPayload k.wire rest with
        | .error e => .error e
        | .ok after => skipGroups depth (innermost :: outer) after := by
  rw [skipGroups]
  split
  · rename_i e he
    rw [hk] at he
    cases he
  · rename_i k' rest' hk'
    rw [hk] at hk'
    cases hk'
    split
    · rfl
    · split
      · rfl
      · split
        · rfl
        · split <;> rename_i hp <;> simp only [hp]

theorem skipGroups_closing {closing : List UInt8} (fits : Key.Fits innermost)
    (ends : Varint.Spells (Key.toNat ⟨innermost, .groupEnd⟩) closing) :
    skipGroups depth (innermost :: outer) (closing ++ rest) = skipGroups depth outer rest := by
  rw [skipGroups_cons (Key.decode_of_spells (k := ⟨innermost, .groupEnd⟩) fits ends rest), if_pos rfl,
    if_pos rfl]

/-- if each of some records is passed over, all of them are -/
theorem skipGroups_inside {inside : List WireRecord}
    (each : ∀ s ∈ inside, ∀ {rest}, skipGroups depth (innermost :: outer) (s.bytes ++ rest) = .ok left →
      skipGroups depth (innermost :: outer) rest = .ok left)
    (skipped : skipGroups depth (innermost :: outer) (inside.flatMap WireRecord.bytes ++ rest)
      = .ok left) : skipGroups depth (innermost :: outer) rest = .ok left := by
  induction inside with
  | nil => exact skipped
  | cons s inside ih =>
    rw [List.flatMap_cons, List.append_assoc] at skipped
    exact ih (fun t ht => each t (List.mem_cons_of_mem s ht)) (each s List.mem_cons_self skipped)

/-- within a group, what is behind a complete record is met next -/
theorem skipGroups_complete (h : r.Complete)
    (skipped : skipGroups depth (innermost :: outer) (r.bytes ++ rest) = .ok left) :
    skipGroups depth (innermost :: outer) rest = .ok left := by
  induction h generalizing innermost outer rest with
  | @plain r lays =>
    rw [WireRecord.bytes, List.append_assoc,
      skipGroups_cons (Key.decode_of_spells r.fits r.spells _), if_neg lays.ungrouped.2] at skipped
    split at skipped
    · cases skipped
    · simpa only [if_neg lays.ungrouped.1, lays.skipPayload] using skipped
  | @group r inside closing starts _ ends payload ih =>
    have other : r.key.wire ≠ .groupEnd := starts ▸ nofun
    rw [WireRecord.bytes, List.append_assoc,
      skipGroups_cons (Key.decode_of_spells r.fits r.spells _), if_neg other, if_pos starts] at skipped
    split at skipped
    · cases skipped
    · rw [payload, List.append_assoc] at skipped
      have inner := skipGroups_inside (fun s hs => ih s hs) skipped
      rwa [skipGroups_closing r.fits ends] at inner

/-- what is left behind a complete record is what was behind it -/
theorem skipField_complete (h : r.Complete)
    (skipped : skipField depth r.key (r.payload ++ rest) = .ok left) : left = rest := by
  unfold skipField at skipped
  split at skipped
  · cases skipped
  · cases h with
    | plain lays =>
      rw [if_neg lays.ungrouped.1, lays.skipPayload] at skipped
      exact (Except.ok.inj skipped).symm
    | @group _ inside closing starts complete ends payload =>
      rw [if_pos starts, payload, List.append_assoc] at skipped
      have inner := skipGroups_inside (fun s hs => skipGroups_complete (complete s hs)) skipped
      rw [skipGroups_closing r.fits ends, skipGroups] at inner
      exact (Except.ok.inj inner).symm

end

end MockCollector.Wire
