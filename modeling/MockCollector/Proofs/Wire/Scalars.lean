import MockCollector.Wire.Scalar
/-!
# Scalars are read back

* `Scalar.Sound s`   reading what `s` has written gives the value again and leaves what is behind it;
* `sound_uint64`, `sound_int64`, `sound_int32`, `sound_bool`, `sound_double`, `sound_text`
                     every kind in use is sound.

Only a text can be too long: the length in front of it has to be below `2 ^ 64`.
-/

namespace MockCollector.Wire

theorem Varint.decode_encode_nil {n : Nat} (h : n < UInt64.size) :
    Varint.decode (Varint.encode n) = some (n, []) := by
  have read := Varint.decode_encode h []
  rwa [List.append_nil] at read

theorem readVarint_encode {n : Nat} (h : n < UInt64.size) (rest : List UInt8) :
    readVarint (Varint.encode n ++ rest) = .ok (n, rest) := by
  rw [readVarint, Varint.decode_encode h]

theorem takeBytes_append (bs rest : List UInt8) :
    takeBytes bs.length (bs ++ rest) = .ok (bs, rest) := by
  have h : ¬ (bs ++ rest).length < bs.length := by simp
  rw [takeBytes, if_neg h, List.take_left, List.drop_left]

theorem readDelimited_delimited {bs : List UInt8} (h : bs.length < UInt64.size)
    (rest : List UInt8) : readDelimited (delimited bs ++ rest) = .ok (bs, rest) := by
  rw [readDelimited, delimited, List.append_assoc, readVarint_encode h]
  exact takeBytes_append bs rest

namespace Scalar

/-- what was written is read back, and nothing behind it is touched -/
structure Sound {α : Type} (s : Scalar α) : Prop where
  read_write : ∀ a rest, (s.write a).length < UInt64.size → s.read (s.write a ++ rest) = .ok (a, rest)

/-! ## numbers -/

theorem sound_ofVarint {α : Type} (zero : α) {toNat : α → Nat} {ofNat : Nat → α}
    (small : ∀ a, toNat a < UInt64.size) (back : ∀ a, ofNat (toNat a) = a) :
    (Scalar.ofVarint zero toNat ofNat).Sound where
  read_write a rest _ := by
    show (readVarint (Varint.encode (toNat a) ++ rest)).map _ = _
    rw [readVarint_encode (small a)]
    show Except.ok (ofNat (toNat a), rest) = _
    rw [back]

theorem sound_uint64 : Scalar.uint64.Sound :=
  sound_ofVarint 0 UInt64.toNat_lt fun _ => UInt64.ofNat_toNat

theorem sound_int64 : Scalar.int64.Sound :=
  sound_ofVarint 0 (fun i => i.toUInt64.toNat_lt) fun i => by
    show (UInt64.ofNat i.toUInt64.toNat).toInt64 = i
    rw [UInt64.ofNat_toNat, Int64.toInt64_toUInt64]

/-- the low 32 bits of the 64 that a number is widened to are the number -/
theorem toInt32_widened (i : Int32) : i.toInt64.toUInt64.toNat.toUInt32.toInt32 = i := by
  apply Int32.toBitVec.inj
  have low : (i.toInt64.toUInt64.toNat.toUInt32.toInt32).toBitVec
      = (i.toBitVec.signExtend 64).setWidth 32 := by simp
  rw [low, ← BitVec.signExtend_eq_setWidth_of_le _ (by decide : 32 ≤ 64)]
  exact congrArg Int32.toBitVec (Int32.toInt32_toInt64 i)

theorem sound_int32 : Scalar.int32.Sound :=
  sound_ofVarint 0 (fun i => i.toInt64.toUInt64.toNat_lt) toInt32_widened

theorem sound_bool : Scalar.bool.Sound :=
  sound_ofVarint false (fun b => by cases b <;> decide) fun b => by cases b <;> rfl

/-! ## doubles -/

theorem length_littleEndian (count n : Nat) : (littleEndian count n).length = count := by
  induction count generalizing n with
  | zero => rfl
  | succ count ih => rw [littleEndian, List.length_cons, ih]

theorem ofLittleEndian_littleEndian {count n : Nat} (h : n < Nat.pow 256 count) :
    ofLittleEndian (littleEndian count n) = n := by
  induction count generalizing n with
  | zero =>
    have : n = 0 := by simpa [Nat.lt_one_iff] using h
    rw [this]
    rfl
  | succ count ih =>
    have digit : (n % 256).toUInt8.toNat = n % 256 := by simp
    have higher : n / 256 < Nat.pow 256 count :=
      Nat.div_lt_of_lt_mul (by rwa [Nat.pow, Nat.mul_eq, Nat.mul_comm] at h)
    rw [littleEndian, ofLittleEndian, digit, ih higher]
    exact Nat.mod_add_div n 256

theorem sound_double : Scalar.double.Sound where
  read_write d rest _ := by
    show (takeBytes 8 (littleEndian 8 d.bits.toNat ++ rest)).map
      (fun r => (doubleOfBytes r.1, r.2)) = .ok (d, rest)
    have taken := takeBytes_append (littleEndian 8 d.bits.toNat) rest
    rw [length_littleEndian] at taken
    rw [taken]
    show Except.ok (doubleOfBytes (littleEndian 8 d.bits.toNat), rest) = .ok (d, rest)
    have bits : d.bits.toNat < Nat.pow 256 8 := d.bits.toNat_lt
    rw [doubleOfBytes, ofLittleEndian_littleEndian bits]
    show Except.ok ((⟨UInt64.ofNat d.bits.toNat⟩ : Double), rest) = .ok (d, rest)
    rw [UInt64.ofNat_toNat]

/-! ## text -/

theorem fromUTF8?_textBytes (s : String) : String.fromUTF8? ⟨(textBytes s).toArray⟩ = some s := by
  show String.fromUTF8? s.toByteArray = some s
  rw [String.fromUTF8?, dif_pos s.isValidUTF8]
  rfl

theorem sound_text : Scalar.text.Sound where
  read_write s rest h := by
    show readText (delimited (textBytes s) ++ rest) = _
    have small : (textBytes s).length < UInt64.size := by
      refine Nat.lt_of_le_of_lt ?_ h
      show _ ≤ (delimited (textBytes s)).length
      rw [delimited, List.length_append]
      exact Nat.le_add_left _ _
    rw [readText, readDelimited_delimited small]
    simp only [fromUTF8?_textBytes]

end Scalar

end MockCollector.Wire
