/-!
# Base-128 numbers

A number on the wire is written seven bits to a byte, lowest bits first.  Every byte but the last
has its top bit set.

* `Varint.encode n`      the shortest spelling of `n`;
* `Varint.decode bs`     the number at the head of `bs` and the bytes after it; a spelling has at
                         most ten bytes and a value below `2 ^ 64`, but need not be the shortest.

Main statements: `decode_encode` (every number below `2 ^ 64` is read back, with nothing extra
consumed), `decode_length` (reading consumes at least one byte).
-/

namespace MockCollector.Wire.Varint

/-! ## writing -/

def encode (n : Nat) : List UInt8 :=
  if n < 128 then [n.toUInt8] else (n % 128 + 128).toUInt8 :: encode (n / 128)
termination_by n
decreasing_by omega

/-- the longest spelling of a 64-bit number -/
def maxBytes : Nat := 10

/-! ## reading -/

/-- reads a number that may take up to `left` more bytes; the last of ten bytes holds one bit -/
def decodeWithin : Nat → List UInt8 → Option (Nat × List UInt8)
  | 0, _ => none
  | _ + 1, [] => none
  | left + 1, b :: rest =>
    if b < 128 then
      if left = 0 ∧ 1 < b then none else some (b.toNat, rest)
    else
      (decodeWithin left rest).map fun (n, after) => (b.toNat - 128 + 128 * n, after)

def decode (bs : List UInt8) : Option (Nat × List UInt8) :=
  decodeWithin maxBytes bs

theorem decodeWithin_zero (bs : List UInt8) : decodeWithin 0 bs = none := by
  simp [decodeWithin]

theorem decodeWithin_nil (left : Nat) : decodeWithin left [] = none := by
  cases left <;> rfl

theorem decodeWithin_length {left : Nat} {bs rest : List UInt8} {n : Nat}
    (h : decodeWithin left bs = some (n, rest)) : rest.length < bs.length := by
  induction left generalizing bs n with
  | zero => simp [decodeWithin_zero] at h
  | succ left ih =>
    cases bs with
    | nil => simp [decodeWithin_nil] at h
    | cons b bs =>
      rw [decodeWithin] at h
      split at h
      · split at h
        · simp at h
        · simp at h
          simp [h.2]
      · simp only [Option.map_eq_some_iff, Prod.mk.injEq] at h
        obtain ⟨⟨m, after⟩, hm, -, rfl⟩ := h
        have := ih hm
        simp only [List.length_cons] at this ⊢
        omega

/-- reading consumes at least one byte -/
theorem decode_length {bs rest : List UInt8} {n : Nat} (h : decode bs = some (n, rest)) :
    rest.length < bs.length :=
  decodeWithin_length h

/-! ## reading back what was written -/

private theorem toNat_small {n : Nat} (h : n < 256) : n.toUInt8.toNat = n := by
  simp [Nat.mod_eq_of_lt h]

private theorem small_lt {n : Nat} (h : n < 256) : n.toUInt8 < 128 ↔ n < 128 := by
  rw [UInt8.lt_iff_toNat_lt, toNat_small h]
  exact Iff.rfl

theorem decodeWithin_encode (left spent n : Nat) (rest : List UInt8)
    (hl : left + 1 + spent = maxBytes) (hn : n * Nat.pow 128 spent < UInt64.size) :
    decodeWithin (left + 1) (encode n ++ rest) = some (n, rest) := by
  induction left generalizing n spent with
  | zero =>
    have hs : spent = 9 := by simp [maxBytes] at hl; omega
    subst hs
    have h1 : n < 2 := by
      simp only [UInt64.size, Nat.pow_eq] at hn
      omega
    rw [encode, if_pos (by omega)]
    simp only [List.cons_append, List.nil_append, decodeWithin]
    rw [if_pos ((small_lt (by omega)).2 (by omega)), if_neg, toNat_small (by omega)]
    rintro ⟨-, hb⟩
    rw [UInt8.lt_iff_toNat_lt, toNat_small (by omega)] at hb
    simp at hb
    omega
  | succ left ih =>
    rw [encode]
    split
    · rename_i h
      simp only [List.cons_append, List.nil_append, decodeWithin]
      rw [if_pos ((small_lt (by omega)).2 h), if_neg (by omega), toNat_small (by omega)]
    · rename_i h
      have hq : n / 128 * Nat.pow 128 (spent + 1) < UInt64.size := by
        rw [Nat.pow, Nat.mul_eq, Nat.mul_comm (Nat.pow 128 spent), ← Nat.mul_assoc]
        exact Nat.lt_of_le_of_lt (Nat.mul_le_mul_right _ (Nat.div_mul_le_self n 128)) hn
      simp only [List.cons_append, decodeWithin]
      rw [if_neg (by rw [small_lt (by omega)]; omega), ih (spent + 1) (n / 128) (by omega) hq, toNat_small (by omega)]
      simp only [Option.map_some, Option.some.injEq, Prod.mk.injEq, and_true]
      omega

/-- every number below `2 ^ 64` is read back, and nothing after it is consumed -/
theorem decode_encode {n : Nat} (h : n < UInt64.size) (rest : List UInt8) :
    decode (encode n ++ rest) = some (n, rest) :=
  decodeWithin_encode 9 0 n rest rfl (by simpa using h)

end MockCollector.Wire.Varint
