import MockCollector.Wire.Varint
/-!
# Spellings of a number

Which bytes are a number, said without a reader.

* `Varint.value bs`      what the low seven bits of the bytes add up to, the first byte lowest;
* `Varint.Chained bs`    every byte but the last has its top bit set;
* `Varint.Spells n bs`   `bs` is a spelling of `n`: chained, of ten bytes at most, and below `2 ^ 64`;
* `Varint.decode_eq_some_iff`   a number is read off the head of bytes exactly if they begin with a
                         spelling of it;
* `Varint.Unfinished bs`, `Varint.Overlong bs`   what else bytes may be: too few for a number, or ten that
                         are none;
* `Varint.spells_or_not` bytes begin with a number or with ten that are none, or they are unfinished.
-/

namespace MockCollector.Wire.Varint

def value : List UInt8 → Nat
  | [] => 0
  | b :: bs => b.toNat % 128 + 128 * value bs

inductive Chained : List UInt8 → Prop where
  | last {b : UInt8} (h : b < 128) : Chained [b]
  | more {b : UInt8} {bs : List UInt8} (h : ¬ b < 128) (rest : Chained bs) : Chained (b :: bs)

structure Spells (n : Nat) (bs : List UInt8) : Prop where
  chained : Chained bs
  short : bs.length ≤ maxBytes
  small : n < UInt64.size
  value_eq : value bs = n

theorem Chained.ne_nil {bs : List UInt8} (h : Chained bs) : bs ≠ [] := by
  cases h <;> exact List.cons_ne_nil _ _

/-! ## seven bits of a byte -/

theorem mod_of_last {b : UInt8} (h : b < 128) : b.toNat % 128 = b.toNat :=
  Nat.mod_eq_of_lt (UInt8.lt_iff_toNat_lt.mp h)

theorem mod_of_more {b : UInt8} (h : ¬ b < 128) : b.toNat % 128 = b.toNat - 128 := by
  have top : 128 ≤ b.toNat := Nat.not_lt.mp fun hl => h (UInt8.lt_iff_toNat_lt.mpr hl)
  have := b.toNat_lt
  omega

/-! ## reading -/

/-- with ten bytes to go a number is below `2 ^ 64`, and every byte that was read takes off seven bits -/
theorem chained_of_decodeWithin {left n : Nat} {bs rest : List UInt8}
    (h : decodeWithin (left + 1) bs = some (n, rest)) :
    ∃ spelling, Chained spelling ∧ spelling.length ≤ left + 1 ∧ value spelling = n ∧
      n < 2 * Nat.pow 128 left ∧ bs = spelling ++ rest := by
  induction left generalizing bs n with
  | zero =>
    cases bs with
    | nil => cases h
    | cons b bs =>
      rw [decodeWithin] at h
      split at h
      · rename_i last
        split at h
        · cases h
        · rename_i small
          cases h
          have low : ¬ 1 < b.toNat := fun hl => small ⟨rfl, UInt8.lt_iff_toNat_lt.mpr hl⟩
          refine ⟨[b], .last last, Nat.le_refl _, mod_of_last last, ?_, rfl⟩
          show b.toNat < 2
          omega
      · rw [decodeWithin_zero] at h
        cases h
  | succ left ih =>
    cases bs with
    | nil => cases h
    | cons b bs =>
      rw [decodeWithin] at h
      have wider : Nat.pow 128 (left + 1) = 128 * Nat.pow 128 left := Nat.mul_comm _ _
      have positive : 0 < Nat.pow 128 left := Nat.pow_pos (by decide)
      split at h
      · rename_i last
        rw [if_neg (fun none => Nat.succ_ne_zero left none.1)] at h
        cases h
        have low := UInt8.lt_iff_toNat_lt.mp last
        refine ⟨[b], .last last, Nat.succ_le_succ (Nat.zero_le _), mod_of_last last, ?_, rfl⟩
        change b.toNat < 128 at low
        omega
      · rename_i more
        obtain ⟨⟨m, after⟩, hm, heq⟩ := Option.map_eq_some_iff.mp h
        obtain ⟨rfl, rfl⟩ := Prod.mk.inj heq
        obtain ⟨spelling, chained, short, rfl, below, rfl⟩ := ih hm
        refine ⟨b :: spelling, .more more chained, Nat.succ_le_succ short, ?_, ?_, rfl⟩
        · rw [value, mod_of_more more]
        · have := b.toNat_lt
          omega

theorem decodeWithin_of_chained {left : Nat} {spelling : List UInt8} (chained : Chained spelling)
    (short : spelling.length ≤ left + 1) (below : value spelling < 2 * Nat.pow 128 left)
    (rest : List UInt8) :
    decodeWithin (left + 1) (spelling ++ rest) = some (value spelling, rest) := by
  induction chained generalizing left with
  | @last b last =>
    have same : value [b] = b.toNat := mod_of_last last
    rw [same] at below ⊢
    have allowed : ¬ (left = 0 ∧ 1 < b) := by
      rintro ⟨rfl, high⟩
      have high : 1 < b.toNat := UInt8.lt_iff_toNat_lt.mp high
      change b.toNat < 2 at below
      omega
    rw [List.singleton_append, decodeWithin, if_pos last, if_neg allowed]
  | @more b bs more chained ih =>
    cases left with
    | zero =>
      have some := List.length_pos_iff.mpr chained.ne_nil
      rw [List.length_cons] at short
      omega
    | succ left =>
      have wider : Nat.pow 128 (left + 1) = 128 * Nat.pow 128 left := Nat.mul_comm _ _
      have split : value (b :: bs) = b.toNat - 128 + 128 * value bs := by
        rw [value, mod_of_more more]
      rw [List.cons_append, decodeWithin, if_neg more,
        ih (Nat.le_of_succ_le_succ short) (by omega), split]
      rfl

/-- **What is read off the head of bytes is a spelling**, and every spelling is read. -/
theorem decode_eq_some_iff {n : Nat} {bs rest : List UInt8} :
    decode bs = some (n, rest) ↔ ∃ spelling, Spells n spelling ∧ bs = spelling ++ rest := by
  constructor
  · intro h
    obtain ⟨spelling, chained, short, value, below, split⟩ := chained_of_decodeWithin h
    exact ⟨spelling, ⟨chained, short, below, value⟩, split⟩
  · rintro ⟨spelling, ⟨chained, short, small, rfl⟩, rfl⟩
    exact decodeWithin_of_chained chained short small rest

theorem Spells.decode {n : Nat} {bs : List UInt8} (h : Spells n bs) :
    Varint.decode bs = some (n, []) :=
  decode_eq_some_iff.mpr ⟨bs, h, (List.append_nil bs).symm⟩

theorem spells_of_decode {n : Nat} {bs : List UInt8} (h : Varint.decode bs = some (n, [])) :
    Spells n bs := by
  obtain ⟨spelling, spells, same⟩ := decode_eq_some_iff.mp h
  rw [same, List.append_nil]
  exact spells

/-! ## what is no number -/

/-- there is more to come, and room for it -/
structure Unfinished (bs : List UInt8) : Prop where
  more : ∀ b ∈ bs, ¬ b < 128
  short : bs.length < maxBytes

/-- nine bytes promise more, and the tenth holds more than one bit -/
inductive Overlong : List UInt8 → Prop where
  | intro {front : List UInt8} {last : UInt8} (more : ∀ b ∈ front, ¬ b < 128)
    (full : front.length + 1 = maxBytes) (high : 1 < last) : Overlong (front ++ [last])

theorem cases_of_decodeWithin {left : Nat} {bs : List UInt8} (h : decodeWithin (left + 1) bs = none) :
    ((∀ b ∈ bs, ¬ b < 128) ∧ bs.length ≤ left) ∨
      ∃ front last rest, bs = front ++ [last] ++ rest ∧ (∀ b ∈ front, ¬ b < 128) ∧
        front.length = left ∧ 1 < last := by
  induction left generalizing bs with
  | zero =>
    cases bs with
    | nil => exact .inl ⟨List.forall_mem_nil _, Nat.le_refl _⟩
    | cons b bs =>
      refine .inr ⟨[], b, bs, rfl, List.forall_mem_nil _, rfl, ?_⟩
      rw [decodeWithin] at h
      split at h
      · split at h
        · rename_i high
          exact high.2
        · cases h
      · rename_i more
        exact UInt8.lt_of_lt_of_le (by decide) (UInt8.not_lt.mp more)
  | succ left ih =>
    cases bs with
    | nil => exact .inl ⟨List.forall_mem_nil _, Nat.zero_le _⟩
    | cons b bs =>
      rw [decodeWithin] at h
      split at h
      · rw [if_neg (fun none => Nat.succ_ne_zero left none.1)] at h
        cases h
      · rename_i more
        rcases ih (Option.map_eq_none_iff.mp h) with ⟨all, short⟩ |
            ⟨front, last, rest, rfl, all, full, high⟩
        · exact .inl ⟨List.forall_mem_cons.mpr ⟨more, all⟩, Nat.succ_le_succ short⟩
        · exact .inr ⟨b :: front, last, rest, rfl, List.forall_mem_cons.mpr ⟨more, all⟩,
            congrArg Nat.succ full, high⟩

theorem spells_or_not (bs : List UInt8) :
    (∃ n spelling rest, Spells n spelling ∧ bs = spelling ++ rest) ∨
      (∃ ten rest, Overlong ten ∧ bs = ten ++ rest) ∨ Unfinished bs := by
  cases h : decode bs with
  | some found =>
    obtain ⟨n, rest⟩ := found
    obtain ⟨spelling, spells, same⟩ := decode_eq_some_iff.mp h
    exact .inl ⟨n, spelling, rest, spells, same⟩
  | none =>
    rcases cases_of_decodeWithin h with ⟨more, short⟩ | ⟨front, last, rest, same, more, full, high⟩
    · exact .inr (.inr ⟨more, Nat.lt_succ_of_le short⟩)
    · exact .inr (.inl ⟨_, rest, ⟨more, congrArg Nat.succ full, high⟩, same⟩)

/-- only the last byte of a spelling says that there is no more -/
theorem Chained.more_of_append {front : List UInt8} {last : UInt8} {back : List UInt8}
    (h : Chained (front ++ last :: back)) : ∀ b ∈ front, ¬ b < 128 := by
  induction front with
  | nil => exact List.forall_mem_nil _
  | cons b front ih =>
    rw [List.cons_append] at h
    generalize behind : front ++ last :: back = bs at h
    cases h with
    | last low =>
      exact absurd behind (List.append_ne_nil_of_right_ne_nil _ (List.cons_ne_nil _ _))
    | more high rest => exact List.forall_mem_cons.mpr ⟨high, ih (behind ▸ rest)⟩

/-- a number that was cut short is unfinished -/
theorem Spells.unfinished_take {n j : Nat} {bs : List UInt8} (h : Spells n bs) (cut : j < bs.length) :
    Unfinished (bs.take j) where
  more := by
    have split : bs.take j ++ bs[j] :: bs.drop (j + 1) = bs := by
      rw [← List.drop_eq_getElem_cons cut, List.take_append_drop]
    exact (split ▸ h.chained).more_of_append
  short := by
    have := h.short
    rw [List.length_take]
    omega

end MockCollector.Wire.Varint
