import Mathlib.Algebra.GroupWithZero.Nat
import Mathlib.Data.List.Basic
import Mathlib.Data.List.Induction
import Mathlib.Tactic.Ring
import MockCollector.Proofs.Stream.Sequencing
/-!
# Numbers at the head of a stream

A number is read twice, in the frames of a stream and in their payloads, and both readers take the same.

* `Varint.weighed bs`       the low seven bits of each byte, times the weight of its place;
* `Varint.IsNumber bs v`    `bs` are all the bytes of a number, whose value is the sum of these;
* `Varint.isNumber_iff`     this is a spelling: the tenth byte is what keeps a number below `2 ^ 64`;
* `Varint.word bs`          the same bits shifted to their places in a word of 64;
* `Varint.IsNumber.toNat_word`   no bit of a number is lost there, and none meets another;
* `Decoder.Takes d body n a`   at `body`, `d` answers `a` and takes `n` bytes or failures;
* `Decoder.Found bs n a`    a number, ten bytes that are none, or too few, at the head of `bs`;
* `Decoder.takes_varint_iff`, `Decoder.decode_iff_found`   which is what either reader goes by;
* `Decoder.numbers_read_exactly`   what a number is, which bytes are none, and how many of them are taken.
-/

namespace MockCollector

namespace Wire.Varint

variable {bs front : List UInt8} {last : UInt8} {v : Nat}

/-! ## values -/

def weighed (bs : List UInt8) : List Nat := bs.mapIdx fun i b => b.toNat % 128 * 2 ^ (7 * i)

theorem weighed_concat (front : List UInt8) (last : UInt8) :
    weighed (front ++ [last]) = weighed front ++ [last.toNat % 128 * 2 ^ (7 * front.length)] :=
  List.mapIdx_concat

theorem sum_weighed_from (k : Nat) (bs : List UInt8) :
    (bs.mapIdx fun i b => b.toNat % 128 * 2 ^ (7 * (i + k))).sum = 2 ^ (7 * k) * value bs := by
  induction bs generalizing k with
  | nil => rfl
  | cons b bs ih =>
    have next : (bs.mapIdx fun i b => b.toNat % 128 * 2 ^ (7 * (i + 1 + k))).sum
        = 2 ^ (7 * (k + 1)) * value bs := by
      rw [← ih (k + 1)]
      simp only [Nat.add_assoc, Nat.add_comm 1 k]
    rw [List.mapIdx_cons, List.sum_cons, next, value, Nat.zero_add, Nat.mul_add 7, Nat.pow_add]
    ring

theorem sum_weighed (bs : List UInt8) : (weighed bs).sum = value bs := by
  have := sum_weighed_from 0 bs
  rwa [Nat.mul_zero, Nat.pow_zero, Nat.one_mul] at this

theorem sum_weighed_lt (bs : List UInt8) : (weighed bs).sum < 2 ^ (7 * bs.length) := by
  rw [sum_weighed]
  induction bs with
  | nil => exact Nat.one_pos
  | cons b bs ih =>
    have low : b.toNat % 128 < 128 := Nat.mod_lt _ (by decide)
    rw [value, List.length_cons, Nat.mul_succ, Nat.pow_add]
    omega

/-! ## spellings -/

theorem chained_cons {b : UInt8} :
    Chained (b :: bs) ↔ b < 128 ∧ bs = [] ∨ 128 ≤ b ∧ Chained bs := by
  constructor
  · intro h
    cases h with
    | last low => exact .inl ⟨low, rfl⟩
    | more high rest => exact .inr ⟨UInt8.not_lt.mp high, rest⟩
  · rintro (⟨low, rfl⟩ | ⟨high, rest⟩)
    · exact .last low
    · exact .more (UInt8.not_lt.mpr high) rest

theorem chained_concat : Chained (front ++ [last]) ↔ (∀ b ∈ front, 128 ≤ b) ∧ last < 128 := by
  induction front with
  | nil =>
    have none : ¬ Chained [] := fun h => h.ne_nil rfl
    rw [List.nil_append, chained_cons, and_iff_right (List.forall_mem_nil _)]
    simp only [and_true, none, and_false, or_false]
  | cons b front ih =>
    rw [List.cons_append, chained_cons, List.forall_mem_cons, and_assoc, ← ih]
    simp only [List.append_eq_nil_iff, List.cons_ne_nil, and_false, false_or]

/-- all the bytes of a number, and what they add up to -/
structure IsNumber (bs : List UInt8) (v : Nat) : Prop where
  more : ∀ b ∈ bs.dropLast, 128 ≤ b
  last : ∃ b, bs.getLast? = some b ∧ b < 128 ∧ (bs.length = 10 → b ≤ 1)
  short : bs.length ≤ 10
  value : (weighed bs).sum = v

/-- nine bytes stay below `2 ^ 63`, and a tenth has room for one bit -/
theorem sum_weighed_small_iff (short : front.length + 1 ≤ 10) (low : last < 128) :
    (weighed (front ++ [last])).sum < UInt64.size ↔ (front.length + 1 = 10 → last ≤ 1) := by
  have small := sum_weighed_lt front
  have low : last.toNat < 128 := UInt8.lt_iff_toNat_lt.mp low
  rw [weighed_concat, List.sum_append, List.sum_singleton, Nat.mod_eq_of_lt low, UInt8.le_iff_toNat_le]
  by_cases ten : front.length + 1 = 10
  · have nine : front.length = 9 := by omega
    rw [nine] at small ⊢
    simp only [UInt64.size, UInt8.toNat_one, true_imp_iff, Nat.reduceAdd]
    omega
  · refine iff_of_true ?_ fun h => absurd h ten
    have fits : 2 ^ (7 * (front.length + 1)) ≤ 2 ^ 63 := Nat.pow_le_pow_right (by decide) (by omega)
    rw [Nat.mul_succ, Nat.pow_add] at fits
    have part : last.toNat * 2 ^ (7 * front.length) ≤ 127 * 2 ^ (7 * front.length) :=
      Nat.mul_le_mul_right _ (by omega)
    simp only [UInt64.size]
    omega

theorem isNumber_iff : IsNumber bs v ↔ Spells v bs := by
  constructor
  · rintro ⟨more, ⟨b, final, low, tenth⟩, short, rfl⟩
    obtain ⟨front, rfl⟩ := List.getLast?_eq_some_iff.mp final
    rw [List.dropLast_concat] at more
    rw [List.length_append, List.length_singleton] at tenth short
    exact ⟨chained_concat.mpr ⟨more, low⟩, by rwa [List.length_append],
      (sum_weighed_small_iff short low).mpr tenth, (sum_weighed _).symm⟩
  · rintro ⟨chained, short, small, rfl⟩
    obtain rfl | ⟨front, last, rfl⟩ := bs.eq_nil_or_concat'
    · exact absurd rfl chained.ne_nil
    · obtain ⟨more, low⟩ := chained_concat.mp chained
      rw [List.length_append, List.length_singleton] at short
      rw [← sum_weighed, sum_weighed_small_iff short low] at small
      refine ⟨?_, ⟨last, List.getLast?_concat, low, ?_⟩, ?_, sum_weighed _⟩
      · rwa [List.dropLast_concat]
      · rwa [List.length_append, List.length_singleton]
      · rwa [List.length_append, List.length_singleton]

theorem IsNumber.small (h : IsNumber bs v) : v < UInt64.size := (isNumber_iff.mp h).small

theorem Overlong.length (h : Overlong bs) : bs.length = 10 := by
  obtain ⟨-, full, -⟩ := h
  rwa [List.length_append]

/-! ## words -/

/-- the low seven bits of each byte, shifted to its place -/
def word (bs : List UInt8) : UInt64 :=
  (bs.mapIdx fun i b => (b &&& 0x7f).toUInt64 <<< (UInt64.ofNat (7 * i))).foldl (· ||| ·) 0

theorem word_concat (front : List UInt8) (last : UInt8) : word (front ++ [last])
    = word front ||| (last &&& 0x7f).toUInt64 <<< (UInt64.ofNat (7 * front.length)) := by
  rw [word, List.mapIdx_concat, List.foldl_append]
  rfl

/-- what is shifted there meets no bit, as long as it stays within the word -/
theorem toNat_word_concat (short : front.length + 1 ≤ 10)
    (known : (word front).toNat = (weighed front).sum)
    (small : (weighed (front ++ [last])).sum < UInt64.size) :
    (word (front ++ [last])).toNat = (weighed (front ++ [last])).sum := by
  have free := sum_weighed_lt front
  have low : (last &&& 0x7f).toNat = last.toNat % 128 := Nat.and_two_pow_sub_one_eq_mod last.toNat 7
  have place : (UInt64.ofNat (7 * front.length)).toNat % 64 = 7 * front.length := by
    rw [UInt64.toNat_ofNat', Nat.mod_mod_of_dvd _ (by decide), Nat.mod_eq_of_lt (by omega)]
  rw [weighed_concat, List.sum_append, List.sum_singleton] at small ⊢
  have fits : last.toNat % 128 * 2 ^ (7 * front.length) < 2 ^ 64 :=
    Nat.lt_of_le_of_lt (Nat.le_add_left ..) small
  rw [word_concat, UInt64.toNat_or, UInt64.toNat_shiftLeft, place, UInt8.toNat_toUInt64, low, known,
    Nat.shiftLeft_eq, Nat.mod_eq_of_lt fits, Nat.or_comm, ← Nat.shiftLeft_eq,
    ← Nat.shiftLeft_add_eq_or_of_lt free, Nat.shiftLeft_eq, Nat.add_comm]

theorem toNat_word (short : bs.length ≤ 10) (small : (weighed bs).sum < UInt64.size) :
    (word bs).toNat = (weighed bs).sum := by
  induction bs using List.reverseRecOn with
  | nil => rfl
  | append_singleton front last ih =>
    rw [List.length_append, List.length_singleton] at short
    have less : (weighed front).sum ≤ (weighed (front ++ [last])).sum := by
      rw [weighed_concat, List.sum_append]
      exact Nat.le_add_right _ _
    have known := ih (Nat.le_of_succ_le short) (Nat.lt_of_le_of_lt less small)
    exact toNat_word_concat short known small

theorem IsNumber.toNat_word (h : IsNumber bs v) : (word bs).toNat = v := by
  rw [Varint.toNat_word h.short (h.value.symm ▸ h.small), h.value]

end Wire.Varint

namespace Decoder

open Wire Body

/-! ## what is taken -/

section
variable {α : Type} {d : Decoder α} {body : Body} {n : Nat} {a : Except FrameError α} {bs : List UInt8}

structure Takes (d : Decoder α) (body : Body) (n : Nat) (a : Except FrameError α) : Prop where
  answer : (d body).1 = a
  there : n ≤ (events body).length
  left : events (d body).2 = (events body).drop n

theorem Takes.unique {m : Nat} {b : Except FrameError α} (h : d.Takes body n a) (g : d.Takes body m b) :
    n = m ∧ a = b := by
  refine ⟨?_, h.answer.symm.trans g.answer⟩
  have length := congrArg List.length (h.left.symm.trans g.left)
  rw [List.length_drop, List.length_drop] at length
  have := h.there
  have := g.there
  omega

theorem Answers.takes (h : d.Answers bs a) {es : List Event} (comes : events body = bs.map .byte ++ es) :
    d.Takes body bs.length a := by
  obtain ⟨rest, answers, left⟩ := h body es comes
  have length : (bs.map Event.byte).length = bs.length := List.length_map _
  refine ⟨congrArg Prod.fst answers, ?_, ?_⟩
  · rw [comes, List.length_append, length]
    exact Nat.le_add_right _ _
  · rw [answers, comes, List.drop_left' length]
    exact left

theorem Starves.takes {e : FrameError} (h : d.Starves bs e) (comes : events body = bs.map .byte) :
    d.Takes body bs.length (.error e) := by
  obtain ⟨rest, answers, left⟩ := h.ended body comes
  have length : (events body).length = bs.length := by rw [comes, List.length_map]
  refine ⟨congrArg Prod.fst answers, length.ge, ?_⟩
  rw [answers, ← length, List.drop_length]
  exact left

end

/-! ## numbers -/

/-- what there may be at the head of bytes: how many of them it is, and what is answered -/
inductive Found (bs : List UInt8) : Nat → Except FrameError Nat → Prop where
  | number {n v : Nat} (there : n ≤ bs.length) (number : Varint.IsNumber (bs.take n) v) :
    Found bs n (.ok v)
  | overlong (overlong : Varint.Overlong (bs.take 10)) : Found bs 10 (.error .malformedVarint)
  | unfinished (unfinished : Varint.Unfinished bs) : Found bs bs.length (.error .unexpectedEnd)

theorem found_of_spells {n : Nat} {spelling : List UInt8} (h : Varint.Spells n spelling)
    (rest : List UInt8) : Found (spelling ++ rest) spelling.length (.ok n) := by
  refine .number ?_ ?_
  · rw [List.length_append]
    exact Nat.le_add_right _ _
  · rw [List.take_left]
    exact Varint.isNumber_iff.mpr h

theorem exists_found (bs : List UInt8) : ∃ n a, Found bs n a := by
  rcases Varint.spells_or_not bs with ⟨v, spelling, rest, spells, rfl⟩ | ⟨ten, rest, overlong, rfl⟩ |
      unfinished
  · exact ⟨_, _, found_of_spells spells rest⟩
  · refine ⟨10, _, .overlong ?_⟩
    rwa [← overlong.length, List.take_left]
  · exact ⟨_, _, .unfinished unfinished⟩

section
variable {bs : List UInt8} {body : Body} {n v : Nat} {a : Except FrameError Nat}

theorem Found.takes (h : Found bs n a) (comes : events body = bs.map .byte) : varint.Takes body n a := by
  -- what is behind the first bytes does not matter, unless they are all there are
  have split (m : Nat) : events body = (bs.take m).map .byte ++ (bs.drop m).map .byte := by
    rw [← List.map_append, List.take_append_drop, comes]
  cases h with
  | number there number =>
    have takes := (answers_varint (Varint.isNumber_iff.mp number).decode).takes (split n)
    rwa [List.length_take, Nat.min_eq_left there] at takes
  | overlong overlong =>
    have takes := (answers_varint_of_overlong overlong).takes (split 10)
    rwa [overlong.length] at takes
  | unfinished unfinished => exact (starves_varint unfinished).takes comes

theorem takes_varint_iff (comes : events body = bs.map .byte) :
    varint.Takes body n a ↔ Found bs n a := by
  refine ⟨fun takes => ?_, fun found => found.takes comes⟩
  obtain ⟨m, b, found⟩ := exists_found bs
  obtain ⟨rfl, rfl⟩ := takes.unique (found.takes comes)
  exact found

theorem found_number_iff : Found bs n (.ok v) ↔ n ≤ bs.length ∧ Varint.IsNumber (bs.take n) v := by
  constructor
  · intro found
    cases found with
    | number there number => exact ⟨there, number⟩
  · exact fun h => .number h.1 h.2

/-- the reader of payloads finds the same numbers -/
theorem decode_iff_found {rest : List UInt8} :
    Varint.decode bs = some (v, rest) ↔ ∃ n, rest = bs.drop n ∧ Found bs n (.ok v) := by
  rw [Varint.decode_eq_some_iff]
  constructor
  · rintro ⟨spelling, spells, rfl⟩
    exact ⟨spelling.length, List.drop_left.symm, found_of_spells spells rest⟩
  · rintro ⟨n, rfl, found⟩
    have number := (found_number_iff.mp found).2
    exact ⟨bs.take n, Varint.isNumber_iff.mp number, (List.take_append_drop n bs).symm⟩

end

/-- **Numbers are read exactly**, however the bytes come in pieces.  What is taken as a number are bytes with
their top bit set and one without it behind them, ten at most, and its value is the sum of their low bits by
place: below `2 ^ 64`, and the same if they are put together in a word.  Ten bytes of which the last is too
much are no number and are taken, and so are all of fewer than ten that promise more.  There is no other
outcome.  The reader of payloads takes the same numbers off the same bytes, and every word is read back from
its spelling with nothing behind it. -/
theorem numbers_read_exactly (bs : List UInt8) (body : Body) (comes : events body = bs.map .byte) :
    (∀ n v, varint.Takes body n (.ok v) ↔ n ≤ bs.length ∧ Varint.IsNumber (bs.take n) v) ∧
    (∀ n v, varint.Takes body n (.ok v) → v < 2 ^ 64 ∧ (Varint.word (bs.take n)).toNat = v) ∧
    (∀ n, varint.Takes body n (.error .malformedVarint) ↔ n = 10 ∧ Varint.Overlong (bs.take 10)) ∧
    (∀ n, varint.Takes body n (.error .unexpectedEnd) ↔ n = bs.length ∧ Varint.Unfinished bs) ∧
    (∃ n a, varint.Takes body n a ∧
      ((∃ v, a = .ok v) ∨ a = .error .malformedVarint ∨ a = .error .unexpectedEnd)) ∧
    (∀ v rest, Varint.decode bs = some (v, rest) ↔
      ∃ n, rest = bs.drop n ∧ varint.Takes body n (.ok v)) ∧
    ∀ (v : UInt64) (behind : List UInt8), bs = Varint.encode v.toNat ++ behind →
      Varint.decode bs = some (v.toNat, behind) ∧
        varint.Takes body (Varint.encode v.toNat).length (.ok v.toNat) := by
  simp only [takes_varint_iff comes]
  refine ⟨?_, ?_, ?_, ?_, ?_, ?_, ?_⟩
  · intro n v
    exact found_number_iff
  · rintro n v ⟨-, number⟩
    exact ⟨number.small, number.toNat_word⟩
  · intro n
    constructor
    · intro found
      cases found with
      | overlong overlong => exact ⟨rfl, overlong⟩
    · rintro ⟨rfl, overlong⟩
      exact .overlong overlong
  · intro n
    constructor
    · intro found
      cases found with
      | unfinished unfinished => exact ⟨rfl, unfinished⟩
    · rintro ⟨rfl, unfinished⟩
      exact .unfinished unfinished
  · obtain ⟨n, a, found⟩ := exists_found bs
    refine ⟨n, a, found, ?_⟩
    cases found with
    | number => exact .inl ⟨_, rfl⟩
    | overlong => exact .inr (.inl rfl)
    | unfinished => exact .inr (.inr rfl)
  · intro v rest
    exact decode_iff_found
  · rintro v behind rfl
    have small : v.toNat < UInt64.size := v.toNat_lt
    have spells := Varint.spells_of_decode (Varint.decode_encode_nil small)
    exact ⟨Varint.decode_encode small behind, found_of_spells spells behind⟩

/-- the largest number, in ten bytes, and a byte behind it -/
def largest : List UInt8 := List.replicate 9 255 ++ [1, 7]

/-- one bit too much -/
def beyond : List UInt8 := List.replicate 9 255 ++ [2, 7]

def largestInPieces : Body := [.bytes (largest.take 2), .bytes [], .bytes (largest.drop 2)]

theorem numbers_read_exactly_to_the_last_bit :
    events largestInPieces = largest.map .byte ∧
      varint.Takes largestInPieces 10 (.ok 18446744073709551615) ∧
      Varint.decode largest = some (18446744073709551615, [7]) ∧
      events (Body.ofBytes beyond) = beyond.map .byte ∧
      varint.Takes (Body.ofBytes beyond) 10 (.error .malformedVarint) ∧
      ∀ v rest, Varint.decode beyond ≠ some (v, rest) := by
  have comes : events largestInPieces = largest.map .byte := by decide
  have alone : events (Body.ofBytes beyond) = beyond.map .byte := events_ofBytes beyond
  have more : ∀ b ∈ List.replicate 9 (255 : UInt8), 128 ≤ b := by
    intro b hb
    rw [List.eq_of_mem_replicate hb]
    decide
  have largestNumber : Varint.IsNumber (largest.take 10) 18446744073709551615 :=
    ⟨more, ⟨1, by decide⟩, by decide, by decide⟩
  have tooLarge : Varint.Overlong (beyond.take 10) :=
    .intro (fun b hb => UInt8.not_lt.mpr (more b hb)) rfl (by decide : (1 : UInt8) < 2)
  obtain ⟨numbers, -, -, -, -, payloads, -⟩ := numbers_read_exactly largest _ comes
  obtain ⟨-, -, overlong, -, -, others, -⟩ := numbers_read_exactly beyond _ alone
  have takes := (numbers 10 _).mpr ⟨by decide, largestNumber⟩
  have refused := (overlong 10).mpr ⟨rfl, tooLarge⟩
  refine ⟨comes, takes, (payloads _ _).mpr ⟨10, rfl, takes⟩, alone, refused, ?_⟩
  intro v rest read
  obtain ⟨n, -, taken⟩ := (others v rest).mp read
  cases (taken.unique refused).2

end Decoder

end MockCollector
