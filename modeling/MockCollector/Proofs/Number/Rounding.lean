import Mathlib.Data.Nat.Dist
import MockCollector.Number.Rounding
/-!
# What rounding gives

* `roundHalfEven_nearest`, `roundHalfEven_lt_iff`   the nearest multiple, and which numbers are rounded
                           below an even one;
* `HasDigits k n`          `n` has `k` binary digits, and zeros behind them;
* `hasDigits_roundToBits`, `roundToBits_nearest`   what is rounded to `k` digits has them, and no number
                           that has them is nearer, so that one which does is kept
                           (`HasDigits.roundToBits_eq`);
* `roundToBits_lt_iff`     which numbers are rounded below a power of two.
-/

namespace MockCollector

variable {d j k m n p q : Nat}

/-! ## to a multiple -/

theorem roundHalfEven_cases (n d : Nat) :
    (roundHalfEven n d = n / d ∧ 2 * (n % d) ≤ d) ∨
      (roundHalfEven n d = n / d + 1 ∧ d ≤ 2 * (n % d)) := by
  unfold roundHalfEven
  by_cases below : 2 * (n % d) < d
  · exact .inl ⟨if_pos below, Nat.le_of_lt below⟩
  · by_cases above : d < 2 * (n % d)
    · exact .inr ⟨(if_neg below).trans (if_pos above), Nat.le_of_lt above⟩
    · simp only [if_neg below, if_neg above]
      omega

/-- a multiple is not above the one below `n`, or not below the one above `n` -/
theorem mul_le_or_le_mul (j low d : Nat) : j * d ≤ low * d ∨ low * d + d ≤ j * d := by
  rcases Nat.lt_or_ge low j with more | less
  · right
    rw [← Nat.succ_mul]
    exact Nat.mul_le_mul_right d more
  · left
    exact Nat.mul_le_mul_right d less

theorem roundHalfEven_nearest (positive : 0 < d) (j : Nat) :
    Nat.dist n (roundHalfEven n d * d) ≤ Nat.dist n (j * d) := by
  have split : n / d * d + n % d = n := Nat.div_add_mod' n d
  have small : n % d < d := Nat.mod_lt n positive
  have side := mul_le_or_le_mul j (n / d) d
  unfold Nat.dist
  rcases roundHalfEven_cases n d with ⟨down, near⟩ | ⟨up, near⟩
  · rw [down]
    omega
  · rw [up, Nat.succ_mul]
    omega

/-- halfway below an even number is rounded up to it -/
theorem roundHalfEven_lt_iff (positive : 0 < d) (even : q % 2 = 0) :
    roundHalfEven n d < q ↔ 2 * n + d < 2 * (q * d) := by
  have split : n / d * d + n % d = n := Nat.div_add_mod' n d
  have small : n % d < d := Nat.mod_lt n positive
  rcases Nat.lt_trichotomy (n / d + 1) q with less | same | more
  · have enough : (n / d + 2) * d ≤ q * d := Nat.mul_le_mul_right d less
    have := roundHalfEven_cases n d
    rw [Nat.add_mul] at enough
    omega
  · have odd : n / d % 2 = 1 := by omega
    have up : ¬ 2 * (n % d) < d → roundHalfEven n d = n / d + 1 := by
      intro far
      unfold roundHalfEven
      simp only [if_neg far, odd, ite_self]
    have next : q * d = n / d * d + d := same ▸ Nat.succ_mul (n / d) d
    rcases roundHalfEven_cases n d with ⟨down, near⟩ | ⟨other, near⟩
    · by_cases below : 2 * (n % d) < d
      · omega
      · have := up below
        omega
    · omega
  · have : q * d ≤ n / d * d := Nat.mul_le_mul_right d (by omega)
    have := roundHalfEven_cases n d
    omega

/-! ## to some digits -/

def HasDigits (k n : Nat) : Prop := ∃ m e, m < 2 ^ k ∧ n = m * 2 ^ e

namespace HasDigits

/-- a long number has zeros behind its digits -/
theorem dvd (h : HasDigits k n) (long : 2 ^ (j + k) ≤ 2 * n) : 2 ^ j ∣ n := by
  obtain ⟨m, e, few, rfl⟩ := h
  refine (Nat.pow_dvd_pow 2 ?_).mul_left m
  by_contra less
  have short : 2 * (m * 2 ^ e) < 2 ^ (j + k) := by
    calc 2 * (m * 2 ^ e) < 2 * (2 ^ k * 2 ^ e) :=
          Nat.mul_lt_mul_of_pos_left (Nat.mul_lt_mul_of_pos_right few (Nat.two_pow_pos e)) (by decide)
      _ = 2 ^ (e + 1 + k) := by rw [← Nat.pow_add, ← Nat.pow_succ', show (k + e).succ = e + 1 + k by omega]
      _ ≤ 2 ^ (j + k) := Nat.pow_le_pow_right (by decide) (by omega)
  exact absurd long (Nat.not_le.mpr short)

/-- zeros behind it are no digits -/
theorem of_mul_two_pow (h : HasDigits k (n * 2 ^ j)) : HasDigits k n := by
  obtain ⟨m, e, few, same⟩ := h
  rcases Nat.le_total j e with coarse | fine
  · refine ⟨m, e - j, few, Nat.eq_of_mul_eq_mul_right (Nat.two_pow_pos j) ?_⟩
    rw [same, Nat.mul_assoc, ← Nat.pow_add, Nat.sub_add_cancel coarse]
  · have finer : 2 ^ e ≤ 2 ^ j := Nat.pow_le_pow_right (by decide) fine
    have less : n * 2 ^ e ≤ m * 2 ^ e := same ▸ Nat.mul_le_mul_left n finer
    refine ⟨n, 0, Nat.lt_of_le_of_lt ?_ few, (Nat.mul_one n).symm⟩
    exact Nat.le_of_mul_le_mul_right less (Nat.two_pow_pos e)

theorem of_le (h : n ≤ 2 ^ k) (some : 0 < k) : HasDigits k n := by
  rcases Nat.lt_or_eq_of_le h with less | rfl
  · exact ⟨n, 0, less, (Nat.mul_one n).symm⟩
  · exact ⟨1, k, Nat.one_lt_two_pow some.ne', (Nat.one_mul _).symm⟩

end HasDigits

theorem roundToBits_nearest (h : HasDigits k m) : Nat.dist n (roundToBits k n) ≤ Nat.dist n m := by
  obtain ⟨m, e, few, rfl⟩ := h
  let u := n.log2 + 1 - k
  have nearest (j : Nat) : Nat.dist n (roundToBits k n) ≤ Nat.dist n (j * 2 ^ u) :=
    roundHalfEven_nearest (Nat.two_pow_pos u) j
  rcases Nat.eq_zero_or_pos m with rfl | some
  · rw [Nat.zero_mul]
    exact Nat.zero_mul (2 ^ u) ▸ nearest 0
  by_cases fine : u ≤ e
  · have multiple : m * 2 ^ (e - u) * 2 ^ u = m * 2 ^ e := by
      rw [Nat.mul_assoc, ← Nat.pow_add, Nat.sub_add_cancel fine]
    exact multiple ▸ nearest (m * 2 ^ (e - u))
  · -- with a last digit as small as that it is below all numbers that are as long as `n`
    have digits : 0 < k := Nat.pos_of_ne_zero (by rintro rfl; omega)
    have long : n.log2 = k - 1 + u := by omega
    have least : 2 ^ n.log2 ≤ n := Nat.log2_self_le (by rintro rfl; simp at long; omega)
    have below : m * 2 ^ e ≤ 2 ^ n.log2 := by
      calc m * 2 ^ e ≤ 2 ^ k * 2 ^ e := Nat.mul_le_mul_right _ (Nat.le_of_lt few)
        _ = 2 ^ (k + e) := (Nat.pow_add 2 k e).symm
        _ ≤ 2 ^ n.log2 := Nat.pow_le_pow_right (by decide) (by omega)
    have near := nearest (2 ^ (k - 1))
    rw [← Nat.pow_add, ← long] at near
    unfold Nat.dist at near ⊢
    omega

theorem HasDigits.roundToBits_eq (h : HasDigits k n) : roundToBits k n = n := by
  have near := roundToBits_nearest (n := n) h
  rw [Nat.dist_self] at near
  exact (Nat.eq_of_dist_eq_zero (Nat.le_zero.mp near)).symm

/-- a number and what it is rounded to have as many digits, unless the latter is a power of two -/
theorem roundToBits_bounds (positive : 0 < k) (some : n ≠ 0) :
    2 ^ n.log2 ≤ roundToBits k n ∧ roundToBits k n ≤ 2 ^ (n.log2 + 1) := by
  have least : 2 ^ n.log2 ≤ n := Nat.log2_self_le some
  have most : n < 2 ^ (n.log2 + 1) := Nat.lt_log2_self
  by_cases short : n.log2 < k
  · rw [roundToBits_of_lt k n short]
    exact ⟨least, Nat.le_of_lt most⟩
  · let u := n.log2 + 1 - k
    have low : 2 ^ (k - 1) * 2 ^ u = 2 ^ n.log2 := by
      rw [← Nat.pow_add]
      congr 1
      omega
    have high : 2 ^ k * 2 ^ u = 2 ^ (n.log2 + 1) := by
      rw [← Nat.pow_add]
      congr 1
      omega
    have above : 2 ^ (k - 1) ≤ n / 2 ^ u := (Nat.le_div_iff_mul_le (Nat.two_pow_pos u)).mpr (low ▸ least)
    have below : n / 2 ^ u < 2 ^ k := (Nat.div_lt_iff_lt_mul (Nat.two_pow_pos u)).mpr (high ▸ most)
    have rounded := roundHalfEven_cases n (2 ^ u)
    have bounds : 2 ^ (k - 1) ≤ roundHalfEven n (2 ^ u) ∧ roundHalfEven n (2 ^ u) ≤ 2 ^ k := by omega
    rw [← low, ← high]
    exact ⟨Nat.mul_le_mul_right _ bounds.1, Nat.mul_le_mul_right _ bounds.2⟩

theorem hasDigits_roundToBits (positive : 0 < k) (n : Nat) : HasDigits k (roundToBits k n) := by
  by_cases short : n.log2 < k
  · rw [roundToBits_of_lt k n short]
    exact ⟨n, 0, Nat.lt_of_lt_of_le Nat.lt_log2_self (Nat.pow_le_pow_right (by decide) short),
      (Nat.mul_one n).symm⟩
  · let u := n.log2 + 1 - k
    have some : n ≠ 0 := by
      rintro rfl
      exact short (by simpa using positive)
    have high : roundHalfEven n (2 ^ u) * 2 ^ u ≤ 2 ^ k * 2 ^ u := by
      rw [← Nat.pow_add, show k + u = n.log2 + 1 by omega]
      exact (roundToBits_bounds positive some).2
    have digits := HasDigits.of_le (Nat.le_of_mul_le_mul_right high (Nat.two_pow_pos u)) positive
    obtain ⟨m, e, few, same⟩ := digits
    refine ⟨m, e + u, few, ?_⟩
    show roundHalfEven n (2 ^ u) * 2 ^ u = _
    rw [same, Nat.mul_assoc, Nat.pow_add]

theorem roundToBits_lt_iff (positive : 0 < k) (below : k < p) :
    roundToBits k n < 2 ^ p ↔ n < 2 ^ p - 2 ^ (p - k - 1) := by
  have half : 2 ^ p = 2 * 2 ^ (p - 1) := by
    rw [← Nat.pow_succ', Nat.succ_eq_add_one, Nat.sub_add_cancel (by omega)]
  have digit : 2 ^ (p - k - 1) ≤ 2 ^ (p - 1) := Nat.pow_le_pow_right (by decide) (by omega)
  have first : 0 < 2 ^ (p - 1) := Nat.two_pow_pos _
  rcases eq_or_ne n 0 with rfl | some
  · rw [roundToBits_of_lt k 0 (by simpa using positive)]
    omega
  have least : 2 ^ n.log2 ≤ n := Nat.log2_self_le some
  have most : n < 2 ^ (n.log2 + 1) := Nat.lt_log2_self
  obtain ⟨low, high⟩ := roundToBits_bounds positive some
  rcases Nat.lt_trichotomy (n.log2 + 1) p with shorter | same | longer
  · have : 2 ^ (n.log2 + 1) ≤ 2 ^ (p - 1) := Nat.pow_le_pow_right (by decide) (by omega)
    omega
  · -- here the last digit that is kept is `2 ^ (p - k)`, and half of it is enough to reach `2 ^ p`
    have last : 2 ^ (p - k) = 2 * 2 ^ (p - k - 1) := by
      rw [← Nat.pow_succ', Nat.succ_eq_add_one, Nat.sub_add_cancel (by omega)]
    have whole : 2 ^ k * 2 ^ (p - k) = 2 ^ p := by
      rw [← Nat.pow_add, Nat.add_sub_cancel' (Nat.le_of_lt below)]
    have even : 2 ^ k % 2 = 0 := by
      rw [show k = k - 1 + 1 by omega, Nat.pow_succ, Nat.mul_mod_left]
    have rounded := roundHalfEven_lt_iff (n := n) (Nat.two_pow_pos (p - k)) even
    have unit : roundToBits k n = roundHalfEven n (2 ^ (p - k)) * 2 ^ (p - k) := same ▸ rfl
    rw [unit, ← whole, Nat.mul_lt_mul_right (Nat.two_pow_pos (p - k)), rounded, whole]
    omega
  · have large : 2 ^ p ≤ 2 ^ n.log2 := Nat.pow_le_pow_right (by decide) (by omega)
    have less : 2 ^ p - 2 ^ (p - k - 1) ≤ 2 ^ p := Nat.sub_le _ _
    exact iff_of_false (Nat.not_lt.mpr (large.trans low)) (Nat.not_lt.mpr (less.trans (large.trans least)))

end MockCollector
