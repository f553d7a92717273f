import Mathlib.Algebra.Order.Field.Basic
import Mathlib.Algebra.Order.Field.Power
import Mathlib.Algebra.Order.Field.Rat
import Mathlib.Tactic.Linarith
import Mathlib.Tactic.Ring
import MockCollector.Number.Double
import MockCollector.Proofs.Number.Rounding
/-!
# What doubles denote

* `Double.rational?`             the number that a double is, exactly;
* `Double.rational?_eq_some_iff` as many units as `Double.scaled?` says, of which `Double.one` make one;
* `Double.onGrid_of_scaled?`     from one on, doubles are multiples of a `Double.grain`;
* `Double.natAbs_le_one`         so of two that are closer neither lies beyond one;
* `Double.shortened`             a whole number with its first fifty-three digits, rounded, which is the
                                 number itself if it is a double (`Double.shortened_of_rational?`).
-/

namespace MockCollector.Double

def rational? (d : Double) : Option ℚ :=
  match d.value with
  | .finite negative m q => some (signed negative m * 2 ^ q)
  | _ => none

/-- a whole number with its first fifty-three digits, rounded -/
def shortened (n : Int) : Int := n.sign * roundToBits (mantissaBits + 1) n.natAbs

variable {d : Double} {a b n z : Int} {x : ℚ}

/-! ## units -/

/-- the units that one is made of -/
@[irreducible] def one : Nat := Nat.pow 2 1074

/-- the distance of doubles just above one -/
@[irreducible] def grain : Nat := Nat.pow 2 1022

/-- by how much a difference may fall short of a grain and be rounded to it -/
@[irreducible] def dust : Nat := Nat.pow 2 968

theorem pow_split {i j k : Nat} (h : i + j = k) : Nat.pow 2 k = 2 ^ i * Nat.pow 2 j :=
  h ▸ Nat.pow_add 2 i j

-- powers as large as these are not evaluated, so the exponents are made variables

theorem one_eq : one = 2 ^ 52 * grain := by
  delta one grain
  generalize whole : 1074 = k
  generalize part : 1022 = j
  exact pow_split (by omega)

theorem grain_eq : grain = 2 ^ 54 * dust := by
  delta grain dust
  generalize whole : 1022 = k
  generalize part : 968 = j
  exact pow_split (by omega)

theorem dust_pos : 0 < dust := by
  delta dust
  generalize 968 = k
  exact Nat.two_pow_pos k

theorem one_pos : (0 : ℚ) < one := by
  have positive := dust_pos
  have split : one = 2 ^ 106 * dust := by
    rw [one_eq, grain_eq]
    omega
  rw [split]
  exact_mod_cast Nat.mul_pos (by norm_num) positive

/-! ## fractions -/

theorem value_finite {negative : Bool} {m : Nat} {q : Int} (h : d.value = .finite negative m q) :
    m < 2 ^ 53 ∧ ∃ e : Nat, q = leastExponent + e := by
  have small : d.bits.toNat % Nat.pow 2 mantissaBits < 2 ^ 52 := Nat.mod_lt _ (Nat.two_pow_pos 52)
  have first : Nat.pow 2 mantissaBits = 2 ^ 52 := rfl
  simp only [value] at h
  split at h
  · split at h <;> cases h
  · split at h
    · cases h
      exact ⟨by omega, 0, rfl⟩
    · cases h
      exact ⟨by omega, _, rfl⟩

theorem natAbs_signed (negative : Bool) (n : Nat) : (signed negative n).natAbs = n := by
  cases negative with
  | false => rfl
  | true => exact Int.natAbs_neg n

theorem signed_mul (negative : Bool) (m n : Nat) :
    signed negative (m * n) = signed negative m * n := by
  cases negative with
  | false => exact Int.natCast_mul m n
  | true => exact (congrArg Neg.neg (Int.natCast_mul m n)).trans (Int.neg_mul _ _).symm

theorem hasDigits_of_scaled? (h : d.scaled? = some z) : HasDigits 53 z.natAbs := by
  unfold scaled? at h
  split at h
  · rename_i negative m q hv
    cases h
    exact ⟨m, _, (value_finite hv).1, natAbs_signed _ _⟩
  · cases h

theorem unit_eq : (2 : ℚ) ^ leastExponent = 1 / one := by
  have negative : leastExponent = -((1074 : Nat) : Int) := rfl
  rw [negative]
  delta one
  generalize 1074 = k
  rw [zpow_neg, zpow_natCast, one_div]
  exact congrArg _ (Nat.cast_pow 2 k).symm

theorem rational?_eq (d : Double) : d.rational? = d.scaled?.map fun z : Int => (z : ℚ) / one := by
  unfold rational? scaled?
  cases hv : d.value with
  | finite negative m q =>
    obtain ⟨-, e, rfl⟩ := value_finite hv
    have shift : (leastExponent + (e : Int) - leastExponent).toNat = e := by omega
    show some _ = some _
    rw [shift, zpow_add₀ (by norm_num), signed_mul, unit_eq, zpow_natCast, Nat.pow_eq]
    refine congrArg some ?_
    push_cast
    ring
  | _ => rfl

theorem rational?_eq_some_iff : d.rational? = some x ↔ ∃ a : Int, d.scaled? = some a ∧ a / one = x := by
  rw [rational?_eq]
  exact Option.map_eq_some_iff

/-! ## doubles above one -/

/-- from one on only every so many units can be a double -/
def OnGrid (z : Int) : Prop := one ≤ z.natAbs → (grain : Int) ∣ z

theorem onGrid_of_scaled? (h : d.scaled? = some z) : OnGrid z := by
  intro large
  have digits := hasDigits_of_scaled? h
  rw [one_eq] at large
  obtain ⟨k, power⟩ : ∃ k, grain = 2 ^ k := by
    delta grain
    generalize 1022 = k
    exact ⟨k, rfl⟩
  rw [power] at large ⊢
  have long : 2 ^ (k + 53) ≤ 2 * z.natAbs := by
    rw [Nat.pow_add]
    omega
  exact Int.natCast_dvd.mpr (digits.dvd long)

/-- of two that are closer than a grain neither lies beyond one -/
theorem natAbs_le_one (ha : OnGrid a) (hb : OnGrid b) (differ : a ≠ b) (close : (a - b).natAbs < grain) :
    a.natAbs ≤ one := by
  by_contra beyond
  have hga : (grain : Int) ∣ a := ha (by omega)
  by_cases far : one ≤ b.natAbs
  · have divides : (grain : Int) ∣ a - b := Int.dvd_sub hga (hb far)
    have zero := Int.eq_zero_of_dvd_of_natAbs_lt_natAbs divides (by simpa using close)
    omega
  · have next : one + grain ≤ a.natAbs := by
      obtain ⟨j, hj⟩ := Int.natCast_dvd.mp hga
      rw [one_eq] at beyond ⊢
      rw [hj, Nat.mul_comm grain j] at beyond ⊢
      have more : 2 ^ 52 < j := lt_of_mul_lt_mul_right (Nat.not_le.mp beyond) (Nat.zero_le grain)
      rw [← Nat.succ_mul]
      exact Nat.mul_le_mul_right grain more
    omega

/-! ## whole numbers -/

theorem scaledOfInt_eq (n : Int) : scaledOfInt n = shortened n * one := by
  delta scaledOfInt shortened one
  generalize 1074 = k
  rw [Int.natCast_mul, Int.mul_assoc]

theorem onGrid_scaledOfInt (n : Int) : OnGrid (scaledOfInt n) := by
  intro _
  rw [scaledOfInt_eq, one_eq, Int.natCast_mul, ← Int.mul_assoc]
  exact Int.dvd_mul_left _ _

theorem natAbs_shortened (some : n ≠ 0) : (shortened n).natAbs = roundToBits 53 n.natAbs := by
  rw [shortened, Int.natAbs_mul, Int.natAbs_sign_of_ne_zero some, Nat.one_mul]
  rfl

theorem shortened_of_digits (h : HasDigits 53 n.natAbs) : shortened n = n := by
  have kept : roundToBits (mantissaBits + 1) n.natAbs = n.natAbs := h.roundToBits_eq
  rw [shortened, kept]
  exact Int.sign_mul_natAbs n

theorem shortened_of_short (short : n.natAbs ≤ 2 ^ 53) : shortened n = n :=
  shortened_of_digits (.of_le short (by decide))

theorem one_lt_shortened (long : 2 ^ 53 < n.natAbs) : 1 < (shortened n).natAbs := by
  have some : n.natAbs ≠ 0 := by omega
  have digits : 53 ≤ n.natAbs.log2 := (Nat.le_log2 some).mpr (Nat.le_of_lt long)
  calc 1 < 2 ^ 53 := by decide
    _ ≤ 2 ^ n.natAbs.log2 := Nat.pow_le_pow_right (by decide) digits
    _ ≤ roundToBits 53 n.natAbs := (roundToBits_bounds (by decide) some).1
    _ = (shortened n).natAbs := (natAbs_shortened (Int.natAbs_ne_zero.mp some)).symm

/-- a whole number that is a double is not rounded -/
theorem shortened_of_rational? (h : d.rational? = some (n : ℚ)) : shortened n = n := by
  obtain ⟨a, ha, same⟩ := rational?_eq_some_iff.mp h
  rw [div_eq_iff one_pos.ne'] at same
  have units : a.natAbs = n.natAbs * one := by
    rw [← Int.natAbs_natCast one, ← Int.natAbs_mul]
    exact congrArg Int.natAbs (by exact_mod_cast same)
  have digits := hasDigits_of_scaled? ha
  obtain ⟨k, power⟩ : ∃ k, one = 2 ^ k := by
    delta one
    generalize 1074 = k
    exact ⟨k, rfl⟩
  rw [units, power] at digits
  exact shortened_of_digits digits.of_mul_two_pow

end MockCollector.Double
