import MockCollector.Proofs.Number.Double
import MockCollector.Store.TagMatch
/-!
# Which values a tag is taken to have

* `TagValue.Equals v e`    the tag has the value that is expected;
* `TagValue.PassesFor v e` it has another one and is taken for it all the same: both numbers are near zero
                           and near each other, or the whole number that is expected has so many digits that
                           some are rounded off;
* `Double.isCloseTo_iff_rounded`   when doubles are close, found out with doubles;
* `tag_values_that_fit`    a value fits if it is equal or passes for it, and not otherwise.
-/

namespace MockCollector

def Expected.rational? : Expected → Option ℚ
  | .int n => some n
  | .double d => d.rational?
  | _ => none

namespace TagValue

inductive Equals : TagValue → Expected → Prop where
  | string (s : String) : Equals (.string s) (.string s)
  | json (s : String) : Equals (.json s) (.string s)
  | int (i : Int64) : Equals (.int i) (.int i.toInt)
  | bool (b : Bool) : Equals (.bool b) (.bool b)
  | double {d : Double} {e : Expected} {x : ℚ} (hd : d.rational? = some x) (he : e.rational? = some x) :
    Equals (.double d) e

/-- two numbers between `-1` and `1` that are as close as that -/
structure Near (x y : ℚ) : Prop where
  left : |x| ≤ 1
  right : |y| ≤ 1
  close : |x - y| < 2 ^ (-52 : ℤ) - 2 ^ (-106 : ℤ)

inductive PassesFor : TagValue → Expected → Prop where
  | near {d : Double} {e : Expected} {x y : ℚ} (hd : d.rational? = some x) (he : e.rational? = some y)
    (differ : x ≠ y) (near : Near x y) : PassesFor (.double d) e
  | shortened {d : Double} {n : Int} (hd : d.rational? = some (Double.shortened n : ℚ))
    (differ : Double.shortened n ≠ n) : PassesFor (.double d) (.int n)

end TagValue

/-! ## doubles -/

namespace Double

variable {d c : Double} {e : Expected} {a b n : Int} {x y : ℚ}

theorem closeness_eq : closeness = grain - dust := by
  delta closeness grain dust
  generalize near : 1074 - 52 = i
  generalize off : 1074 - 106 = j
  generalize place : 1022 = k
  generalize half : 968 = l
  rw [show i = k by omega, show j = l by omega]

theorem closeness_bounds : 0 < closeness ∧ closeness < grain := by
  have some := dust_pos
  rw [closeness_eq, grain_eq]
  omega

theorem close_iff (ha : OnGrid a) (hb : OnGrid b) : (a - b).natAbs < closeness ↔
    a = b ∨ a.natAbs ≤ one ∧ b.natAbs ≤ one ∧ (a - b).natAbs < closeness := by
  obtain ⟨positive, less⟩ := closeness_bounds
  constructor
  · intro close
    by_cases same : a = b
    · exact .inl same
    · refine .inr ⟨natAbs_le_one ha hb same (close.trans less), ?_, close⟩
      refine natAbs_le_one hb ha (Ne.symm same) ?_
      rw [← Int.natAbs_neg, Int.neg_sub]
      exact close.trans less
  · rintro (rfl | ⟨-, -, close⟩)
    · rw [Int.sub_self]
      exact positive
    · exact close

theorem closeness_div_one : (closeness : ℚ) = (2 ^ (-52 : ℤ) - 2 ^ (-106 : ℤ)) * one := by
  have less : dust ≤ grain := by
    rw [grain_eq]
    omega
  rw [closeness_eq, Nat.cast_sub less, one_eq, grain_eq]
  push_cast
  ring

theorem abs_div_one_le (z : Int) : |(z : ℚ) / one| ≤ 1 ↔ z.natAbs ≤ one := by
  rw [abs_div, abs_of_pos one_pos, div_le_one one_pos, ← Int.cast_abs, ← Nat.cast_natAbs,
    Nat.cast_le]

theorem near_iff : TagValue.Near (a / one) (b / one) ↔
    a.natAbs ≤ one ∧ b.natAbs ≤ one ∧ (a - b).natAbs < closeness := by
  have close : |(a : ℚ) / one - b / one| < 2 ^ (-52 : ℤ) - 2 ^ (-106 : ℤ) ↔
      (a - b).natAbs < closeness := by
    rw [← sub_div, abs_div, abs_of_pos one_pos, div_lt_iff₀ one_pos, ← closeness_div_one,
      ← Int.cast_sub, ← Int.cast_abs, ← Nat.cast_natAbs, Nat.cast_lt]
  constructor
  · rintro ⟨left, right, near⟩
    exact ⟨(abs_div_one_le a).mp left, (abs_div_one_le b).mp right, close.mp near⟩
  · rintro ⟨left, right, near⟩
    exact ⟨(abs_div_one_le a).mpr left, (abs_div_one_le b).mpr right, close.mpr near⟩

theorem similar_iff (ha : OnGrid a) (hb : OnGrid b) : (a - b).natAbs < closeness ↔
    (a : ℚ) / one = b / one ∨ TagValue.Near (a / one) (b / one) := by
  rw [close_iff ha hb, near_iff, div_left_inj' one_pos.ne', Int.cast_inj]

theorem isCloseTo_iff : d.isCloseTo e = true ↔
    ∃ a b, d.scaled? = some a ∧ e.scaled? = some b ∧ (a - b).natAbs < closeness := by
  unfold isCloseTo
  constructor
  · intro close
    split at close
    · rename_i a b ha hb
      exact ⟨a, b, ha, hb, of_decide_eq_true close⟩
    · cases close
  · rintro ⟨a, b, ha, hb, close⟩
    rw [ha, hb]
    exact decide_eq_true close

/-- the difference is rounded to a double before it is looked at -/
theorem isCloseTo_iff_rounded : d.isCloseTo e = true ↔
    ∃ a b, d.scaled? = some a ∧ e.scaled? = some b ∧ roundToBits 53 (a - b).natAbs < grain := by
  have rounded (n : Nat) : roundToBits 53 n < grain ↔ n < closeness := by
    rw [closeness_eq]
    delta grain dust
    generalize place : 1022 = k
    generalize half : 968 = l
    obtain rfl : l = k - 53 - 1 := by omega
    exact roundToBits_lt_iff (by decide) (by omega)
  rw [isCloseTo_iff]
  simp only [rounded]

/-- two doubles -/
theorem isCloseTo_double_iff : d.isCloseTo (.double c) = true ↔
    ∃ x y, d.rational? = some x ∧ c.rational? = some y ∧ (x = y ∨ TagValue.Near x y) := by
  rw [isCloseTo_iff]
  constructor
  · rintro ⟨a, b, ha, hb, close⟩
    have hx := rational?_eq_some_iff.mpr ⟨a, ha, rfl⟩
    have hy := rational?_eq_some_iff.mpr ⟨b, hb, rfl⟩
    refine ⟨a / one, b / one, hx, hy, ?_⟩
    exact (similar_iff (onGrid_of_scaled? ha) (onGrid_of_scaled? hb)).mp close
  · rintro ⟨x, y, hx, hy, similar⟩
    obtain ⟨a, ha, rfl⟩ := rational?_eq_some_iff.mp hx
    obtain ⟨b, hb, rfl⟩ := rational?_eq_some_iff.mp hy
    refine ⟨a, b, ha, hb, ?_⟩
    exact (similar_iff (onGrid_of_scaled? ha) (onGrid_of_scaled? hb)).mpr similar

/-- a double and a whole number -/
theorem isCloseTo_int_iff : d.isCloseTo (.int n) = true ↔
    ∃ x, d.rational? = some x ∧ (x = Double.shortened n ∨ TagValue.Near x (Double.shortened n)) := by
  have taken : (scaledOfInt n : ℚ) / one = Double.shortened n := by
    rw [scaledOfInt_eq, Int.cast_mul, Int.cast_natCast, mul_div_assoc, div_self one_pos.ne', mul_one]
  rw [isCloseTo_iff, ← taken]
  constructor
  · rintro ⟨a, b, ha, hb, close⟩
    cases hb
    refine ⟨a / one, rational?_eq_some_iff.mpr ⟨a, ha, rfl⟩, ?_⟩
    exact (similar_iff (onGrid_of_scaled? ha) (onGrid_scaledOfInt n)).mp close
  · rintro ⟨x, hx, similar⟩
    obtain ⟨a, ha, rfl⟩ := rational?_eq_some_iff.mp hx
    refine ⟨a, _, ha, rfl, ?_⟩
    exact (similar_iff (onGrid_of_scaled? ha) (onGrid_scaledOfInt n)).mpr similar

end Double

namespace TagValue

variable {d : Double} {e : Expected} {n : Int} {v : TagValue} {x : ℚ}

theorem short_of_near (h : Near x (Double.shortened n) ∨ Near x n) : n.natAbs ≤ 2 ^ 53 := by
  by_contra long
  have size (z : Int) (small : |(z : ℚ)| ≤ 1) : z.natAbs ≤ 1 := by
    rw [← Int.cast_abs, ← Nat.cast_natAbs] at small
    exact_mod_cast small
  rcases h with near | near
  · have := size _ near.right
    have := Double.one_lt_shortened (Nat.not_le.mp long)
    omega
  · have := size _ near.right
    omega

theorem fits_double_iff : (TagValue.double d).fits e = true ↔
    (TagValue.double d).Equals e ∨ (TagValue.double d).PassesFor e := by
  show d.isCloseTo e = true ↔ _
  constructor
  · intro close
    cases e with
    | int n =>
      obtain ⟨x, hx, same | near⟩ := Double.isCloseTo_int_iff.mp close
      · rw [same] at hx
        by_cases kept : Double.shortened n = n
        · rw [kept] at hx
          exact .inl (.double hx rfl)
        · exact .inr (.shortened hx kept)
      · rw [Double.shortened_of_short (short_of_near (.inl near))] at near
        by_cases same : x = n
        · exact .inl (.double hx (congrArg some same.symm))
        · exact .inr (.near hx rfl same near)
    | double c =>
      obtain ⟨x, y, hx, hy, similar⟩ := Double.isCloseTo_double_iff.mp close
      by_cases same : x = y
      · exact .inl (.double hx (same ▸ hy))
      · exact .inr (.near hx hy same (similar.resolve_left same))
    | _ =>
      obtain ⟨a, b, -, hb, -⟩ := Double.isCloseTo_iff.mp close
      cases hb
  · rintro (equal | passes)
    · cases equal with
      | double hd he =>
        cases e with
        | int n =>
          cases he
          exact Double.isCloseTo_int_iff.mpr ⟨n, hd, .inl (by rw [Double.shortened_of_rational? hd])⟩
        | double c => exact Double.isCloseTo_double_iff.mpr ⟨_, _, hd, he, .inl rfl⟩
        | _ => cases he
    · cases passes with
      | near hd he differ near =>
        cases e with
        | int n =>
          cases he
          have kept := Double.shortened_of_short (short_of_near (.inr near))
          exact Double.isCloseTo_int_iff.mpr ⟨_, hd, .inr (kept.symm ▸ near)⟩
        | double c => exact Double.isCloseTo_double_iff.mpr ⟨_, _, hd, he, .inr near⟩
        | _ => cases he
      | shortened hd differ => exact Double.isCloseTo_int_iff.mpr ⟨_, hd, .inl rfl⟩

theorem fits_iff (v : TagValue) (e : Expected) : v.fits e = true ↔ v.Equals e ∨ v.PassesFor e := by
  cases v with
  | double d => exact fits_double_iff
  | string s =>
    constructor
    · intro fits
      cases e with
      | string t =>
        cases eq_of_beq fits
        exact .inl (.string s)
      | _ => cases fits
    · rintro (equal | passes)
      · cases equal
        exact beq_self_eq_true s
      · cases passes
  | json s =>
    constructor
    · intro fits
      cases e with
      | string t =>
        cases eq_of_beq fits
        exact .inl (.json s)
      | _ => cases fits
    · rintro (equal | passes)
      · cases equal
        exact beq_self_eq_true s
      · cases passes
  | int i =>
    constructor
    · intro fits
      cases e with
      | int n =>
        cases eq_of_beq fits
        exact .inl (.int i)
      | _ => cases fits
    · rintro (equal | passes)
      · cases equal
        exact beq_self_eq_true i.toInt
      · cases passes
  | bool b =>
    constructor
    · intro fits
      cases e with
      | bool c =>
        cases eq_of_beq fits
        exact .inl (.bool b)
      | _ => cases fits
    · rintro (equal | passes)
      · cases equal
        exact beq_self_eq_true b
      · cases passes

theorem PassesFor.not_equals (h : v.PassesFor e) : ¬ v.Equals e := by
  intro equal
  cases h with
  | near hd he differ near =>
    cases equal with
    | double hd' he' =>
      cases hd.symm.trans hd'
      cases he.symm.trans he'
      exact differ rfl
  | shortened hd differ =>
    cases equal with
    | double hd' he' =>
      cases he'
      exact differ (Int.cast_injective (Option.some.inj (hd.symm.trans hd')))

end TagValue

/-- **A tag fits if it has the key and a value that is equal to the expected one**, or that passes for it:
which only a double does that is neither, and then for a number close to it near zero, or for a whole number
of so many digits that it is rounded. -/
theorem tag_values_that_fit (tag : KeyValue) (key : String) (e : Expected) :
    (tag.fits (key, e) = true ↔
      tag.key = key ∧ ∃ v, tag.value = some v ∧ (v.Equals e ∨ v.PassesFor e)) ∧
    ∀ v : TagValue, ¬ (v.PassesFor e ∧ v.Equals e) := by
  constructor
  · rw [KeyValue.fits, Bool.and_eq_true, beq_iff_eq, Option.any_eq_true]
    apply and_congr Iff.rfl
    apply exists_congr
    intro v
    exact and_congr Iff.rfl (v.fits_iff e)
  · rintro v ⟨passes, equal⟩
    exact passes.not_equals equal

/-- `2 ^ (-63)` passes for zero, and `2 ^ 53` for the whole number above it -/
theorem values_that_fit_and_are_not_equal :
    ((TagValue.double ⟨0x3c00000000000000⟩).fits (.int 0) = true ∧
      ¬ (TagValue.double ⟨0x3c00000000000000⟩).Equals (.int 0)) ∧
    (TagValue.double ⟨0x4340000000000000⟩).fits (.int 9007199254740993) = true ∧
      ¬ (TagValue.double ⟨0x4340000000000000⟩).Equals (.int 9007199254740993) := by
  have tiny : Double.rational? ⟨0x3c00000000000000⟩ = some (2 ^ (-63 : ℤ)) := by
    have value : Double.value ⟨0x3c00000000000000⟩ = .finite false (2 ^ 52) (-115) := by decide +kernel
    rw [Double.rational?, value]
    norm_num [Double.signed]
  have large : Double.rational? ⟨0x4340000000000000⟩ = some ((9007199254740992 : Int) : ℚ) := by
    have value : Double.value ⟨0x4340000000000000⟩ = .finite false (2 ^ 52) 1 := by decide +kernel
    rw [Double.rational?, value]
    norm_num [Double.signed]
  have near : TagValue.Near (2 ^ (-63 : ℤ)) ((0 : Int) : ℚ) := by
    constructor <;> norm_num
  have shortened : Double.shortened 9007199254740993 = 9007199254740992 := by decide +kernel
  have passes : (TagValue.double ⟨0x3c00000000000000⟩).PassesFor (.int 0) :=
    .near tiny rfl (by norm_num) near
  have passesToo : (TagValue.double ⟨0x4340000000000000⟩).PassesFor (.int 9007199254740993) :=
    .shortened (shortened ▸ large) (by rw [shortened]; decide)
  have fits {v : TagValue} {e : Expected} (h : v.PassesFor e) : v.fits e = true ∧ ¬ v.Equals e :=
    ⟨(v.fits_iff e).mpr (.inr h), h.not_equals⟩
  exact ⟨fits passes, fits passesToo⟩

end MockCollector
