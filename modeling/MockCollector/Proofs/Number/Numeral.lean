import MockCollector.Number.Numeral
/-!
# Spellings of a whole number

Which text is a numeral, said without a reader.

* `Numeral.IsDigits n ds`     `ds` are decimal digits, one or more, of the value `n`;
* `Numeral.Spells n cs`       they stand alone, or with a plus in front;
* `Numeral.natural_eq_ok_iff` a number is read off a text exactly if the text spells it and it is within
                              the limit.
-/

namespace MockCollector.Numeral

structure IsDigits (n : Nat) (ds : List Char) : Prop where
  digits : ∀ c ∈ ds, c.isDigit = true
  some : ds ≠ []
  value_eq : Nat.ofDigitChars 10 ds 0 = n

inductive Spells (n : Nat) : List Char → Prop where
  | plain {ds : List Char} (h : IsDigits n ds) : Spells n ds
  | plus {ds : List Char} (h : IsDigits n ds) : Spells n ('+' :: ds)

variable {limit n value : Nat} {c : Char} {cs : List Char} {beyond : NumeralError}

/-! ## digits -/

theorem isDigit_iff : c.isDigit = true ↔ '0' ≤ c ∧ c ≤ '9' := by
  rw [Char.isDigit, Bool.and_eq_true, decide_eq_true_iff, decide_eq_true_iff]
  rfl

theorem toNat_lt_of_isDigit (h : c.isDigit = true) : c.toNat - '0'.toNat < 10 := by
  have high : c.toNat ≤ '9'.toNat := (isDigit_iff.mp h).2
  have : '9'.toNat = '0'.toNat + 9 := rfl
  omega

theorem digit?_of_isDigit (h : c.isDigit = true) : digit? 10 c = some (c.toNat - '0'.toNat) := by
  rw [digit?, if_pos (isDigit_iff.mp h)]
  exact Option.filter_some_pos (decide_eq_true (toNat_lt_of_isDigit h))

/-- a letter stands for ten at least -/
theorem digit?_of_not_isDigit (h : ¬ c.isDigit = true) : digit? 10 c = none := by
  rw [isDigit_iff] at h
  rw [digit?, if_neg h]
  split
  · simp
  · split <;> simp

/-! ## reading -/

theorem le_ofDigitChars (cs : List Char) (value : Nat) : value ≤ Nat.ofDigitChars 10 cs value := by
  induction cs generalizing value with
  | nil => exact Nat.le_refl _
  | cons c cs ih =>
    rw [Nat.ofDigitChars_cons]
    have := ih (10 * value + (c.toNat - '0'.toNat))
    omega

/-- a value that has become too large does not become smaller again -/
theorem digitsFrom_eq_ok_iff (within : value ≤ limit) : digitsFrom limit beyond value cs = .ok n ↔
    (∀ c ∈ cs, c.isDigit = true) ∧ Nat.ofDigitChars 10 cs value = n ∧ n ≤ limit := by
  induction cs generalizing value with
  | nil =>
    rw [digitsFrom, Nat.ofDigitChars_nil, Except.ok.injEq]
    constructor
    · rintro rfl
      exact ⟨fun _ h => absurd h List.not_mem_nil, rfl, within⟩
    · exact fun h => h.2.1
  | cons c cs ih =>
    rw [digitsFrom, List.forall_mem_cons, Nat.ofDigitChars_cons]
    by_cases digit : c.isDigit = true
    · rw [digit?_of_isDigit digit]
      by_cases fits : 10 * value + (c.toNat - '0'.toNat) ≤ limit
      · simp only [if_pos fits]
        rw [ih fits]
        exact ⟨fun ⟨rest, read⟩ => ⟨⟨digit, rest⟩, read⟩, fun ⟨⟨_, rest⟩, read⟩ => ⟨rest, read⟩⟩
      · simp only [if_neg fits]
        have grown := le_ofDigitChars cs (10 * value + (c.toNat - '0'.toNat))
        refine ⟨fun h => (by cases h), fun ⟨_, read, small⟩ => absurd ?_ fits⟩
        omega
    · rw [digit?_of_not_isDigit digit]
      exact ⟨fun h => (by cases h), fun h => absurd h.1.1 digit⟩

theorem digits_eq_ok_iff : digits limit beyond cs = .ok n ↔ IsDigits n cs ∧ n ≤ limit := by
  cases cs with
  | nil => exact ⟨fun h => (by cases h), fun h => absurd rfl h.1.some⟩
  | cons c cs =>
    rw [digits, digitsFrom_eq_ok_iff (Nat.zero_le _)]
    · exact ⟨fun ⟨all, read, small⟩ => ⟨⟨all, List.cons_ne_nil _ _, read⟩, small⟩,
        fun ⟨h, small⟩ => ⟨h.digits, h.value_eq, small⟩⟩
    · exact List.cons_ne_nil _ _

/-- a plus is no digit, so a text is spelt in one way at most -/
theorem spells_plus_iff : Spells n ('+' :: cs) ↔ IsDigits n cs := by
  refine ⟨fun h => ?_, .plus⟩
  cases h with
  | plain h => exact absurd (h.digits '+' List.mem_cons_self) (by decide)
  | plus h => exact h

theorem spells_iff (other : cs.head? ≠ some '+') : Spells n cs ↔ IsDigits n cs := by
  refine ⟨fun h => ?_, .plain⟩
  cases h with
  | plain h => exact h
  | plus => exact absurd rfl other

theorem natural_eq_ok_iff : natural limit cs = .ok n ↔ Spells n cs ∧ n ≤ limit := by
  unfold natural
  split
  · refine ⟨fun h => (by cases h), fun ⟨spelt, _⟩ => ?_⟩
    exact absurd rfl ((spells_iff (by decide)).mp spelt).some
  · rw [digits_eq_ok_iff, spells_plus_iff]
  · rename_i other
    rw [digits_eq_ok_iff, spells_iff]
    intro head
    obtain ⟨ds, rfl⟩ := List.head?_eq_some_iff.mp head
    exact other ds rfl

end MockCollector.Numeral
