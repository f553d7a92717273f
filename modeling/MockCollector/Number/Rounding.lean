/-!
# Rounding

* `roundHalfEven n d`      the whole number nearest to `n / d`; of two that are as near, the even one;
* `roundToBits k n`        the number nearest to `n` that has `k` binary digits and zeros behind them.
-/

namespace MockCollector

def roundHalfEven (n d : Nat) : Nat :=
  let low := n / d
  let twice := 2 * (n % d)
  if twice < d then low
  else if d < twice then low + 1
  else low + low % 2

def roundToBits (k n : Nat) : Nat :=
  let unit := Nat.pow 2 (n.log2 + 1 - k)
  roundHalfEven n unit * unit

theorem roundHalfEven_one (n : Nat) : roundHalfEven n 1 = n := by
  simp [roundHalfEven, Nat.mod_one]

/-- a number that has few enough digits is kept -/
theorem roundToBits_of_lt (k n : Nat) (h : n.log2 < k) : roundToBits k n = n := by
  have e : n.log2 + 1 - k = 0 := by omega
  simp [roundToBits, e, roundHalfEven_one]

end MockCollector
