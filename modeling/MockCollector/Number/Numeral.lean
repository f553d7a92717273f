/-!
# Decimal numerals

How whole numbers are read from text that someone typed: digits, with one sign in front at most.

* `Numeral.natural limit cs`   a number up to `limit`;
* `Numeral.integer lo hi cs`   a number from `lo` to `hi`, of which a minus makes a negative one;
* `Numeral.isDecimal cs`       whether `cs` is a number with a fraction and an exponent, or without;
* `NumeralError`               what is wrong, and `NumeralError.message`.

A numeral is read from the left, so of a digit too many and a stray character the first one counts.
-/

namespace MockCollector

inductive NumeralError where
  | empty
  | invalidDigit
  | tooLarge
  | tooSmall
  deriving DecidableEq, Repr

def NumeralError.message : NumeralError → String
  | .empty => "cannot parse integer from empty string"
  | .invalidDigit => "invalid digit found in string"
  | .tooLarge => "number too large to fit in target type"
  | .tooSmall => "number too small to fit in target type"

namespace Numeral

/-- the value of a digit of a base up to sixteen, in either case -/
def digit? (base : Nat) (c : Char) : Option Nat :=
  let d :=
    if '0' ≤ c ∧ c ≤ '9' then some (c.toNat - '0'.toNat)
    else if 'a' ≤ c ∧ c ≤ 'f' then some (c.toNat - 'a'.toNat + 10)
    else if 'A' ≤ c ∧ c ≤ 'F' then some (c.toNat - 'A'.toNat + 10)
    else none
  d.filter (· < base)

/-- reads digits behind those of `value`, as long as the value stays within `limit` -/
def digitsFrom (limit : Nat) (beyond : NumeralError) : Nat → List Char → Except NumeralError Nat
  | value, [] => .ok value
  | value, c :: cs =>
    match digit? 10 c with
    | none => .error .invalidDigit
    | some d =>
      if 10 * value + d ≤ limit then digitsFrom limit beyond (10 * value + d) cs else .error beyond

/-- reads one digit or more -/
def digits (limit : Nat) (beyond : NumeralError) : List Char → Except NumeralError Nat
  | [] => .error .invalidDigit
  | cs => digitsFrom limit beyond 0 cs

def natural (limit : Nat) : List Char → Except NumeralError Nat
  | [] => .error .empty
  | '+' :: cs => digits limit .tooLarge cs
  | cs => digits limit .tooLarge cs

def integer (lo hi : Int) : List Char → Except NumeralError Int
  | [] => .error .empty
  | '+' :: cs => (digits hi.toNat .tooLarge cs).map Int.ofNat
  | '-' :: cs => (digits lo.natAbs .tooSmall cs).map fun n => -Int.ofNat n
  | cs => (digits hi.toNat .tooLarge cs).map Int.ofNat

/-! ## decimals -/

def withoutSign (cs : List Char) : List Char :=
  if cs.head? = some '+' ∨ cs.head? = some '-' then cs.drop 1 else cs

/-- nothing at all, or a whole number behind the letter -/
def isExponent : List Char → Bool
  | [] => true
  | c :: cs =>
    let ds := withoutSign cs
    (c = 'e' ∨ c = 'E') && !ds.isEmpty && ds.all Char.isDigit

/-- whether `cs` is a decimal number, an infinity or no number; a point needs a digit on one side -/
def isDecimal (cs : List Char) : Bool :=
  let cs := withoutSign cs
  let whole := cs.takeWhile Char.isDigit
  let rest := cs.drop whole.length
  let fraction := if rest.head? = some '.' then (rest.drop 1).takeWhile Char.isDigit else []
  let tail := if rest.head? = some '.' then rest.drop (fraction.length + 1) else rest
  ["nan", "inf", "infinity"].contains (String.ofList cs).toLower
    || (!(whole ++ fraction).isEmpty && isExponent tail)

end Numeral

end MockCollector
