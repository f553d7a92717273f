import MockCollector.Number.Rounding
/-!
# Doubles

A double-precision number is kept as its sixty-four bits, so that every one of them survives, the
payload of a NaN and the sign of a zero among them.

* `Double.value`        what the bits denote;
* `Double.Value`        not a number, an infinity, or a sign with `m * 2 ^ q`;
* `Double.scaled?`      a finite value, exactly, in units of `2 ^ (-1074)`, of which each double is a
                        multiple;
* `scaledOfInt n`       the double nearest to a whole number, in those units.
-/

namespace MockCollector

structure Double where
  bits : UInt64
  deriving DecidableEq, Repr

namespace Double

inductive Value where
  | nan
  | infinite (negative : Bool)
  | finite (negative : Bool) (m : Nat) (q : Int)
  deriving DecidableEq, Repr

/-- the number of digits of the mantissa behind its first -/
def mantissaBits : Nat := 52

/-- the exponent of the smallest double above zero -/
def leastExponent : Int := -1074

def value (d : Double) : Value :=
  let n := d.bits.toNat
  let negative := decide (Nat.pow 2 63 ≤ n)
  let exponent := n / Nat.pow 2 mantissaBits % Nat.pow 2 11
  let fraction := n % Nat.pow 2 mantissaBits
  if exponent = 2047 then if fraction = 0 then .infinite negative else .nan
  else if exponent = 0 then .finite negative fraction leastExponent
  else .finite negative (Nat.pow 2 mantissaBits + fraction) (leastExponent + (exponent - 1 : Nat))

def isFinite (d : Double) : Bool :=
  match d.value with
  | .finite .. => true
  | _ => false

/-- `n` with the sign put back -/
def signed (negative : Bool) (n : Nat) : Int := if negative then -n else n

def scaled? (d : Double) : Option Int :=
  match d.value with
  | .finite negative m q => some (signed negative (m * Nat.pow 2 (q - leastExponent).toNat))
  | _ => none

def scaledOfInt (n : Int) : Int :=
  n.sign * (roundToBits (mantissaBits + 1) n.natAbs * Nat.pow 2 1074 : Nat)

end Double

end MockCollector
