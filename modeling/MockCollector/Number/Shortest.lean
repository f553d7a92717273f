import MockCollector.Number.Double
/-!
# Shortest decimals

The fewest digits that read back as the same double.

* `Reach m q`             the reals that round to `m * 2 ^ q`, as whole numbers over one denominator;
* `Reach.onGrid? r k`     the nearest multiple of `10 ^ k` among them;
* `shortestDigits m q`    the digits on the coarsest grid that has one, and the place of the last;
* `Double.shortestText`   the text: without an exponent from `0.00001` up to sixteen digits, and never
                          without a sign of being fractional.
-/

namespace MockCollector

/-- `low / unit` to `high / unit` around `mid / unit`; the ends belong to it if `closed` -/
structure Reach where
  low : Nat
  mid : Nat
  high : Nat
  unit : Nat
  closed : Bool
  deriving DecidableEq, Repr

namespace Reach

/-- the neighbour below is only half as far where the exponent changes -/
def of (m : Nat) (q : Int) : Reach :=
  let below := if m = Nat.pow 2 Double.mantissaBits ∧ Double.leastExponent < q then 1 else 2
  let scale := Nat.pow 2 (q - 2).toNat
  { low := (4 * m - below) * scale
    mid := 4 * m * scale
    high := (4 * m + 2) * scale
    unit := Nat.pow 2 (2 - q).toNat
    closed := m % 2 == 0 }

/-- the same reals in units of `10 ^ k` -/
def inTens (r : Reach) (k : Int) : Reach :=
  let s := Nat.pow 10 (-k).toNat
  ⟨r.low * s, r.mid * s, r.high * s, r.unit * Nat.pow 10 k.toNat, r.closed⟩

def contains (r : Reach) (n : Nat) : Bool :=
  if r.closed then r.low ≤ n * r.unit ∧ n * r.unit ≤ r.high
  else r.low < n * r.unit ∧ n * r.unit < r.high

/-- the whole number nearest to the middle, an even one if two are as near -/
def whole? (r : Reach) : Option Nat :=
  let near := roundHalfEven r.mid r.unit
  let other := if near * r.unit ≤ r.mid then near + 1 else near - 1
  [near, other].find? r.contains

def onGrid? (r : Reach) (k : Int) : Option Nat := (r.inTens k).whole?

/-- the number of digits in front of the point; zero or less if the first comes behind it -/
def magnitude (r : Reach) : Int :=
  if r.unit ≤ r.mid then (Nat.toDigits 10 (r.mid / r.unit)).length
  else -(((List.range 400).find? fun j => r.unit ≤ r.mid * Nat.pow 10 (j + 1)).getD 0)

end Reach

/-- no double needs more digits -/
def mostDigits : Nat := 17

def shortestDigits (m : Nat) (q : Int) : List Char × Int :=
  let r := Reach.of m q
  let found := (List.range mostDigits).findSome? fun i =>
    let k := r.magnitude - (i + 1 : Nat)
    (r.onGrid? k).map (·, k)
  match found with
  | none => ([], 0)
  | some (n, k) =>
    let ds := Nat.toDigits 10 n
    let kept := (ds.reverse.dropWhile (· = '0')).reverse
    (kept, k + (ds.length - kept.length : Nat))

/-- digits of which the last stands at `10 ^ k` -/
def decimalText (ds : List Char) (k : Int) : String :=
  let point := ds.length + k
  let zeros (n : Int) := List.replicate n.toNat '0'
  if 0 ≤ k ∧ point ≤ 16 then String.ofList (ds ++ zeros k) ++ ".0"
  else if 0 < point ∧ point ≤ 16 then
    String.ofList (ds.take point.toNat) ++ "." ++ String.ofList (ds.drop point.toNat)
  else if -5 < point ∧ point ≤ 0 then "0." ++ String.ofList (zeros (-point) ++ ds)
  else
    let tail := if ds.length ≤ 1 then "" else "." ++ String.ofList (ds.drop 1)
    let exponent := point - 1
    String.ofList (ds.take 1) ++ tail ++ "e" ++ (if exponent < 0 then "-" else "+")
      ++ toString exponent.natAbs

def Double.shortestText (d : Double) : String :=
  match d.value with
  | .nan => "NaN"
  | .infinite negative => if negative then "-inf" else "inf"
  | .finite negative m q =>
    let sign := if negative then "-" else ""
    if m = 0 then sign ++ "0.0"
    else
      let (ds, k) := shortestDigits m q
      sign ++ decimalText ds k

end MockCollector
