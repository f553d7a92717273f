import MockCollector.Number.Double
/-!
# Doubles with a fixed number of decimals

* `Double.placesText p d`   the exact value of `d`, rounded to `p` decimals, a half going to the even
                            neighbour.

The sign is written even when nothing else is left of the number.
-/

namespace MockCollector.Double

def signText (negative : Bool) : String := if negative then "-" else ""

/-- `n` with zeros in front, `width` digits at least -/
def padded (width n : Nat) : String :=
  let ds := Nat.toDigits 10 n
  String.ofList (List.replicate (width - ds.length) '0' ++ ds)

/-- `m * 2 ^ q * 10 ^ p`, rounded -/
def roundedPlaces (p m : Nat) (q : Int) : Nat :=
  roundHalfEven (m * Nat.pow 10 p * Nat.pow 2 q.toNat) (Nat.pow 2 (-q).toNat)

def placesText (p : Nat) (d : Double) : String :=
  match d.value with
  | .nan => "NaN"
  | .infinite negative => signText negative ++ "inf"
  | .finite negative m q =>
    let n := roundedPlaces p m q
    signText negative ++ toString (n / Nat.pow 10 p) ++ "." ++ padded p (n % Nat.pow 10 p)

end MockCollector.Double
