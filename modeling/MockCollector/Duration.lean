/-!
# Durations

A length of time, exact to the nanosecond.

* `Duration.text d`   `d` in the largest of `s`, `ms`, `µs` and `ns` of which it has a whole one, with as
                      many decimals as it takes and no more.
-/

namespace MockCollector

structure Duration where
  nanos : Nat
  deriving DecidableEq, Repr

namespace Duration

def ofSeconds (s : Nat) (nanos : Nat) : Duration := ⟨s * 1_000_000_000 + nanos⟩

def ofMillis (ms : Nat) : Duration := ⟨ms * 1_000_000⟩

/-- the whole milliseconds of `d` -/
def toMillis (d : Duration) : Nat := d.nanos / 1_000_000

/-- the digits of the fraction `r / 10 ^ places` up to the last that is not zero -/
def fraction : Nat → Nat → List Char
  | 0, _ => []
  | places + 1, r =>
    if r = 0 then [] else Nat.digitChar (r / Nat.pow 10 places) :: fraction places (r % Nat.pow 10 places)

/-- `n / 10 ^ places`, exactly -/
def decimal (places n : Nat) : String :=
  let r := n % Nat.pow 10 places
  if r = 0 then toString (n / Nat.pow 10 places)
  else toString (n / Nat.pow 10 places) ++ "." ++ String.ofList (fraction places r)

def text (d : Duration) : String :=
  if 1_000_000_000 ≤ d.nanos then decimal 9 d.nanos ++ "s"
  else if 1_000_000 ≤ d.nanos then decimal 6 d.nanos ++ "ms"
  else if 1000 ≤ d.nanos then decimal 3 d.nanos ++ "µs"
  else decimal 0 d.nanos ++ "ns"

end Duration

end MockCollector
