import MockCollector.Message.Basic
import MockCollector.Store.Expected
/-!
# Matching tags

* `TagValue.fits v e`       whether the value `v` of a tag is what `e` asks for: text for text, be it
                            meant as JSON or not, a whole number for the same one, a truth value for the
                            same one, and a double for a number that lies close to it;
* `allTagsFit tags es`      whether each of `es` is met by some tag of its key.
-/

namespace MockCollector

/-- Two doubles are close if their difference, which is itself rounded to a double, is less than
`2 ^ (-52)`; and it is so rounded as soon as it is less than `2 ^ (-52) - 2 ^ (-106)`. -/
def closeness : Nat := Nat.pow 2 (1074 - 52) - Nat.pow 2 (1074 - 106)

/-- the number that `e` is, in the units of doubles; a whole number counts as the double nearest to it -/
def Expected.scaled? : Expected → Option Int
  | .int n => some (Double.scaledOfInt n)
  | .double d => d.scaled?
  | _ => none

def Double.isCloseTo (d : Double) (e : Expected) : Bool :=
  match d.scaled?, e.scaled? with
  | some x, some y => (x - y).natAbs < closeness
  | _, _ => false

def TagValue.fits (v : TagValue) (e : Expected) : Bool :=
  match v, e with
  | .string s, .string t => s == t
  | .json s, .string t => s == t
  | .int i, .int n => i.toInt == n
  | .double d, e => d.isCloseTo e
  | .bool b, .bool c => b == c
  | _, _ => false

/-- a tag without a value is of no use to anyone -/
def KeyValue.fits (tag : KeyValue) (expected : String × Expected) : Bool :=
  tag.key == expected.1 && tag.value.any fun v => v.fits expected.2

def allTagsFit (tags : List KeyValue) (expected : ExpectedTags) : Bool :=
  expected.all fun e => tags.any fun tag => tag.fits e

/-! ## all of some tags -/

theorem allTagsFit_append (tags : List KeyValue) (a b : ExpectedTags) :
    allTagsFit tags (a ++ b) = (allTagsFit tags a && allTagsFit tags b) := by
  simp [allTagsFit]

theorem allTagsFit_iff (tags : List KeyValue) (expected : ExpectedTags) :
    allTagsFit tags expected = true ↔ ∀ e ∈ expected, ∃ tag ∈ tags, tag.fits e = true := by
  simp [allTagsFit]

end MockCollector
