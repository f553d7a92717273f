/-!
# Request headers

* `Header`                a name with a value; a request may carry several of one name;
* `Headers.values`        the values of a name, in order, whatever its case;
* `Header.visible?`       a value as text, unless it holds anything but visible ASCII, spaces and tabs.
-/

namespace MockCollector

structure Header where
  name : String
  value : String
  deriving DecidableEq, Repr

def sameIgnoringCase (a b : String) : Bool := a.toLower == b.toLower

namespace Header

def isVisible (c : Char) : Bool := c = '\t' ∨ (' ' ≤ c ∧ c ≤ '~')

def visible? (value : String) : Option String :=
  if value.toList.all isVisible then some value else none

def isBlank (c : Char) : Bool := c = ' ' ∨ c = '\t'

/-- `cs` without the blanks at its ends -/
def trim (cs : List Char) : List Char :=
  ((cs.dropWhile isBlank).reverse.dropWhile isBlank).reverse

end Header

namespace Headers

def values (name : String) (hs : List Header) : List String :=
  (hs.filter fun h => sameIgnoringCase h.name name).map Header.value

/-- the items of the comma-separated lists under a name; an unreadable value counts for none -/
def items (name : String) (hs : List Header) : List String :=
  ((values name hs).filterMap Header.visible?).flatMap fun v =>
    (v.toList.splitOn ',').map fun cs => String.ofList (Header.trim cs)

end Headers

end MockCollector
