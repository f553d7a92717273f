import MockCollector.Number.Shortest
import MockCollector.Text.Quoted
/-!
# Expected values

The values that a tag may be asked to have: whatever JSON can say.

* `Expected`               a value, whose numbers are whole numbers or doubles;
* `Expected.ofDouble`      JSON has no NaN and no infinities, so they come to nothing;
* `Expected.ofEntries`     an object, its entries in the order of their keys, the last of equal keys kept;
* `Expected.text`          how a value is shown in a message.
-/

namespace MockCollector

inductive Expected where
  | null
  | bool (b : Bool)
  | int (n : Int)
  | double (d : Double)
  | string (s : String)
  | list (xs : List Expected)
  | object (entries : List (String × Expected))

namespace Expected

def ofDouble (d : Double) : Expected := if d.isFinite then .double d else .null

/-- puts an entry into its place, where it replaces one of the same key -/
def insertEntry (k : String) (v : Expected) : List (String × Expected) → List (String × Expected)
  | [] => [(k, v)]
  | e :: es =>
    if k < e.1 then (k, v) :: e :: es
    else if k = e.1 then (k, v) :: es
    else e :: insertEntry k v es

def ofEntries (es : List (String × Expected)) : Expected :=
  .object (es.foldl (fun entries e => insertEntry e.1 e.2 entries) [])

mutual

def text : Expected → String
  | .null => "Null"
  | .bool b => "Bool(" ++ toString b ++ ")"
  | .int n => "Number(" ++ toString n ++ ")"
  | .double d => "Number(" ++ d.shortestText ++ ")"
  | .string s => "String(" ++ quoted s ++ ")"
  | .list xs => "Array [" ++ ", ".intercalate (texts xs) ++ "]"
  | .object es => "Object \x7b" ++ ", ".intercalate (entryTexts es) ++ "\x7d"

def texts : List Expected → List String
  | [] => []
  | x :: xs => text x :: texts xs

def entryTexts : List (String × Expected) → List String
  | [] => []
  | (k, v) :: es => (quoted k ++ ": " ++ text v) :: entryTexts es

end

end Expected

/-- tags that are asked for, in the order in which they were named -/
abbrev ExpectedTags := List (String × Expected)

def ExpectedTags.text (tags : ExpectedTags) : String :=
  "[" ++ ", ".intercalate (tags.map fun t => "(" ++ quoted t.1 ++ ", " ++ t.2.text ++ ")") ++ "]"

end MockCollector
