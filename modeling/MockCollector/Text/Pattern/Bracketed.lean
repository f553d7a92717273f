import MockCollector.Text.Pattern.Basic
/-!
# Classes in brackets

A class holds characters, ranges, kinds of characters and further classes, and `&&`, `--` and `~~`
between what it holds intersect, subtract, or keep what is on one side only.

* `Bracketed`              a class that is being read;
* `bracketed? flags cs`    how deep a class is nested that `cs` goes on with behind its opening bracket,
                           and what follows it.

A class that is about bytes holds no byte that is not a character by itself, so it cannot be negated.
-/

namespace MockCollector.Pattern

/-- a class that is being read; its parts are given by how deep they are nested -/
structure Bracketed where
  /-- what stands in front of the last operator, if there is one -/
  left : Option Nat
  items : List Nat
  /-- nothing but hyphens that stand for themselves has been read -/
  isLeading : Bool

namespace Bracketed

def empty : Bracketed := ⟨none, [], true⟩

def add (b : Bracketed) (n : Nat) : Bracketed := { b with items := n :: b.items, isLeading := false }

def operands (b : Bracketed) : Nat :=
  match b.left with
  | none => sideBySide b.items
  | some n => 1 + max n (sideBySide b.items)

/-- operators bind to the left -/
def operator (b : Bracketed) : Bracketed := ⟨some b.operands, [], false⟩

def nesting (b : Bracketed) : Nat := 1 + b.operands

end Bracketed

/-! ## items -/

def Flags.allowsMember (flags : Flags) (c : Char) : Bool :=
  !flags.foldsCharacters && (flags.unicode || c.toNat < 128)

def Flags.allowsNegation (flags : Flags) : Bool := flags.unicode

/-- a character of a class, or a kind of characters; what follows it -/
def item? (flags : Flags) : List Char → Option (Option Char × List Char)
  | [] => none
  | '\\' :: cs =>
    match escaped? flags cs with
    | some (.char c, rest) => if flags.allowsMember c then some (some c, rest) else none
    | some (.kind, rest) => some (none, rest)
    | _ => none
  | c :: cs => if flags.allowsMember c then some (some c, cs) else none

/-- the character that decides whether a hyphen in front makes a range; of comments, only the first hash
is left out -/
def Flags.peek (flags : Flags) (cs : List Char) : Option Char :=
  if flags.verbose then
    match cs.dropWhile isBlank with
    | '#' :: cs => (cs.dropWhile isBlank).head?
    | cs => cs.head?
  else cs.head?

/-- what follows one item or one range of a class; a range goes from a character to one that does not
come before it -/
def afterItems? (flags : Flags) (cs : List Char) : Option (List Char) := do
  let (low, rest) ← item? flags cs
  match flags.skip rest with
  | '-' :: more =>
    if flags.peek more = some ']' ∨ flags.peek more = some '-' then some ('-' :: more)
    else
      match low, ← item? flags (flags.skip more) with
      | some low, (some high, rest) => if low ≤ high then some rest else none
      | _, _ => none
  | rest => some rest

/-! ## named classes -/

def classNames : List String :=
  ["alnum", "alpha", "ascii", "blank", "cntrl", "digit", "graph", "lower", "print", "punct", "space",
    "upper", "word", "xdigit"]

/-- a name between colons, behind the bracket that opened it: whether a caret negates it, and what follows
its bracket -/
def named? : List Char → Option (Bool × List Char)
  | ':' :: cs =>
    let negated : Bool := cs.head? = some '^'
    let cs := if negated then cs.drop 1 else cs
    let name := cs.takeWhile (· ≠ ':')
    match cs.drop name.length with
    | ':' :: ']' :: rest => if classNames.contains (String.ofList name) then some (negated, rest) else none
    | _ => none
  | _ => none

def Flags.allowsNamed (flags : Flags) (negated : Bool) : Bool :=
  !flags.foldsCharacters && (!negated || flags.allowsNegation)

/-! ## classes -/

/-- what follows the caret of a class, or its opening bracket if it has none -/
def afterCaret? (flags : Flags) (cs : List Char) : Option (List Char) :=
  match flags.skip cs with
  | '^' :: rest => if flags.allowsNegation then some rest else none
  | rest => some rest

/-- what the next part of a class does to it -/
inductive Move where
  | goesOn (b : Bracketed)
  /-- a class inside it begins -/
  | opens
  | closes

/-- a closing bracket that nothing stands in front of is a member, as are hyphens that nothing else stands
in front of -/
def Bracketed.move? (flags : Flags) (b : Bracketed) : List Char → Option (Move × List Char)
  | [] => none
  | '[' :: cs =>
    match named? cs with
    | some (negated, rest) => if flags.allowsNamed negated then some (.goesOn (b.add 0), rest) else none
    | none => (afterCaret? flags cs).map fun rest => (.opens, rest)
  | ']' :: cs =>
    if b.isLeading ∧ b.items = [] then
      if flags.allowsMember ']' then some (.goesOn (b.add 0), cs) else none
    else some (.closes, cs)
  | '-' :: cs =>
    if b.isLeading then
      if flags.allowsMember '-' then some (.goesOn { b.add 0 with isLeading := true }, cs) else none
    else if cs.head? = some '-' then some (.goesOn b.operator, cs.drop 1)
    else (afterItems? flags ('-' :: cs)).map fun rest => (.goesOn (b.add 0), rest)
  | '&' :: '&' :: cs => some (.goesOn b.operator, cs)
  | '~' :: '~' :: cs => some (.goesOn b.operator, cs)
  | cs => (afterItems? flags cs).map fun rest => (.goesOn (b.add 0), rest)

/-- reads on in the class `b`, with `outer` the classes around it, the innermost first -/
def bracketedFrom? (flags : Flags) : Nat → Bracketed → List Bracketed → List Char → Option (Nat × List Char)
  | 0, _, _, _ => none
  | fuel + 1, b, outer, cs =>
    match b.move? flags (flags.skip cs), outer with
    | none, _ => none
    | some (.goesOn b, rest), outer => bracketedFrom? flags fuel b outer rest
    | some (.opens, rest), outer => bracketedFrom? flags fuel .empty (b :: outer) rest
    | some (.closes, rest), [] => some (b.nesting, rest)
    | some (.closes, rest), c :: outer => bracketedFrom? flags fuel (c.add b.nesting) outer rest

def bracketed? (flags : Flags) (cs : List Char) : Option (Nat × List Char) := do
  let rest ← afterCaret? flags cs
  bracketedFrom? flags (rest.length + 1) .empty [] rest

end MockCollector.Pattern
