import MockCollector.Text.Letter
import MockCollector.Text.Pattern.Basic
import MockCollector.Text.Pattern.Bracketed
/-!
# Search patterns

Which texts can be read as a pattern to search for.  Patterns are regular expressions without back
references, look-around, and what a table of characters would be needed for.

* `Pattern.Group`        a group that is being read, and `Pattern.Reading` all that is known of the part
                         that has been read;
* `Reading.next?`        reads one piece, repetition, bar or parenthesis;
* `Pattern.isValid cs`   whether `cs` is a pattern, which is nested no deeper than `maxNesting`.

A counted repetition has to be closed by a brace, and no pattern that is looked at here holds one behind an
opening brace, so an opening brace is only possible in a class.
-/

namespace MockCollector.Pattern

def maxNesting : Nat := 250

/-! ## what has been read -/

/-- a group that is being read; its parts are given by how deep they are nested -/
structure Group where
  /-- the flags that hold behind it -/
  outerFlags : Flags
  /-- the branches in front of the last bar -/
  branches : List Nat
  /-- the pieces of the last branch, the last one first -/
  pieces : List Nat

namespace Group

def empty (outerFlags : Flags) : Group := ⟨outerFlags, [], []⟩

def add (g : Group) (n : Nat) : Group := { g with pieces := n :: g.pieces }

def branch (g : Group) : Group := { g with branches := sideBySide g.pieces :: g.branches, pieces := [] }

def nesting (g : Group) : Nat := sideBySide (sideBySide g.pieces :: g.branches)

end Group

/-- how far a pattern has been read -/
structure Reading where
  flags : Flags
  /-- the names of groups -/
  names : List (List Char)
  /-- the innermost group, or the pattern itself -/
  group : Group
  /-- the groups around, the innermost first -/
  outer : List Group
  /-- the last thing is a piece that can be repeated -/
  canRepeat : Bool

namespace Reading

def atStart : Reading := ⟨.atStart, [], .empty .atStart, [], false⟩

/-- one more piece, which is nested `n` deep -/
def add (r : Reading) (n : Nat) : Reading := { r with group := r.group.add n, canRepeat := true }

def branch (r : Reading) : Reading := { r with group := r.group.branch, canRepeat := false }

/-- flags for the rest of the group are a piece that cannot be repeated -/
def change (r : Reading) (flags : Flags) : Reading :=
  { r with flags := flags, group := r.group.add 0, canRepeat := false }

/-- a group begins; no other one has its name -/
def enter? (r : Reading) (name : Option (List Char)) (flags : Flags) : Option Reading :=
  if name.any r.names.contains then none
  else
    some ⟨flags, name.toList ++ r.names, .empty r.flags, r.group :: r.outer, false⟩

/-- the innermost group ends, and the flags are those in front of it -/
def leave? (r : Reading) : Option Reading :=
  match r.outer with
  | [] => none
  | g :: outer =>
    some ⟨r.group.outerFlags, r.names, g.add (1 + r.group.nesting), outer, true⟩

/-- the last piece is repeated -/
def repeat? (r : Reading) : Option Reading :=
  match r.canRepeat, r.group.pieces with
  | true, n :: pieces => some { r with group := { r.group with pieces := (1 + n) :: pieces } }
  | _, _ => none

/-- no group is open -/
def isDone (r : Reading) : Bool := r.outer.isEmpty && r.group.nesting ≤ maxNesting

end Reading

/-! ## parentheses -/

/-- what a parenthesis opens -/
inductive Opening where
  | group (name : Option (List Char)) (flags : Flags)
  /-- flags for the rest of the group around -/
  | flags (flags : Flags)

def isNameChar (c : Char) : Bool := c = '_' ∨ c = '.' ∨ c = '[' ∨ c = ']' ∨ isAlphanumeric c

/-- reads the name of a group -/
def namedGroup? (flags : Flags) (cs : List Char) : Option (Opening × List Char) :=
  let name := cs.takeWhile isNameChar
  match name, cs.drop name.length with
  | c :: _, '>' :: rest =>
    if c = '_' ∨ isAlphabetic c then some (.group (some name) flags, rest) else none
  | _, _ => none

/-- reads flags, for a group or for the rest of the one around -/
def flagged? (flags : Flags) (cs : List Char) : Option (Opening × List Char) :=
  let named := cs.takeWhile fun c => c ≠ ':' ∧ c ≠ ')'
  match cs.drop named.length with
  | ':' :: rest => (flags.changed? named).map fun f => (.group none f, rest)
  | ')' :: rest => if named = [] then none else (flags.changed? named).map fun f => (.flags f, rest)
  | _ => none

/-- reads on behind an opening parenthesis -/
def opening? (flags : Flags) (cs : List Char) : Option (Opening × List Char) :=
  match flags.skip cs with
  | '?' :: 'P' :: '<' :: cs => namedGroup? flags cs
  | '?' :: '<' :: cs => namedGroup? flags cs
  | '?' :: cs => flagged? flags cs
  | cs => some (.group none flags, cs)

/-! ## patterns -/

/-- reads on behind `c`; a character by itself is a piece that stands for itself -/
def Reading.next? (r : Reading) (c : Char) (cs : List Char) : Option (Reading × List Char) :=
  match c with
  | '(' =>
    match opening? r.flags cs with
    | some (.flags f, rest) => some (r.change f, rest)
    | some (.group name f, rest) => (r.enter? name f).map fun r => (r, rest)
    | none => none
  | ')' => r.leave?.map fun r => (r, cs)
  | '|' => some (r.branch, cs)
  | '[' => (bracketed? r.flags cs).map fun e => (r.add e.1, e.2)
  | '\\' =>
    match escaped? r.flags cs with
    | some (.char _, rest) => if r.flags.foldsCharacters then none else some (r.add 0, rest)
    | some (_, rest) => some (r.add 0, rest)
    | none => none
  | '\x7b' => none
  | '.' => if r.flags.unicode then some (r.add 0, cs) else none
  | '^' => some (r.add 0, cs)
  | '$' => some (r.add 0, cs)
  | c =>
    if c = '?' ∨ c = '*' ∨ c = '+' then
      r.repeat?.map fun r => (r, if cs.head? = some '?' then cs.drop 1 else cs)
    else if r.flags.foldsCharacters then none
    else some (r.add 0, cs)

def isValidFrom : Nat → Reading → List Char → Bool
  | 0, _, _ => false
  | fuel + 1, r, cs =>
    match r.flags.skip cs with
    | [] => r.isDone
    | c :: cs =>
      match r.next? c cs with
      | some (r, rest) => isValidFrom fuel r rest
      | none => false

def isValid (cs : List Char) : Bool := isValidFrom (cs.length + 1) .atStart cs

end MockCollector.Pattern
