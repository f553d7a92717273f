import MockCollector.Number.Numeral
import MockCollector.Text.Letter
/-!
# Flags and single characters of a pattern

Flags say how a pattern is read, from where they are set to the end of the group around.  A pattern is
about characters, or about bytes if it is not Unicode, and what it finds is always whole characters.
There is no table of characters: a Unicode pattern knows no cases, no kinds of characters and no words.

* `Flags`                the flags that matter to whether a pattern is one;
* `Flags.changed? cs`    the flags with those set and cleared that `cs` names;
* `Flags.skip cs`        what is left behind blanks and comments, in a verbose pattern;
* `escaped? flags cs`    what stands behind a backslash.
-/

namespace MockCollector.Pattern

/-! ## flags -/

structure Flags where
  /-- letters are taken to be of either case -/
  ignoresCase : Bool
  unicode : Bool
  /-- blanks and comments do not count -/
  verbose : Bool
  deriving DecidableEq, Repr

namespace Flags

def atStart : Flags := ⟨false, true, false⟩

/-- the flag that `c` names, set to `on`; the others make no difference here -/
def put (on : Bool) (flags : Flags) (c : Char) : Flags :=
  if c = 'i' then { flags with ignoresCase := on }
  else if c = 'u' then { flags with unicode := on }
  else if c = 'x' then { flags with verbose := on }
  else flags

/-- each flag is named at most once, and those behind a hyphen, of which there is at least one, are
cleared -/
def changed? (flags : Flags) (cs : List Char) : Option Flags :=
  if cs.all (fun c => "imsUuRx-".contains c) ∧ cs.eraseDups.length = cs.length
      ∧ cs.getLast? ≠ some '-' then
    let set := cs.takeWhile (· ≠ '-')
    some ((cs.drop set.length).foldl (put false) (set.foldl (put true) flags))
  else none

/-- without a table of cases, no character can be taken to be of either case -/
def foldsCharacters (flags : Flags) : Bool := flags.unicode && flags.ignoresCase

/-- what is left behind blanks and comments, of which one may be under way; a comment goes from a hash to
the end of the line -/
def afterSpace : Bool → List Char → List Char
  | _, [] => []
  | true, c :: cs => afterSpace (c ≠ '\n') cs
  | false, c :: cs =>
    if c = '#' then afterSpace true cs
    else if isBlank c then afterSpace false cs
    else c :: cs

def skip (flags : Flags) (cs : List Char) : List Char :=
  if flags.verbose then afterSpace false cs else cs

end Flags

/-! ## escapes -/

/-- what a backslash and what follows it stand for -/
inductive Escaped where
  | char (c : Char)
  /-- any character of some kind -/
  | kind
  /-- a place in the text -/
  | place

/-- reads on in a number with so many more hexadecimal digits -/
def hexadecimal? (flags : Flags) : Nat → Nat → List Char → Option (Nat × List Char)
  | 0, n, cs => some (n, cs)
  | count + 1, n, cs =>
    match flags.skip cs with
    | [] => none
    | c :: cs => (Numeral.digit? 16 c).bind fun d => hexadecimal? flags count (16 * n + d) cs

/-- a character that is given by its number -/
def numbered? (flags : Flags) (count : Nat) (cs : List Char) : Option (Char × List Char) := do
  let (n, rest) ← hexadecimal? flags count 0 cs
  if n.isValidChar then some (Char.ofNat n, rest) else none

/-- reads on behind a backslash; two digits give a byte where the pattern is about bytes, and the byte has
to be a character -/
def escaped? (flags : Flags) : List Char → Option (Escaped × List Char)
  | [] => none
  | c :: cs =>
    match c with
    | 'x' => do
      let (c, rest) ← numbered? flags 2 cs
      if flags.unicode ∨ c.toNat < 128 then some (.char c, rest) else none
    | 'u' => (numbered? flags 4 cs).map fun e => (.char e.1, e.2)
    | 'U' => (numbered? flags 8 cs).map fun e => (.char e.1, e.2)
    | 'a' => some (.char '\x07', cs)
    | 'f' => some (.char '\x0c', cs)
    | 'n' => some (.char '\n', cs)
    | 'r' => some (.char '\r', cs)
    | 't' => some (.char '\t', cs)
    | 'v' => some (.char '\x0b', cs)
    | c =>
      if "Az".contains c then some (.place, cs)
      else if "bB<>".contains c then if flags.unicode then none else some (.place, cs)
      else if "dsw".contains c then if flags.unicode then none else some (.kind, cs)
      else if c.toNat < 128 ∧ !c.isAlphanum then some (.char c, cs)
      else none

/-! ## nesting -/

/-- how deep parts are nested that stand side by side; a single one is no deeper for it -/
def sideBySide : List Nat → Nat
  | [] => 0
  | [n] => n
  | ns => 1 + ns.foldr max 0

end MockCollector.Pattern
