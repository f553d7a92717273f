/-!
# What a terminal shows

Text in which the commands to a terminal are left out: controls that are not white space, and sequences
that an escape character opens.

* `Terminal.Mode`          what kind of sequence is under way;
* `Terminal.shown cs`      what is left of `cs`.

A sequence ends with its final character, one that carries a string with a terminator, and any sequence
where a new one begins.  White space shows within a sequence whose final character is still to come, and
what follows it shows up to the next control, where the sequence goes on.
-/

namespace MockCollector.Terminal

inductive Mode where
  | ground
  | escape
  /-- an escape character and characters that come before the final one -/
  | intermediate
  | control
  /-- a device control string has begun -/
  | device
  /-- parameters of a device control string -/
  | deviceParameters
  /-- characters that come before the final one of a device control string -/
  | deviceIntermediate
  /-- a string that is passed on or ignored -/
  | string
  /-- a command to the operating system, which a bell may end too -/
  | system
  deriving DecidableEq, Repr

def isSpace (c : Char) : Bool := c = '\t' ∨ c = '\n' ∨ c = '\x0c' ∨ c = '\r'

/-- whether `c` shows where no sequence is under way -/
def isShown (c : Char) : Bool := isSpace c ∨ (' ' ≤ c ∧ c ≠ '\x7f')

/-- the terminator is looked for byte by byte -/
def holdsTerminator (c : Char) : Bool := (String.utf8EncodeChar c).contains 0x9c

/-- the sequence that the character behind an escape character opens -/
def opened (c : Char) : Mode :=
  if c = '[' then .control
  else if c = ']' then .system
  else if c = 'P' then .device
  else if c = 'X' ∨ c = '^' ∨ c = '_' then .string
  else if ' ' ≤ c ∧ c ≤ '/' then .intermediate
  else if '0' ≤ c ∧ c ≤ '~' then .ground
  else .escape

/-- the mode behind `c`, and whether `c` shows -/
def Mode.next (m : Mode) (c : Char) : Mode × Bool :=
  if c = '\x1b' then (.escape, false)
  else if c = '\x18' ∨ c = '\x1a' then (.ground, false)
  else
    match m with
    | .ground => (.ground, isShown c)
    | .escape => (opened c, isSpace c)
    | .intermediate => (if '0' ≤ c ∧ c ≤ '~' then .ground else .intermediate, isSpace c)
    | .control => (if '@' ≤ c ∧ c ≤ '~' then .ground else .control, isSpace c)
    | .device =>
      (if '@' ≤ c ∧ c ≤ '~' then .string
        else if '0' ≤ c ∧ c ≤ '?' then .deviceParameters
        else if ' ' ≤ c ∧ c ≤ '/' then .deviceIntermediate
        else .device, false)
    | .deviceParameters =>
      (if '<' ≤ c ∧ c ≤ '~' then .string
        else if ' ' ≤ c ∧ c ≤ '/' then .deviceIntermediate
        else .deviceParameters, false)
    | .deviceIntermediate => (if '0' ≤ c ∧ c ≤ '~' then .string else .deviceIntermediate, false)
    | .string => (if holdsTerminator c then .ground else .string, false)
    | .system => (if c = '\x07' then .ground else .system, false)

/-- `showing` says whether the character before was shown; then only a control goes back to the mode, and
a character beyond ASCII ends it -/
def shownFrom : Mode → Bool → List Char → List Char
  | _, _, [] => []
  | m, showing, c :: cs =>
    if showing && isShown c then c :: shownFrom (if c.toNat < 128 then m else .ground) true cs
    else
      let (m, shows) := m.next c
      if shows then c :: shownFrom m true cs else shownFrom m false cs

def shown (s : String) : String := String.ofList (shownFrom .ground false s.toList)

end MockCollector.Terminal
