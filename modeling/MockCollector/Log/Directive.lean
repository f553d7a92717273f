import MockCollector.Number.Numeral
import MockCollector.Text.Letter
import MockCollector.Text.Pattern
/-!
# Directives of a log filter

A directive says how much of the log is shown: `info` of everything, `server=warn` of what comes from
targets that begin with `server`, and a bracket behind the target narrows it to lines inside a span, to
lines that have some field, or both.

* `Level`, `Verbosity`       how grave a line is, and up to where lines are shown;
* `Verbosity.ofText?`        the name or the number of a verbosity;
* `FieldFilter.parse?`       a field, and perhaps what its value has to be: a number or a pattern;
* `Directive.parse s`        reads a directive.

Blanks around a directive do not matter to where its parts are looked for.  But the parts are cut out of
the text as it is, as many bytes from its start as there are without the blanks, so blanks in front shift
them all.
-/

namespace MockCollector

/-- the numbers are those that stand for levels in a directive -/
inductive Level where
  | error
  | warn
  | info
  | debug
  | trace
  deriving DecidableEq, Repr

def Level.rank : Level → Nat
  | .error => 1
  | .warn => 2
  | .info => 3
  | .debug => 4
  | .trace => 5

/-- the most verbose rank that is shown; nothing is at zero -/
abbrev Verbosity := Nat

def verbosityNames : List (String × Verbosity) :=
  [("off", 0), ("error", 1), ("warn", 2), ("info", 3), ("debug", 4), ("trace", 5)]

/-- a name in any case, or a number up to five -/
def Verbosity.ofText? (cs : List Char) : Option Verbosity :=
  match (Numeral.natural (UInt64.size - 1) cs).toOption.filter (· ≤ 5) with
  | some n => some n
  | none => (verbosityNames.find? fun e => e.1 == (String.ofList cs).toLower).map Prod.snd

/-- everything is shown where nothing is said -/
def Verbosity.most : Verbosity := 5

/-! ## fields -/

structure FieldFilter where
  name : String
  hasValue : Bool
  deriving DecidableEq, Repr

/-- what follows an equals sign is the value, up to the next one -/
def FieldFilter.parse? (cs : List Char) : Option FieldFilter :=
  let name := cs.takeWhile (· ≠ '=')
  match cs.drop name.length with
  | [] => if name = [] then none else some ⟨String.ofList name, false⟩
  | _ :: rest =>
    let value := rest.takeWhile (· ≠ '=')
    if Numeral.isDecimal value || Pattern.isValid value then some ⟨String.ofList name, true⟩ else none

/-! ## places -/

inductive DirectiveError where
  | malformed
  /-- a part begins or ends within a character -/
  | brokenCharacter
  deriving DecidableEq, Repr

/-- the number of bytes of a text -/
def byteCount (cs : List Char) : Nat := cs.foldr (fun c n => c.utf8Size + n) 0

def dropBytes? : Nat → List Char → Option (List Char)
  | 0, cs => some cs
  | _, [] => none
  | n, c :: cs => if c.utf8Size ≤ n then dropBytes? (n - c.utf8Size) cs else none

def takeBytes? : Nat → List Char → Option (List Char)
  | 0, _ => some []
  | _, [] => none
  | n, c :: cs => if c.utf8Size ≤ n then (takeBytes? (n - c.utf8Size) cs).map (c :: ·) else none

/-- the part of a text from one place to another -/
def part (cs : List Char) (start stop : Nat) : Except DirectiveError (List Char) :=
  match (dropBytes? start cs).bind (takeBytes? (stop - start)) with
  | some p => .ok p
  | none => .error .brokenCharacter

/-! ## directives -/

structure Directive where
  /-- the beginning of the targets that it is about; all of them if it has none -/
  target : Option String
  /-- the span that lines have to be inside of -/
  span : Option String
  field : Option FieldFilter
  verbosity : Verbosity
  deriving DecidableEq, Repr

namespace Directive

/-- about everything -/
def ofVerbosity (v : Verbosity) : Directive := ⟨none, none, none, v⟩

def isOpening (c : Char) : Bool := isAlphanumeric c ∨ c = '-' ∨ c = ':' ∨ c = '_'

/-- reads the level of a directive, from `start` to the end -/
def withLevel (text : List Char) (start : Nat) (d : Directive) : Except DirectiveError Directive := do
  match ← part text start (byteCount text) with
  | [] => .ok d
  | cs =>
    match Verbosity.ofText? cs with
    | some v => .ok { d with verbosity := v }
    | none => .error .malformed

/-- reads what stands behind the closing bracket, at `start` -/
def afterBracket (text : List Char) (start : Nat) (rest : List Char) (d : Directive) :
    Except DirectiveError Directive :=
  match rest with
  | [] => .ok d
  | '=' :: _ => d.withLevel text (start + 1)
  | _ => .error .malformed

/-- reads what stands behind the opening brace, at `start` -/
def inBraces (text : List Char) (start : Nat) (rest : List Char) (d : Directive) :
    Except DirectiveError Directive :=
  let field := rest.takeWhile (· ≠ '\x7d')
  let stop := start + byteCount field
  match rest.drop field.length with
  | [] => .error .malformed
  | _ :: rest => do
    match FieldFilter.parse? (← part text start stop), rest with
    | some f, ']' :: rest => afterBracket text (stop + 2) rest { d with field := some f }
    | _, _ => .error .malformed

/-- reads what stands behind the opening bracket, at `start` -/
def inBrackets (text : List Char) (start : Nat) (rest : List Char) (d : Directive) :
    Except DirectiveError Directive :=
  let name := rest.takeWhile fun c => c ≠ ']' ∧ c ≠ '\x7b'
  let stop := start + byteCount name
  match rest.drop name.length with
  | [] => .error .malformed
  | ']' :: rest => do
    let span ← part text start stop
    afterBracket text (stop + 1) rest { d with span := some (String.ofList span) }
  | _ :: rest => do
    let span ← part text start stop
    inBraces text (stop + 1) rest
      (if span = [] then d else { d with span := some (String.ofList span) })

def parse (text : List Char) : Except DirectiveError Directive :=
  match trimmed text with
  | [] => .error .malformed
  | '[' :: rest => inBrackets text 1 rest (ofVerbosity .most)
  | c :: cs =>
    if !isOpening c then .error .malformed
    else
      let name := (c :: cs).takeWhile fun c => c ≠ '=' ∧ c ≠ '['
      let stop := byteCount name
      match (c :: cs).drop name.length with
      | [] =>
        match Verbosity.ofText? text with
        | some v => .ok (ofVerbosity v)
        | none => .ok { ofVerbosity .most with target := some (String.ofList text) }
      | next :: rest => do
        let target ← part text 0 stop
        let d := { ofVerbosity .most with target := some (String.ofList target) }
        if next = '=' then d.withLevel text (stop + 1) else inBrackets text (stop + 1) rest d

end Directive

end MockCollector
