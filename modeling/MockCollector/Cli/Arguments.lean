import MockCollector.Number.Numeral
import MockCollector.Settings
import MockCollector.Text.Terminal
/-!
# The command line

One port, with options for the host, the capacity of the queue, the delay of throttled streams and the
level of the log.

* `Options.parse args`    the options, or why there is nothing to run;
* `Usage`                 the request for help, and the mistakes;
* `Usage.message`         the first line that tells of a mistake, with what a terminal shows of arguments.

Arguments are read from the left.  A value is only looked at once the argument behind it has been
recognised, so an argument that nobody knows is reported before a bad value right in front of it.
-/

namespace MockCollector

/-- what can be set -/
inductive Parameter where
  | port
  | host
  | queueCapacity
  | throttleDelay
  | logLevel
  deriving DecidableEq, Repr

namespace Parameter

def text : Parameter → String
  | .port => "<PORT>"
  | .host => "--host <HOST>"
  | .queueCapacity => "--queue-capacity <QUEUE_CAPACITY>"
  | .throttleDelay => "--throttle-delay-ms <THROTTLE_DELAY_MS>"
  | .logLevel => "--log-level <LOG_LEVEL>"

/-- the option of a name -/
def ofName? : String → Option Parameter
  | "host" => some .host
  | "queue-capacity" => some .queueCapacity
  | "throttle-delay-ms" => some .throttleDelay
  | "log-level" => some .logLevel
  | _ => none

end Parameter

inductive Usage where
  | help
  | unexpected (argument : String)
  | unwantedValue (value : String)
  | noValue (p : Parameter)
  | badValue (p : Parameter) (value cause : String)
  | repeated (p : Parameter)
  | noPort
  deriving DecidableEq, Repr

def Usage.message : Usage → String
  | .help => "Mock trace satellite for exercising tracer clients"
  | .unexpected argument =>
    "error: unexpected argument '" ++ Terminal.shown argument ++ "' found"
  | .unwantedValue value =>
    "error: unexpected value '" ++ Terminal.shown value
      ++ "' for '--help' found; no more were expected"
  | .noValue p => "error: a value is required for '" ++ p.text ++ "' but none was supplied"
  | .badValue p value cause =>
    "error: invalid value '" ++ Terminal.shown value ++ "' for '" ++ p.text ++ "': " ++ cause
  | .repeated p => "error: the argument '" ++ p.text ++ "' cannot be used multiple times"
  | .noPort => "error: the following required arguments were not provided:"

structure Options where
  settings : Settings
  logLevel : String
  deriving DecidableEq, Repr

/-- what has been set so far -/
structure Given where
  port : Option UInt16
  host : Option IpAddress
  queueCapacity : Option Nat
  throttleDelay : Option Nat
  logLevel : Option String
  deriving DecidableEq, Repr

namespace Given

def nothing : Given := ⟨none, none, none, none, none⟩

def has (g : Given) : Parameter → Bool
  | .port => g.port.isSome
  | .host => g.host.isSome
  | .queueCapacity => g.queueCapacity.isSome
  | .throttleDelay => g.throttleDelay.isSome
  | .logLevel => g.logLevel.isSome

def portOf (value : String) : Except String UInt16 :=
  match Numeral.integer Int64.minValue.toInt Int64.maxValue.toInt value.toList with
  | .error e => .error e.message
  | .ok n =>
    if 0 ≤ n ∧ n ≤ 65535 then .ok (UInt16.ofNat n.toNat)
    else .error (toString n ++ " is not in 0..=65535")

def hostOf (value : String) : Except String IpAddress :=
  match IpAddress.parse? value with
  | some a => .ok a
  | none => .error "invalid IP address syntax"

def wordOf (value : String) : Except String Nat :=
  (Numeral.natural (UInt64.size - 1) value.toList).mapError NumeralError.message

def read (g : Given) (value : String) : Parameter → Except String Given
  | .port => (portOf value).map fun n => { g with port := some n }
  | .host => (hostOf value).map fun a => { g with host := some a }
  | .queueCapacity => (wordOf value).map fun n => { g with queueCapacity := some n }
  | .throttleDelay => (wordOf value).map fun n => { g with throttleDelay := some n }
  | .logLevel => .ok { g with logLevel := some value }

def set (g : Given) (p : Parameter) (value : String) : Except Usage Given :=
  if g.has p then .error (.repeated p) else (g.read value p).mapError (.badValue p value)

def toOptions (g : Given) : Except Usage Options :=
  match g.port with
  | none => .error .noPort
  | some port =>
    let s : Settings :=
      { Settings.standard with
        port
        host := g.host.getD (.v4 ⟨0, 0, 0, 0⟩)
        throttleDelay := .ofMillis (g.throttleDelay.getD 100) }
    .ok {
      settings := s.withQueueCapacity (g.queueCapacity.getD Settings.standardQueueCapacity)
      logLevel := g.logLevel.getD "info" }

end Given

/-- an argument, by its form -/
inductive Argument where
  /-- what comes behind it are values -/
  | valuesFollow
  | long (name : String) (value : Option String)
  | short (letter : Char)
  | value (s : String)
  deriving DecidableEq, Repr

namespace Argument

def ofString (s : String) : Argument :=
  match s.toList with
  | '-' :: '-' :: [] => .valuesFollow
  | '-' :: '-' :: rest =>
    let name := rest.takeWhile (· ≠ '=')
    .long (String.ofList name) (((rest.drop name.length).tail?).map String.ofList)
  | '-' :: c :: _ => .short c
  | _ => .value s

end Argument

/-- a reading in progress: what is set, and a parameter whose value is still to come or to be looked at -/
structure Reading where
  given : Given
  pending : Option (Parameter × Option String)
  portNamed : Bool
  valuesOnly : Bool

namespace Reading

def start : Reading := ⟨Given.nothing, none, false, false⟩

/-- looks at the value that is pending -/
def resolve (r : Reading) : Except Usage Given :=
  match r.pending with
  | none => .ok r.given
  | some (p, none) => .error (.noValue p)
  | some (p, some value) => r.given.set p value

def positional (r : Reading) (s : String) : Except Usage Reading :=
  if r.portNamed then .error (.unexpected s)
  else r.resolve.map fun g => { r with given := g, pending := some (.port, some s), portNamed := true }

def helped (r : Reading) : Except Usage Reading :=
  match r.resolve with
  | .error e => .error e
  | .ok _ => .error .help

def option (r : Reading) (name : String) (value : Option String) : Except Usage Reading :=
  match Parameter.ofName? name, value with
  | some p, some v =>
    match r.resolve with
    | .error e => .error e
    | .ok g => (g.set p v).map fun g => { r with given := g, pending := none }
  | some p, none => r.resolve.map fun g => { r with given := g, pending := some (p, none) }
  | none, value =>
    if name ≠ "help" then .error (.unexpected ("--" ++ name))
    else
      match value with
      | some v => .error (.unwantedValue v)
      | none => r.helped

def step (r : Reading) (s : String) : Except Usage Reading :=
  if r.valuesOnly then r.positional s
  else
    match Argument.ofString s, r.pending with
    | .valuesFollow, _ => .ok { r with valuesOnly := true }
    | .long name value, _ => r.option name value
    | .short 'h', _ => r.helped
    | .short c, _ => .error (.unexpected ("-" ++ String.singleton c))
    | .value s, some (p, none) => .ok { r with pending := some (p, some s) }
    | .value s, _ => r.positional s

end Reading

def Options.parse (args : List String) : Except Usage Options := do
  let r ← args.foldlM Reading.step Reading.start
  (← r.resolve).toOptions

end MockCollector
