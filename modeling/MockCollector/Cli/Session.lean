import MockCollector.Cli.Arguments
import MockCollector.Log.Filter
import MockCollector.Server.Launch
/-!
# Sessions

A session is one run of the command line: it reads its arguments, serves requests until it is interrupted
or its listener closes, and ends.

* `Exit`               how the process ends;
* `Session.prepare`    the server to run, or why there is none;
* `Session.run`        what a run says and how it ends;
* `Session.filter`     the filter of its log: that of the environment, if it is one, or else the level of
                       the command line.

A report that breaks the protocol brings the whole process down.
-/

namespace MockCollector

inductive Exit where
  | code (n : Nat)
  | signal (n : Nat)
  deriving DecidableEq, Repr

/-- why a session came to its end -/
inductive Reason where
  | interrupted
  | closed
  deriving DecidableEq, Repr

def Reason.text : Reason → String
  | .interrupted => "received SIGINT, shutting down"
  | .closed => "listener closed, shutting down"

/-- what is said when a server listens -/
structure Listening where
  host : IpAddress
  queueCapacity : Nat
  deriving DecidableEq, Repr

structure Session where
  exit : Exit
  listening? : Option Listening
  replies : List Reply
  reason? : Option Reason
  stored? : Option Nat
  /-- the first line of what went wrong -/
  errorLine? : Option String
  /-- the first line that was printed instead of a log -/
  outputLine? : Option String
  deriving DecidableEq

/-! ## the log -/

/-- where lines about the server and those about the session come from -/
def Session.serverTarget : String := "mock_satellite::server"

def Session.sessionTarget : String := "mock_satellite"

def Session.listeningLine : LogLine := ⟨.info, serverTarget, ["message", "addr", "queue_capacity"]⟩

def Session.exitLine : LogLine := ⟨.info, sessionTarget, ["message", "stored"]⟩

def Reason.line : Reason → LogLine
  | .interrupted => ⟨.info, Session.sessionTarget, ["message"]⟩
  | .closed => ⟨.warn, Session.sessionTarget, ["message"]⟩

/-! ## running -/

namespace Session

/-- a carriage return in front of the end of the line belongs to the end -/
def firstLine (s : String) : String :=
  let line := s.toList.takeWhile (· ≠ '\n')
  String.ofList (if line.getLast? = some '\r' then line.dropLast else line)

/-- a session that served nothing -/
def failed (code : Nat) (error : Option String) (output : String) : Session :=
  ⟨.code code, none, [], none, none, error.map firstLine, some (firstLine output)⟩

def ofUsage : Usage → Session
  | .help => failed 0 none Usage.help.message
  | u => failed 2 (some u.message) ""

def filter (options : Options) (environment : Option String) : Except DirectiveError Filter :=
  match environment.map Filter.parse with
  | some (.ok f) => .ok f
  | some (.error .brokenCharacter) => .error .brokenCharacter
  | _ => Filter.parse options.logLevel

/-- a process that aborts -/
def aborted : Exit := .signal 6

/-- requests one by one, until one of them brings the process down -/
def serve (connects : Bool) : List ClientRequest → Server → List Reply × Bool × Server
  | [], s => ([], false, s)
  | r :: rs, s =>
    match s.exchange connects r with
    | (.dropped (some v), s) => ([.dropped (some v)], true, s)
    | (reply, s) =>
      let (replies, down, s) := serve connects rs s
      (reply :: replies, down, s)

/-- a server with its log -/
def served (connects : Bool) (f : Filter) (requests : List ClientRequest) (s : Server) : Session :=
  let shown {α : Type} (l : LogLine) (a : α) : Option α := if f.allows l then some a else none
  let listening := shown listeningLine ⟨s.settings.host, s.settings.queueCapacity⟩
  let (replies, down, s) := serve connects requests s
  if down then ⟨aborted, listening, replies, none, none, none, none⟩
  else
    let reason := if s.isStopped then Reason.closed else .interrupted
    match s.shutdown.1 with
    | some (.ok n) =>
      { exit := .code 0
        listening? := listening
        replies := replies
        reason? := shown reason.line reason
        stored? := shown exitLine n
        errorLine? := none
        outputLine? := none }
    | _ => ⟨.code 1, listening, replies, shown reason.line reason, none,
      some "Error: shutting down", none⟩

def startError : String := "Error: starting mock satellite"

/-- a filter that cannot be cut into parts ends the session in the middle of reading it -/
def brokenFilter : Session := failed 101 (some "") ""

/-- the server of a command line and the filter of its log, or the session that ends without one;
`environment` is the filter that the environment asks for -/
def prepare (network : Network) (args : List String) (environment : Option String) :
    Except Session (Filter × Server) :=
  match Options.parse args with
  | .error u => .error (ofUsage u)
  | .ok options =>
    match filter options environment with
    | .error .malformed =>
      .error (failed 1 (some ("Error: invalid log level: " ++ options.logLevel)) "")
    | .error .brokenCharacter => .error brokenFilter
    | .ok f =>
      match Plan.launch network.refusal? ⟨options.settings, none⟩ with
      | .failed _ => .error (failed 1 (some startError) "")
      | .panicked _ => .error { failed 0 none "" with exit := aborted }
      | .up s => .ok (f, s)

def run (network : Network) (args : List String) (environment : Option String)
    (requests : List ClientRequest) : Session :=
  match prepare network args environment with
  | .error s => s
  | .ok (f, s) => served network.connects f requests s

end Session

end MockCollector
