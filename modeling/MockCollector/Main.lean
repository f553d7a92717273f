import MockCollector.Cli.Session
import Std.Async
import Std.Http
/-!
# The program

Reads the command line, listens, and hands each request to the one collector that all requests share.  What
a request does and how it is answered is not decided here: the program only reads requests, lets the
collector's clock follow the real one, and writes answers.
-/

namespace MockCollector

open Std Async

/-- what is shared by all requests: the server, the time it started at, and a violation that ends it -/
structure Service where
  server : Mutex Server
  startedAt : Nat
  violation : IO.Ref (Option Violation)

def writeResponse (r : Response) : Async (Http.Response Http.Body.Any) := do
  let status := (Http.Status.ofCode none (UInt16.ofNat r.status)).getD .internalServerError
  let headers := (r.contentType?.toList.map fun t => ("Content-Type", t))
    ++ (r.allow?.toList.map fun a => ("Allow", a))
  let builder := headers.foldl (fun b h => b.header! h.1 h.2) (Http.Response.withStatus status)
  let body := ((r.content?.map Answer.body).getD []).toByteArray
  let response ← builder.fromBytes body
  return { line := response.line, body := .ofBody response.body }

namespace Service

/-- works on the server once its clock has caught up -/
def use {α : Type} (service : Service) (f : Server → α × Server) : IO α := do
  let time ← IO.monoMsNow
  service.server.atomically do
    let s ← get
    let c := s.collector.advance (time - service.startedAt - s.collector.now)
    let (a, s) := f { s with collector := c.settle }
    set s
    return a

/-- waits until a task has ended -/
partial def await (service : Service) (id : TaskId) : Async Outcome := do
  match ← service.use fun s => (s.collector.ended.find? fun e => e.id == id, s) with
  | some e => return e.outcome
  | none =>
    sleep 1
    service.await id

/-- a request whose body has been read -/
def respond (service : Service) (client : ClientRequest) (body : List UInt8) : Async Response := do
  match client.action? with
  | .error refusal => return refusal
  | .ok action =>
    let request : Request := ⟨client.target, client.headers, Body.ofBytes body⟩
    let id ← service.use fun s =>
      (s.collector.nextId,
        { s with collector := (s.collector.perform action request).settle })
    match Reply.ofOutcome client.method (← service.await id) with
    | .response r => return r
    | .dropped (some v) =>
      service.violation.set (some v)
      throw (IO.userError v.message)
    | _ => throw (IO.userError "connection dropped")

def handle (service : Service) (r : Http.Request Http.Body.Stream) :
    ContextAsync (Http.Response Http.Body.Any) := do
  let bytes : ByteArray ← r.body.readAll
  let headers := r.line.headers.toList.map fun h => (⟨h.1.value, h.2.value⟩ : Header)
  let client : ClientRequest := ⟨toString r.line.method, toString r.line.uri, headers, .none⟩
  writeResponse (← service.respond client bytes.toList)

/-- until the listener closes, a report breaks the protocol, or the process is interrupted -/
partial def watch (service : Service) (interrupt : AsyncTask Int) : Async Reason := do
  if (← service.violation.get).isSome then return .closed
  if ← service.use fun s => (s.isStopped, s) then return .closed
  if (← interrupt.getState) matches .finished then return .interrupted
  sleep 10
  service.watch interrupt

end Service

def writeLine (f : Filter) (l : LogLine) (text : String) : IO Unit := do
  if f.allows l then
    IO.println (l.target ++ ": " ++ text)
    (← IO.getStdout).flush

def netAddress : SocketAddress → Option Net.SocketAddress
  | .v4 a port => some (.v4 ⟨.ofParts a.a a.b a.c a.d, port⟩)
  | .v6 a _ port => (Net.IPv6Addr.ofString a.text).map fun addr => .v6 ⟨addr, port⟩

/-- serves until there is a reason to end, and drains the pipeline -/
def serveUntilDone (f : Filter) (address : SocketAddress) (server : Server) : Async UInt32 := do
  let some net := netAddress address | return 1
  let service : Service :=
    { server := ← Mutex.new server, startedAt := ← IO.monoMsNow, violation := ← IO.mkRef none }
  let listener ← Http.Server.serve net (Http.Server.Handler.ofFn service.handle)
  writeLine f Session.listeningLine
    ("mock satellite listening addr=" ++ address.text ++ " queue_capacity="
      ++ toString server.settings.queueCapacity)
  let interrupt ← (← Signal.Waiter.mk .sigint false).wait
  let reason ← service.watch interrupt
  listener.shutdown
  if let some v ← service.violation.get then
    IO.eprintln v.message
    return 134
  writeLine f reason.line reason.text
  match ← service.use Server.shutdown with
  | some (.ok n) =>
    writeLine f Session.exitLine ("mock satellite exited stored=" ++ toString n)
    return 0
  | _ => return 1

/-- what a session that serves nothing has to say -/
def report (s : Session) : IO UInt32 := do
  if let some line := s.outputLine? then IO.println line
  if let some line := s.errorLine? then IO.eprintln line
  match s.exit with
  | .code n => return UInt32.ofNat n
  | .signal n => return UInt32.ofNat (128 + n)

def runProgram (args : List String) : IO UInt32 := do
  let environment ← IO.getEnv "RUST_LOG"
  match Session.prepare .up args environment with
  | .error s => report s
  | .ok (f, server) =>
    let address := SocketAddress.of server.settings.port server.settings.host
    try (serveUntilDone f address server).block
    catch _ =>
      IO.eprintln Session.startError
      return 1

end MockCollector

def main (args : List String) : IO UInt32 := MockCollector.runProgram args
