import MockCollector.Collector.Actions
/-!
# Exchanges over a connection

* `ClientRequest`     a request as a client sends it, over a connection of its own;
* `Response`          what is sent back;
* `Reply`             what a client gets: a response, or none at all;
* `ClientRequest.action?`   what is to be done about a request, or the response that refuses it.

A path has to be spelt exactly.
-/

namespace MockCollector

inductive Payload where
  | none
  /-- bytes sent with their length -/
  | whole (bs : List UInt8)
  | chunked (chunks : List (List UInt8))
  deriving DecidableEq

structure ClientRequest where
  method : String
  target : String
  headers : List Header
  payload : Payload
  deriving DecidableEq

structure Response where
  status : Nat
  contentType? : Option String
  allow? : Option String
  /-- what the body holds, if it is not empty -/
  content? : Option Answer
  deriving DecidableEq

namespace Response

def notFound : Response := ⟨404, none, none, none⟩

def notAllowed (e : Endpoint) : Response := ⟨405, none, some e.allow, none⟩

/-- whoever asks for the head of an answer gets no body -/
def of (method : String) (a : Answer) : Response :=
  ⟨a.status, a.contentType?, none, if method = "HEAD" then none else some a⟩

end Response

inductive Reply where
  /-- nobody listens -/
  | refused
  | dropped (violation : Option Violation)
  /-- kept waiting -/
  | held (t : TaskId)
  | response (r : Response)
  deriving DecidableEq

namespace ClientRequest

def path (r : ClientRequest) : String := Target.path r.target

/-- the headers that tell how the body is sent come behind the others -/
def toRequest (r : ClientRequest) : Request :=
  match r.payload with
  | .none => ⟨r.target, r.headers, []⟩
  | .whole bs => ⟨r.target, r.headers ++ [⟨"content-length", toString bs.length⟩], Body.ofBytes bs⟩
  | .chunked chunks =>
    ⟨r.target, r.headers ++ [⟨"transfer-encoding", "chunked"⟩], chunks.map Piece.bytes⟩

def action? (r : ClientRequest) : Except Response Action :=
  match Endpoint.ofPath? r.path with
  | none => .error Response.notFound
  | some e =>
    match e.action? r.method with
    | none => .error (Response.notAllowed e)
    | some a => .ok a

end ClientRequest

/-- what the end of a request means to the client -/
def Reply.ofOutcome (method : String) : Outcome → Reply
  | .answered a => .response (.of method a)
  | .violated v => .dropped (some v)
  | _ => .dropped none

end MockCollector
