/-!
# Request bodies

A body arrives in pieces: runs of bytes, some of them empty, and failures of the transport.  A failure
makes the one read that meets it fail; the next read goes on behind it.

* `Piece`, `Body`      what has yet to arrive;
* `Body.next`          the next byte, failure or end;
* `Body.read n body`   up to `n` bytes: fewer only where the body ends, and none at all when a failure
                       comes first;
* `Body.events`        the bytes and failures of a body one by one, as if it had come in one piece.
-/

namespace MockCollector

inductive IoKind where
  | other
  | unexpectedEof
  | connectionReset
  | invalidData
  deriving DecidableEq, Repr

structure IoError where
  kind : IoKind
  message : String
  deriving DecidableEq, Repr

inductive Piece where
  | bytes (bs : List UInt8)
  | failure (e : IoError)
  deriving DecidableEq, Repr

abbrev Body := List Piece

namespace Body

/-! ## reading -/

inductive Next where
  | ended
  | byte (b : UInt8) (rest : Body)
  | failed (e : IoError) (rest : Body)

def next : Body → Next
  | [] => .ended
  | .bytes [] :: pieces => next pieces
  | .bytes (b :: bs) :: pieces => .byte b (.bytes bs :: pieces)
  | .failure e :: pieces => .failed e pieces

def read : Nat → Body → Except IoError (List UInt8) × Body
  | 0, body => (.ok [], body)
  | n + 1, body =>
    match body.next with
    | .ended => (.ok [], [])
    | .failed e rest => (.error e, rest)
    | .byte b rest =>
      match read n rest with
      | (.ok bs, rest) => (.ok (b :: bs), rest)
      | (.error e, rest) => (.error e, rest)

/-! ## the unread part -/

inductive Event where
  | byte (b : UInt8)
  | failure (e : IoError)
  deriving DecidableEq, Repr

def Piece.events : Piece → List Event
  | .bytes bs => bs.map .byte
  | .failure e => [.failure e]

def events (body : Body) : List Event := body.flatMap Piece.events

/-- the bytes up to the end or the next failure, and that failure -/
def unread : Body → List UInt8 × Option IoError
  | [] => ([], none)
  | .bytes bs :: pieces => (bs ++ (unread pieces).1, (unread pieces).2)
  | .failure e :: _ => ([], some e)

/-- a body that arrives whole -/
def ofBytes (bs : List UInt8) : Body := [.bytes bs]

theorem events_nil : events [] = [] := rfl

theorem events_cons (p : Piece) (body : Body) : events (p :: body) = Piece.events p ++ events body :=
  rfl

theorem events_ofBytes (bs : List UInt8) : events (ofBytes bs) = bs.map .byte := by
  simp [events, ofBytes, Piece.events]

/-- what is read next is the first event -/
theorem events_eq_next (body : Body) :
    events body = match body.next with
      | .ended => []
      | .byte b rest => .byte b :: events rest
      | .failed e rest => .failure e :: events rest := by
  fun_induction next body with
  | case1 => rfl
  | case2 pieces ih => simpa [events_cons, Piece.events] using ih
  | case3 b bs pieces => simp [events_cons, Piece.events]
  | case4 e pieces => simp [events_cons, Piece.events]

end Body

end MockCollector
