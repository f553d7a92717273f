import MockCollector.Message.Layouts
import MockCollector.Stream.Body
/-!
# Framed report streams

A streamed report is a row of frames, each a message with its tag and its length in front, laid out as
the fields of one report would be.  It opens with the reporter, the access token and the client's
metrics, in that order, and goes on with any number of spans until the body ends.

* `fieldTag field`                 the tag of a frame that carries `field`;
* `encodeStream header spans`      the bytes of a stream;
* `FrameError`, `FrameError.message`   how a stream may be wrong, and its text;
* `Decoder α`                      a step that reads an `α` from a body, and leaves the rest;
* `Decoder.header`, `span?`, `atEnd`, `embedded`   the steps.

A step that fails has still consumed what it read, so the steps after it go on from there: behind the
tag when it is not the one expected, behind the payload when that is no message.
-/

namespace MockCollector

open Wire

def fieldTag (field : Nat) : Nat := 8 * field + WireType.lengthDelimited.code

/-! ## writing -/

def encodeEmbedded {M : Type} (L : Layout M) (field : Nat) (m : M) : List UInt8 :=
  (L.embed field m).bytes

/-- parts that the header lacks are written as empty messages; its spans and offset are not written -/
def encodeStream (header : Report) (spans : List Span) : List UInt8 :=
  encodeEmbedded Reporter.layout Report.reporterField (header.reporter.getD Reporter.layout.empty)
    ++ encodeEmbedded Auth.layout Report.authField (header.auth.getD Auth.layout.empty)
    ++ encodeEmbedded InternalMetrics.layout Report.internalMetricsField
      (header.internalMetrics.getD InternalMetrics.layout.empty)
    ++ spans.flatMap (encodeEmbedded Span.layout Report.spansField)

/-! ## errors -/

inductive FrameError where
  | malformedVarint
  | unexpectedTag (field expected found : Nat)
  | unexpectedEnd
  | truncated (declared read : Nat)
  | decode (e : DecodeError)
  | io (e : IoError)
  deriving DecidableEq, Repr

def FrameError.message : FrameError → String
  | .malformedVarint => "malformed varint"
  | .unexpectedTag field expected found =>
    "unexpected tag " ++ toString found ++ " for field " ++ toString field ++ ": expected "
      ++ toString expected
  | .unexpectedEnd => "stream ended inside a sub-message"
  | .truncated declared read =>
    "truncated payload: declared " ++ toString declared ++ " bytes, read " ++ toString read
  | .decode e => "failed to decode embedded message: " ++ e.message
  | .io e => "failed to read report body: " ++ e.message

/-- a transport that reports an unexpected end is taken at its word -/
def FrameError.ofIo (e : IoError) : FrameError :=
  if e.kind = .unexpectedEof then .unexpectedEnd else .io e

/-! ## reading -/

abbrev Decoder (α : Type) := Body → Except FrameError α × Body

namespace Decoder

/-- reads a number of which `value` is known so far and which may take up to `left` more bytes -/
def varintFrom : Nat → Nat → Decoder Nat
  | 0, _, body => (.error .malformedVarint, body)
  | left + 1, value, body =>
    match body.next with
    | .ended => (.error .unexpectedEnd, [])
    | .failed e rest => (.error (.ofIo e), rest)
    | .byte b rest =>
      if left = 0 ∧ 1 < b then (.error .malformedVarint, rest)
      else
        let value := value + b.toNat % 128 * Nat.pow 128 (Varint.maxBytes - 1 - left)
        if b < 128 then (.ok value, rest) else varintFrom left value rest

def varint : Decoder Nat := varintFrom Varint.maxBytes 0

/-- reads a length and a message of exactly that many bytes -/
def payload {M : Type} (L : Layout M) : Decoder M := fun body =>
  match varint body with
  | (.error e, rest) => (.error e, rest)
  | (.ok declared, rest) =>
    match rest.read declared with
    | (.error e, rest) => (.error (.ofIo e), rest)
    | (.ok bs, rest) =>
      if bs.length ≠ declared then (.error (.truncated declared bs.length), rest)
      else
        match L.decode bs with
        | .error e => (.error (.decode e), rest)
        | .ok m => (.ok m, rest)

/-- reads one frame, which must carry `field` -/
def embedded {M : Type} (L : Layout M) (field : Nat) : Decoder M := fun body =>
  match varint body with
  | (.error e, rest) => (.error e, rest)
  | (.ok found, rest) =>
    if found ≠ fieldTag field then (.error (.unexpectedTag field (fieldTag field) found), rest)
    else payload L rest

/-- the opening frames, as a report without spans -/
def header : Decoder Report := fun body =>
  match embedded Reporter.layout Report.reporterField body with
  | (.error e, rest) => (.error e, rest)
  | (.ok reporter, rest) =>
    match embedded Auth.layout Report.authField rest with
    | (.error e, rest) => (.error e, rest)
    | (.ok auth, rest) =>
      match embedded InternalMetrics.layout Report.internalMetricsField rest with
      | (.error e, rest) => (.error e, rest)
      | (.ok metrics, rest) =>
        (.ok ⟨some reporter, some auth, [], 0, some metrics⟩, rest)

/-- whether the body has ended; no byte is consumed, but a failure is met -/
def atEnd : Decoder Bool := fun body =>
  match body.next with
  | .ended => (.ok true, body)
  | .byte _ _ => (.ok false, body)
  | .failed e rest => (.error (.io e), rest)

/-- the next span, or `none` where the body ends between frames -/
def span? : Decoder (Option Span) := fun body =>
  match atEnd body with
  | (.error e, rest) => (.error e, rest)
  | (.ok true, rest) => (.ok none, rest)
  | (.ok false, rest) =>
    match embedded Span.layout Report.spansField rest with
    | (.error e, rest) => (.error e, rest)
    | (.ok s, rest) => (.ok (some s), rest)

end Decoder

end MockCollector
