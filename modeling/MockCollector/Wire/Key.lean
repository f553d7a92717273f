import MockCollector.Wire.Varint
/-!
# Field keys and decoding faults

Every field of an encoded message opens with a key: its number and its wire type, packed into one
base-128 number.

* `WireType`        the six ways in which the bytes after a key are laid out;
* `Fault`           why bytes were refused;
* `DecodeError`     a fault and the fields it happened in, innermost first; `DecodeError.message` is
                    its text;
* `Key.encode`, `Key.decode`   a key and its bytes.
-/

namespace MockCollector.Wire

/-! ## wire types -/

inductive WireType where
  | varint
  | fixed64
  | lengthDelimited
  | groupStart
  | groupEnd
  | fixed32
  deriving DecidableEq, Repr

def WireType.code : WireType → Nat
  | .varint => 0
  | .fixed64 => 1
  | .lengthDelimited => 2
  | .groupStart => 3
  | .groupEnd => 4
  | .fixed32 => 5

def WireType.ofCode? : Nat → Option WireType
  | 0 => some .varint
  | 1 => some .fixed64
  | 2 => some .lengthDelimited
  | 3 => some .groupStart
  | 4 => some .groupEnd
  | 5 => some .fixed32
  | _ => none

def WireType.name : WireType → String
  | .varint => "Varint"
  | .fixed64 => "SixtyFourBit"
  | .lengthDelimited => "LengthDelimited"
  | .groupStart => "StartGroup"
  | .groupEnd => "EndGroup"
  | .fixed32 => "ThirtyTwoBit"

theorem WireType.code_lt (w : WireType) : w.code < 6 := by cases w <;> decide

theorem WireType.ofCode?_code (w : WireType) : ofCode? w.code = some w := by cases w <;> rfl

/-! ## faults -/

inductive Fault where
  | malformedVarint
  | underflow
  | lengthExceeded
  | nestedTooDeep
  | strayGroupEnd
  | fieldZero
  | keyTooLarge (key : Nat)
  | unknownWireType (code : Nat)
  | wrongWireType (found expected : WireType)
  | notText
  deriving DecidableEq, Repr

def Fault.message : Fault → String
  | .malformedVarint => "invalid varint"
  | .underflow => "buffer underflow"
  | .lengthExceeded => "delimited length exceeded"
  | .nestedTooDeep => "recursion limit reached"
  | .strayGroupEnd => "unexpected end group tag"
  | .fieldZero => "invalid tag value: 0"
  | .keyTooLarge key => "invalid key value: " ++ toString key
  | .unknownWireType code => "invalid wire type value: " ++ toString code
  | .wrongWireType found expected =>
    "invalid wire type: " ++ found.name ++ " (expected " ++ expected.name ++ ")"
  | .notText => "invalid string value: data is not UTF-8 encoded"

/-- one step of the way to a fault: a message type and the field of it that was being read -/
structure Place where
  message : String
  field : String
  deriving DecidableEq, Repr

structure DecodeError where
  fault : Fault
  /-- innermost first -/
  places : List Place
  deriving DecidableEq, Repr

def Fault.toError (f : Fault) : DecodeError := ⟨f, []⟩

/-- the error as seen one message further out -/
def DecodeError.within (e : DecodeError) (place : Place) : DecodeError :=
  { e with places := e.places ++ [place] }

def DecodeError.message (e : DecodeError) : String :=
  "failed to decode Protobuf message: "
    ++ String.join (e.places.map fun p => p.message ++ "." ++ p.field ++ ": ")
    ++ e.fault.message

/-! ## keys -/

structure Key where
  number : Nat
  wire : WireType
  deriving DecidableEq, Repr

def Key.toNat (k : Key) : Nat := 8 * k.number + k.wire.code

/-- a key is a 32-bit word, so field numbers stay below this -/
def Key.numberBound : Nat := 1 <<< 29

def Key.encode (k : Key) : List UInt8 := Varint.encode (k.toNat % UInt32.size)

def Key.ofNat (n : Nat) : Except Fault Key :=
  if UInt32.size ≤ n then .error (.keyTooLarge n)
  else match WireType.ofCode? (n % 8) with
    | none => .error (.unknownWireType (n % 8))
    | some w => if n / 8 = 0 then .error .fieldZero else .ok ⟨n / 8, w⟩

def readVarint (bs : List UInt8) : Except Fault (Nat × List UInt8) :=
  match Varint.decode bs with
  | none => .error .malformedVarint
  | some r => .ok r

def Key.decode (bs : List UInt8) : Except Fault (Key × List UInt8) :=
  match readVarint bs with
  | .error e => .error e
  | .ok (n, rest) =>
    match Key.ofNat n with
    | .error e => .error e
    | .ok k => .ok (k, rest)

theorem Key.ofNat_toNat {k : Key} (h0 : 0 < k.number) (h : k.number < numberBound) :
    Key.ofNat k.toNat = .ok k := by
  have hc := k.wire.code_lt
  have hm : k.toNat % 8 = k.wire.code := by simp [toNat]; omega
  have hd : k.toNat / 8 = k.number := by simp [toNat]; omega
  have hb : ¬ UInt32.size ≤ k.toNat := by
    simp only [numberBound, UInt32.size, toNat] at h ⊢
    omega
  rw [ofNat, if_neg hb, hm, WireType.ofCode?_code]
  simp only [hd]
  rw [if_neg (by omega)]

theorem readVarint_length {bs rest : List UInt8} {n : Nat} (h : readVarint bs = .ok (n, rest)) :
    rest.length < bs.length := by
  unfold readVarint at h
  split at h
  · cases h
  · rename_i r hr
    cases h
    exact Varint.decode_length hr

theorem Key.decode_length {bs rest : List UInt8} {k : Key} (h : Key.decode bs = .ok (k, rest)) :
    rest.length < bs.length := by
  unfold Key.decode at h
  split at h
  · cases h
  · rename_i n r hr
    split at h
    · cases h
    · cases h
      exact readVarint_length hr

end MockCollector.Wire
