import MockCollector.Number.Double
import MockCollector.Wire.Skip
/-!
# Scalar kinds

How one value of a scalar kind is laid out after its key.

* `Scalar α`     the wire type, the value a missing field has, a writer and a reader;
* `Scalar.uint64`, `int64`, `int32`, `bool`, `double`, `text`   the kinds in use.

Signed numbers are written as 64-bit two's complement, so a negative one takes ten bytes; 32-bit
readers keep the low 32 bits.  Doubles travel as their bit pattern, so every pattern is kept.
-/

namespace MockCollector.Wire

structure Scalar (α : Type) where
  wire : WireType
  zero : α
  write : α → List UInt8
  read : List UInt8 → Except Fault (α × List UInt8)
  read_length : ∀ {bs a rest}, read bs = .ok (a, rest) → rest.length ≤ bs.length

/-! ## numbers -/

private theorem varint_read_length {f : Nat → α} {bs rest : List UInt8} {a : α}
    (h : (readVarint bs).map (fun r => (f r.1, r.2)) = .ok (a, rest)) : rest.length ≤ bs.length := by
  cases hr : readVarint bs with
  | error e => rw [hr] at h; cases h
  | ok r =>
    rw [hr] at h
    cases h
    exact Nat.le_of_lt (readVarint_length hr)

/-- a kind written as one base-128 number -/
def Scalar.ofVarint (zero : α) (toNat : α → Nat) (ofNat : Nat → α) :
    Scalar α where
  wire := .varint
  zero := zero
  write a := Varint.encode (toNat a)
  read bs := (readVarint bs).map fun r => (ofNat r.1, r.2)
  read_length h := varint_read_length h

def Scalar.uint64 : Scalar UInt64 :=
  .ofVarint 0 UInt64.toNat Nat.toUInt64

def Scalar.int64 : Scalar Int64 :=
  .ofVarint 0 (fun i => i.toUInt64.toNat) (fun n => n.toUInt64.toInt64)

def Scalar.int32 : Scalar Int32 :=
  .ofVarint 0 (fun i => i.toInt64.toUInt64.toNat) (fun n => n.toUInt32.toInt32)

def Scalar.bool : Scalar Bool :=
  .ofVarint false (fun b => if b then 1 else 0) (· != 0)

/-! ## doubles -/

/-- the bytes of a number, lowest first -/
def littleEndian : Nat → Nat → List UInt8
  | 0, _ => []
  | count + 1, n => (n % 256).toUInt8 :: littleEndian count (n / 256)

def ofLittleEndian : List UInt8 → Nat
  | [] => 0
  | b :: bs => b.toNat + 256 * ofLittleEndian bs

private theorem fixed_read_length {n : Nat} {f : List UInt8 → α} {bs rest : List UInt8} {a : α}
    (h : (takeBytes n bs).map (fun r => (f r.1, r.2)) = .ok (a, rest)) : rest.length ≤ bs.length := by
  cases hr : takeBytes n bs with
  | error e => rw [hr] at h; cases h
  | ok r =>
    rw [hr] at h
    cases h
    exact takeBytes_length hr

def doubleOfBytes (bs : List UInt8) : Double := ⟨(ofLittleEndian bs).toUInt64⟩

def Scalar.double : Scalar Double where
  wire := .fixed64
  zero := ⟨0⟩
  write d := littleEndian 8 d.bits.toNat
  read bs := (takeBytes 8 bs).map fun r => (doubleOfBytes r.1, r.2)
  read_length h := fixed_read_length h

/-! ## text -/

/-- a length and then the bytes -/
def delimited (bs : List UInt8) : List UInt8 := Varint.encode bs.length ++ bs

def textBytes (s : String) : List UInt8 := s.toUTF8.data.toList

def readText (bs : List UInt8) : Except Fault (String × List UInt8) :=
  match readDelimited bs with
  | .error e => .error e
  | .ok (body, rest) =>
    match String.fromUTF8? ⟨body.toArray⟩ with
    | none => .error .notText
    | some s => .ok (s, rest)

theorem readText_length {bs rest : List UInt8} {s : String} (h : readText bs = .ok (s, rest)) :
    rest.length ≤ bs.length := by
  unfold readText at h
  split at h
  · cases h
  · rename_i body r hr
    split at h
    · cases h
    · cases h
      exact readDelimited_length hr

def Scalar.text : Scalar String where
  wire := .lengthDelimited
  zero := ""
  write s := delimited (textBytes s)
  read := readText
  read_length := readText_length

end MockCollector.Wire
