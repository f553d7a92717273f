import MockCollector.Number.Numeral
/-!
# Internet addresses

* `Ipv4`, `Ipv6`, `IpAddress`     host addresses;
* `SocketAddress`                 a host address with a port;
* `Ipv6.isMapped`                 whether an address of version six stands for one of version four;
* `IpAddress.parse?`, `SocketAddress.parse?`   read their written forms;
* `IpAddress.text`, `SocketAddress.text`       write them.

The four octets of an `Ipv4` are decimal, without a zero in front.  The eight groups of an `Ipv6` are
hexadecimal; one `::` may stand for one group of zero or more, and the last two groups may be written as
an `Ipv4`.  Written back, `::` stands for the first longest run of zeros that has more than one.
-/

namespace MockCollector

structure Ipv4 where
  a : UInt8
  b : UInt8
  c : UInt8
  d : UInt8
  deriving DecidableEq, Repr

structure Ipv6 where
  groups : Vector UInt16 8
  deriving DecidableEq, Repr

inductive IpAddress where
  | v4 (a : Ipv4)
  | v6 (a : Ipv6)
  deriving DecidableEq, Repr

inductive SocketAddress where
  | v4 (a : Ipv4) (port : UInt16)
  | v6 (a : Ipv6) (scope : UInt32) (port : UInt16)
  deriving DecidableEq, Repr

def SocketAddress.of (port : UInt16) : IpAddress → SocketAddress
  | .v4 a => .v4 a port
  | .v6 a => .v6 a 0 port

def SocketAddress.host : SocketAddress → IpAddress
  | .v4 a _ => .v4 a
  | .v6 a _ _ => .v6 a

def Ipv6.isMapped (x : Ipv6) : Bool := x.groups.toList.take 6 == [0, 0, 0, 0, 0, 0xffff]

/-! ## writing -/

def Ipv4.text (x : Ipv4) : String :=
  ".".intercalate ([x.a, x.b, x.c, x.d].map fun o => toString o.toNat)

/-- the start and length of the first longest run of zeros -/
def longestZeros (groups : List UInt16) : Nat × Nat :=
  (groups.foldl (fun (i, run, best) g =>
    if g = 0 then (i + 1, run + 1, if best.2 < run + 1 then (i - run, run + 1) else best)
    else (i + 1, 0, best)) (0, 0, (0, 0))).2.2

def groupsText (groups : List UInt16) : String :=
  ":".intercalate (groups.map fun g => String.ofList (Nat.toDigits 16 g.toNat))

def Ipv6.text (x : Ipv6) : String :=
  match x.groups.toList with
  | [0, 0, 0, 0, 0, 0xffff, g, h] =>
    "::ffff:" ++ Ipv4.text ⟨(g / 256).toUInt8, g.toUInt8, (h / 256).toUInt8, h.toUInt8⟩
  | groups =>
    match longestZeros groups with
    | (start, n + 2) =>
      groupsText (groups.take start) ++ "::" ++ groupsText (groups.drop (start + (n + 2)))
    | _ => groupsText groups

def IpAddress.text : IpAddress → String
  | .v4 a => a.text
  | .v6 a => a.text

def SocketAddress.text : SocketAddress → String
  | .v4 a port => a.text ++ ":" ++ toString port.toNat
  | .v6 a scope port =>
    "[" ++ a.text ++ (if scope = 0 then "" else "%" ++ toString scope.toNat) ++ "]:"
      ++ toString port.toNat

/-! ## reading -/

/-- a reader takes what it reads off the front -/
abbrev AddressReader (α : Type) := List Char → Option (α × List Char)

namespace AddressReader

/-- every digit at the front, which must make a number of at most `limit` -/
def number (base limit : Nat) : AddressReader Nat := fun cs =>
  let ds := cs.takeWhile fun c => (Numeral.digit? base c).isSome
  let n := (ds.filterMap (Numeral.digit? base)).foldl (fun n d => base * n + d) 0
  if ds.isEmpty ∨ limit < n then none else some (n, cs.drop ds.length)

/-- a number of at most `most` digits -/
def shortNumber (base limit most : Nat) : AddressReader Nat := fun cs => do
  let (n, rest) ← number base limit cs
  if most < cs.length - rest.length then none else some (n, rest)

def char (c : Char) : List Char → Option (List Char)
  | [] => none
  | c' :: cs => if c' = c then some cs else none

/-- a number up to 255 without a zero in front -/
def octet : AddressReader UInt8 := fun cs => do
  let (n, rest) ← shortNumber 10 255 3 cs
  if cs.head? = some '0' ∧ 1 < cs.length - rest.length then none else some (UInt8.ofNat n, rest)

def ipv4 : AddressReader Ipv4 := fun cs => do
  let (a, cs) ← octet cs
  let (b, cs) ← octet (← char '.' cs)
  let (c, cs) ← octet (← char '.' cs)
  let (d, cs) ← octet (← char '.' cs)
  return (⟨a, b, c, d⟩, cs)

/-- the groups at the front, `most` of them at most; and whether they end in an `Ipv4` -/
def groups (first : Bool) : Nat → List Char → (List UInt16 × Bool) × List Char
  | 0, cs => (([], false), cs)
  | more + 1, cs =>
    match if first then some cs else char ':' cs with
    | none => (([], false), cs)
    | some inner =>
      match if 0 < more then ipv4 inner else none with
      | some (x, rest) =>
        (([x.a.toUInt16 * 256 + x.b.toUInt16, x.c.toUInt16 * 256 + x.d.toUInt16], true), rest)
      | none =>
        match shortNumber 16 0xffff 4 inner with
        | none => (([], false), cs)
        | some (g, rest) =>
          let ((gs, mixed), rest) := groups false more rest
          ((UInt16.ofNat g :: gs, mixed), rest)

/-- the address of eight groups, if there are eight -/
def ofGroups (gs : List UInt16) : Option Ipv6 :=
  if h : gs.length = 8 then some ⟨⟨gs.toArray, h⟩⟩ else none

def ipv6 : AddressReader Ipv6 := fun cs => do
  let ((front, mixed), rest) := groups true 8 cs
  if front.length = 8 then return (← ofGroups front, rest)
  if mixed then none
  let rest ← char ':' (← char ':' rest)
  let ((back, _), rest) := groups true (7 - front.length) rest
  let zeros := List.replicate (8 - front.length - back.length) 0
  return (← ofGroups (front ++ zeros ++ back), rest)

def ip : AddressReader IpAddress := fun cs =>
  match ipv4 cs with
  | some (x, rest) => some (.v4 x, rest)
  | none => (ipv6 cs).map fun (x, rest) => (.v6 x, rest)

def port : AddressReader UInt16 := fun cs => do
  let (n, rest) ← number 10 0xffff (← char ':' cs)
  return (UInt16.ofNat n, rest)

def scope : List Char → UInt32 × List Char := fun cs =>
  match (char '%' cs).bind (number 10 0xffffffff) with
  | some (n, rest) => (UInt32.ofNat n, rest)
  | none => (0, cs)

def socketV4 : AddressReader SocketAddress := fun cs => do
  let (x, cs) ← ipv4 cs
  let (p, cs) ← port cs
  return (.v4 x p, cs)

def socketV6 : AddressReader SocketAddress := fun cs => do
  let (x, cs) ← ipv6 (← char '[' cs)
  let (s, cs) := scope cs
  let (p, cs) ← port (← char ']' cs)
  return (.v6 x s p, cs)

/-- reads all of a text -/
def whole {α : Type} (r : AddressReader α) (s : String) : Option α :=
  match r s.toList with
  | some (x, []) => some x
  | _ => none

end AddressReader

def IpAddress.parse? (s : String) : Option IpAddress := AddressReader.ip.whole s

def SocketAddress.parse? (s : String) : Option SocketAddress :=
  match AddressReader.socketV4.whole s with
  | some x => some x
  | none => AddressReader.socketV6.whole s

end MockCollector
