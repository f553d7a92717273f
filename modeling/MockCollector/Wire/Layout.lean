import MockCollector.Wire.Scalar
import Std.Data.ExtTreeMap
/-!
# Message layouts

A message type is described once, as a list of fields; its writer and its reader both follow from
that description.

* `Record`          one written field: a key and its payload;
* `Field`           a field of a message: the numbers it goes by, how its value is written as records
                    and how one record is read into it;
* `Values fs`       one value for each field of `fs`;
* `Layout M`        the fields of the message type `M`, and `M` as the values of them;
* `Layout.encode`, `Layout.decode`   the bytes of a message, and back;
* `Layout.Encodes`  all the ways to write a message: the entries of a map may come in any order, and
                    `Layout.encode` picks one;
* `Layout.merge`    a message with another one laid over it.

A reader starts from the empty message and lets each record change the field it belongs to: a scalar
is replaced, an embedded message is read into the one already there, a repeated field grows.  So a
later record wins, and records of fields that are not declared are passed over.

An embedded message is not cut out of its surroundings before it is read.  Its fields are read up to
the first position at or after its end, which has to be its end exactly.
-/

namespace MockCollector.Wire

/-! ## records -/

structure Record where
  key : Key
  payload : List UInt8
  deriving DecidableEq, Repr

def Record.bytes (r : Record) : List UInt8 := r.key.encode ++ r.payload

/-! ## fields -/

structure Field where
  Value : Type
  empty : Value
  /-- where a fault in this field is said to have happened; the parts of a map entry have no place -/
  place : Option Place
  numbers : List Nat
  write : Value → List Record
  /-- the rows of records that stand for a value; where there is a choice, `write` has made it -/
  Writes : Value → List Record → Prop := fun v rs => rs = write v
  write_writes : ∀ v, Writes v (write v) := by exact fun _ => rfl
  /-- the first value with the second laid over it -/
  merge : Value → Value → Value
  read : Nat → Key → Value → List UInt8 → Except DecodeError (Value × List UInt8)
  read_length : ∀ {depth k v bs w rest}, read depth k v bs = .ok (w, rest) → rest.length ≤ bs.length

def Values : List Field → Type
  | [] => Unit
  | f :: fs => f.Value × Values fs

def Values.empty : (fs : List Field) → Values fs
  | [] => ()
  | f :: fs => (f.empty, Values.empty fs)

def Values.records : (fs : List Field) → Values fs → List Record
  | [], _ => []
  | f :: fs, (v, vs) => f.write v ++ Values.records fs vs

def Values.Writes : (fs : List Field) → Values fs → List Record → Prop
  | [], _, rs => rs = []
  | f :: fs, (v, vs), rs =>
    ∃ first rest, f.Writes v first ∧ Values.Writes fs vs rest ∧ rs = first ++ rest

def Values.merge : (fs : List Field) → Values fs → Values fs → Values fs
  | [], _, _ => ()
  | f :: fs, (v, vs), (w, ws) => (f.merge v w, Values.merge fs vs ws)

theorem Values.writes_records (fs : List Field) (vs : Values fs) :
    Values.Writes fs vs (Values.records fs vs) := by
  induction fs with
  | nil => rfl
  | cons f fs ih =>
    obtain ⟨v, vs⟩ := vs
    exact ⟨f.write v, Values.records fs vs, f.write_writes v, ih vs, rfl⟩

def Field.located (f : Field) (e : DecodeError) : DecodeError :=
  match f.place with
  | none => e
  | some p => e.within p

/-- reads one record into the field it belongs to; `none` when no field goes by its number -/
def Values.read? : (fs : List Field) → Nat → Key → Values fs → List UInt8 →
    Option (Except DecodeError (Values fs × List UInt8))
  | [], _, _, _, _ => none
  | f :: fs, depth, k, (v, vs), bs =>
    if k.number ∈ f.numbers then
      match f.read depth k v bs with
      | .error e => some (.error (f.located e))
      | .ok (w, rest) => some (.ok ((w, vs), rest))
    else
      match Values.read? fs depth k vs bs with
      | none => none
      | some (.error e) => some (.error e)
      | some (.ok (ws, rest)) => some (.ok ((v, ws), rest))

theorem Values.read?_length {fs : List Field} {depth : Nat} {k : Key} {vs ws : Values fs}
    {bs rest : List UInt8} (h : Values.read? fs depth k vs bs = some (.ok (ws, rest))) :
    rest.length ≤ bs.length := by
  induction fs with
  | nil => cases h
  | cons f fs ih =>
    obtain ⟨v, vs⟩ := vs
    rw [Values.read?] at h
    split at h
    · split at h
      · cases h
      · rename_i hr
        cases h
        exact f.read_length hr
    · split at h
      · cases h
      · cases h
      · rename_i hr
        cases h
        exact ih hr

/-- reads one record: into its field, or past it when no field goes by its number -/
def readRecord (fs : List Field) (depth : Nat) (k : Key) (vs : Values fs) (bs : List UInt8) :
    Except DecodeError (Values fs × List UInt8) :=
  match Values.read? fs depth k vs bs with
  | some r => r
  | none =>
    match skipField depth k bs with
    | .error e => .error e.toError
    | .ok rest => .ok (vs, rest)

theorem readRecord_length {fs : List Field} {depth : Nat} {k : Key} {vs ws : Values fs}
    {bs rest : List UInt8} (h : readRecord fs depth k vs bs = .ok (ws, rest)) :
    rest.length ≤ bs.length := by
  unfold readRecord at h
  split at h
  · rename_i r hr
    subst h
    exact Values.read?_length hr
  · split at h
    · cases h
    · rename_i r hs
      cases h
      exact skipField_length hs

/-- reads records until at most `limit` bytes are left -/
def readRecords (fs : List Field) (depth limit : Nat) (vs : Values fs) (bs : List UInt8) :
    Except DecodeError (Values fs × List UInt8) :=
  if bs.length ≤ limit then .ok (vs, bs)
  else
    match hk : Key.decode bs with
    | .error e => .error e.toError
    | .ok (k, body) =>
      match hr : readRecord fs depth k vs body with
      | .error e => .error e
      | .ok (ws, rest) =>
        have := Key.decode_length hk
        have := readRecord_length hr
        readRecords fs depth limit ws rest
termination_by bs.length
decreasing_by omega

theorem readRecords_length {fs : List Field} {depth limit : Nat} {vs ws : Values fs}
    {bs rest : List UInt8} (h : readRecords fs depth limit vs bs = .ok (ws, rest)) :
    rest.length ≤ bs.length := by
  fun_induction readRecords fs depth limit vs bs with
  | case1 => cases h; exact Nat.le_refl _
  | case2 => cases h
  | case3 => cases h
  | case4 => rename_i ih; have := ih h; omega

/-- reads a length and then the records of an embedded message, which must end where the length says -/
def readEmbedded (fs : List Field) (depth : Nat) (vs : Values fs) (bs : List UInt8) :
    Except DecodeError (Values fs × List UInt8) :=
  match depth with
  | 0 => .error Fault.nestedTooDeep.toError
  | inner + 1 =>
    match readVarint bs with
    | .error e => .error e.toError
    | .ok (n, body) =>
      if body.length < n then .error Fault.underflow.toError
      else
        match readRecords fs inner (body.length - n) vs body with
        | .error e => .error e
        | .ok (ws, rest) =>
          if rest.length = body.length - n then .ok (ws, rest)
          else .error Fault.lengthExceeded.toError

theorem readEmbedded_length {fs : List Field} {depth : Nat} {vs ws : Values fs}
    {bs rest : List UInt8} (h : readEmbedded fs depth vs bs = .ok (ws, rest)) :
    rest.length ≤ bs.length := by
  unfold readEmbedded at h
  split at h
  · cases h
  · split at h
    · cases h
    · rename_i hv
      split at h
      · cases h
      · split at h
        · cases h
        · rename_i hr
          split at h
          · cases h
            have := readVarint_length hv
            have := readRecords_length hr
            omega
          · cases h

/-! ## layouts -/

structure Layout (M : Type) where
  fields : List Field
  split : M → Values fields
  join : Values fields → M
  join_split : ∀ m, join (split m) = m
  split_join : ∀ vs, split (join vs) = vs

namespace Layout

variable {M : Type}

/-- the message no field of which was written -/
def empty (L : Layout M) : M := L.join (Values.empty L.fields)

/-- the fields of a message as they are written, in the order of the layout -/
def records (L : Layout M) (m : M) : List Record := Values.records L.fields (L.split m)

def encode (L : Layout M) (m : M) : List UInt8 := (L.records m).flatMap Record.bytes

/-- whether `bs` is a way to write `m` -/
def Encodes (L : Layout M) (m : M) (bs : List UInt8) : Prop :=
  ∃ rs, Values.Writes L.fields (L.split m) rs ∧ bs = rs.flatMap Record.bytes

theorem encodes_encode (L : Layout M) (m : M) : L.Encodes m (L.encode m) :=
  ⟨L.records m, Values.writes_records L.fields (L.split m), rfl⟩

/-- `m` with `n` laid over it -/
def merge (L : Layout M) (m n : M) : M := L.join (Values.merge L.fields (L.split m) (L.split n))

/-- how deep messages and groups may nest -/
def maxDepth : Nat := 100

def decode (L : Layout M) (bs : List UInt8) : Except DecodeError M :=
  match readRecords L.fields maxDepth 0 (Values.empty L.fields) bs with
  | .error e => .error e
  | .ok (vs, _) => .ok (L.join vs)

/-- reads an embedded message into one already there -/
def readInto (L : Layout M) (depth : Nat) (m : M) (bs : List UInt8) :
    Except DecodeError (M × List UInt8) :=
  match readEmbedded L.fields depth (L.split m) bs with
  | .error e => .error e
  | .ok (vs, rest) => .ok (L.join vs, rest)

theorem readInto_length {L : Layout M} {depth : Nat} {m m' : M} {bs rest : List UInt8}
    (h : L.readInto depth m bs = .ok (m', rest)) : rest.length ≤ bs.length := by
  unfold readInto at h
  split at h
  · cases h
  · rename_i hr
    cases h
    exact readEmbedded_length hr

/-- the record that carries a message in a field of another -/
def embed (L : Layout M) (number : Nat) (m : M) : Record :=
  ⟨⟨number, .lengthDelimited⟩, delimited (L.encode m)⟩

/-- whether `r` carries `m`, written in some way -/
def Embeds (L : Layout M) (number : Nat) (m : M) (r : Record) : Prop :=
  ∃ bs, L.Encodes m bs ∧ r = ⟨⟨number, .lengthDelimited⟩, delimited bs⟩

/-- whether each record carries the message in its place -/
def EmbedsAll (L : Layout M) (number : Nat) : List M → List Record → Prop
  | [], rs => rs = []
  | m :: ms, rs => ∃ r rest, L.Embeds number m r ∧ L.EmbedsAll number ms rest ∧ rs = r :: rest

theorem embeds_embed (L : Layout M) (number : Nat) (m : M) :
    L.Embeds number m (L.embed number m) :=
  ⟨L.encode m, L.encodes_encode m, rfl⟩

theorem embedsAll_map_embed (L : Layout M) (number : Nat) (ms : List M) :
    L.EmbedsAll number ms (ms.map (L.embed number)) := by
  induction ms with
  | nil => rfl
  | cons m ms ih => exact ⟨_, _, L.embeds_embed number m, ih, rfl⟩

end Layout

/-! ## the kinds of field -/

def Scalar.record {α : Type} (s : Scalar α) (number : Nat) (a : α) : Record :=
  ⟨⟨number, s.wire⟩, s.write a⟩

/-- reads a scalar once its wire type has been checked -/
def Scalar.readAs {α : Type} (s : Scalar α) (k : Key) (bs : List UInt8) :
    Except DecodeError (α × List UInt8) :=
  if k.wire ≠ s.wire then .error (Fault.wrongWireType k.wire s.wire).toError
  else
    match s.read bs with
    | .error e => .error e.toError
    | .ok r => .ok r

theorem Scalar.readAs_length {α : Type} {s : Scalar α} {k : Key} {bs rest : List UInt8} {a : α}
    (h : s.readAs k bs = .ok (a, rest)) : rest.length ≤ bs.length := by
  unfold readAs at h
  split at h
  · cases h
  · split at h
    · cases h
    · rename_i hr
      cases h
      exact s.read_length hr

/-- changes what was read and leaves the rest alone -/
def mapRead {α β : Type} (g : α → β) :
    Except DecodeError (α × List UInt8) → Except DecodeError (β × List UInt8)
  | .error e => .error e
  | .ok (a, rest) => .ok (g a, rest)

theorem mapRead_length {α β : Type} {g : α → β} {r : Except DecodeError (α × List UInt8)} {b : β}
    {rest : List UInt8} {n : Nat} (hr : ∀ a rest, r = .ok (a, rest) → rest.length ≤ n)
    (h : mapRead g r = .ok (b, rest)) : rest.length ≤ n := by
  cases r with
  | error e => cases h
  | ok p => cases h; exact hr p.1 p.2 rfl

namespace Field

/-- one scalar, not written when it is the value a missing field has -/
def singular {α : Type} [DecidableEq α] (place : Option Place) (number : Nat) (s : Scalar α) :
    Field where
  Value := α
  empty := s.zero
  place := place
  numbers := [number]
  write a := if a = s.zero then [] else [s.record number a]
  merge a b := if b = s.zero then a else b
  read _ k _ bs := s.readAs k bs
  read_length h := Scalar.readAs_length h

/-- any number of scalars, each with a key of its own -/
def repeatedScalar {α : Type} (place : Option Place) (number : Nat) (s : Scalar α) : Field where
  Value := List α
  empty := []
  place := place
  numbers := [number]
  write as := as.map (s.record number)
  merge as bs := as ++ bs
  read _ k as bs := mapRead (fun a => as ++ [a]) (s.readAs k bs)
  read_length h := mapRead_length (fun _ _ => Scalar.readAs_length) h

def readMessage {M : Type} (L : Layout M) (depth : Nat) (k : Key) (m : M)
    (bs : List UInt8) : Except DecodeError (M × List UInt8) :=
  if k.wire ≠ .lengthDelimited then .error (Fault.wrongWireType k.wire .lengthDelimited).toError
  else L.readInto depth m bs

theorem readMessage_length {M : Type} {L : Layout M} {depth : Nat} {k : Key} {m m' : M}
    {bs rest : List UInt8} (h : readMessage L depth k m bs = .ok (m', rest)) :
    rest.length ≤ bs.length := by
  unfold readMessage at h
  split at h
  · cases h
  · exact Layout.readInto_length h

/-- a message that may be missing; one that is present but empty is written with length zero -/
def optional {M : Type} (place : Option Place) (number : Nat) (L : Layout M) : Field where
  Value := Option M
  empty := none
  place := place
  numbers := [number]
  write o := o.toList.map (L.embed number)
  Writes o rs := L.EmbedsAll number o.toList rs
  write_writes o := L.embedsAll_map_embed number o.toList
  merge
    | o, none => o
    | none, some n => some n
    | some m, some n => some (L.merge m n)
  read depth k o bs := mapRead some (readMessage L depth k (o.getD L.empty) bs)
  read_length h := mapRead_length (fun _ _ => readMessage_length) h

/-- any number of messages -/
def repeated {M : Type} (place : Option Place) (number : Nat) (L : Layout M) : Field where
  Value := List M
  empty := []
  place := place
  numbers := [number]
  write ms := ms.map (L.embed number)
  Writes ms rs := L.EmbedsAll number ms rs
  write_writes ms := L.embedsAll_map_embed number ms
  merge ms ns := ms ++ ns
  read depth k ms bs := mapRead (fun m => ms ++ [m]) (readMessage L depth k L.empty bs)
  read_length h := mapRead_length (fun _ _ => readMessage_length) h

end Field

/-! ## alternatives -/

/-- one of several kinds of value that a field may hold, with a number of its own -/
structure Member (V : Type) where
  Carrier : Type
  number : Nat
  scalar : Scalar Carrier
  wrap : Carrier → V
  unwrap? : V → Option Carrier

def Member.record? {V : Type} (c : Member V) (v : V) : Option Record :=
  (c.unwrap? v).map (c.scalar.record c.number)

def Member.read {V : Type} (c : Member V) (k : Key) (bs : List UInt8) :
    Except DecodeError (V × List UInt8) :=
  mapRead c.wrap (c.scalar.readAs k bs)

/-- at most one of several kinds of value; it is written whatever it is, and the last one read stays -/
def Field.oneof {V : Type} (place : Option Place) (members : List (Member V)) : Field where
  Value := Option V
  empty := none
  place := place
  numbers := members.map (·.number)
  write o := o.toList.flatMap fun v => members.filterMap (·.record? v)
  merge o p := p <|> o
  read _ k o bs :=
    match members.find? (·.number == k.number) with
    | none => .ok (o, bs)
    | some c => mapRead some (c.read k bs)
  read_length h := by
    split at h
    · cases h
      exact Nat.le_refl _
    · exact mapRead_length (fun _ _ => mapRead_length (fun _ _ => Scalar.readAs_length)) h

/-! ## maps from text to text -/

abbrev TextMap := Std.ExtTreeMap String String

/-- an entry is a small message with the key in field 1 and the value in field 2 -/
def entryLayout : Layout (String × String) where
  fields := [.singular none 1 .text, .singular none 2 .text]
  split e := (e.1, e.2, ())
  join vs := (vs.1, vs.2.1)
  join_split _ := rfl
  split_join _ := rfl

/-- a map: one record for each entry, in any order and as a rule in that of the keys; the last entry
read for a key stays, and the wire type of a record is not looked at -/
def Field.textMap (place : Option Place) (number : Nat) : Field where
  Value := TextMap
  empty := ∅
  place := place
  numbers := [number]
  write t := t.toList.map (entryLayout.embed number)
  Writes t rs := ∃ es, es.Perm t.toList ∧ rs = es.map (entryLayout.embed number)
  write_writes t := ⟨t.toList, List.Perm.refl _, rfl⟩
  merge t u := t ∪ u
  read depth _ t bs :=
    mapRead (fun e => t.insert e.1 e.2) (entryLayout.readInto depth entryLayout.empty bs)
  read_length h := mapRead_length (fun _ _ => Layout.readInto_length) h

end MockCollector.Wire
