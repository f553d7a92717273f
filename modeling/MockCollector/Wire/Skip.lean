import MockCollector.Wire.Key
/-!
# Passing over unknown fields

A field whose number a message does not declare is passed over whatever its wire type.  A group
runs up to the closing key of the same number and may hold fields and further groups.

* `takeBytes n bs`               the first `n` bytes and the rest;
* `skipPayload w bs`             passes the payload of an ungrouped field;
* `skipGroups depth opened bs`   passes everything up to the end of the groups in `opened`,
                                 innermost first;
* `skipField depth k bs`         passes the payload of a field whose key was `k`.

`depth` is how many more levels may be entered: messages and groups count alike.
-/

namespace MockCollector.Wire

def takeBytes (n : Nat) (bs : List UInt8) : Except Fault (List UInt8 × List UInt8) :=
  if bs.length < n then .error .underflow else .ok (bs.take n, bs.drop n)

/-- a length and that many bytes -/
def readDelimited (bs : List UInt8) : Except Fault (List UInt8 × List UInt8) :=
  match readVarint bs with
  | .error e => .error e
  | .ok (n, rest) => takeBytes n rest

theorem takeBytes_length {n : Nat} {bs taken rest : List UInt8}
    (h : takeBytes n bs = .ok (taken, rest)) : rest.length ≤ bs.length := by
  unfold takeBytes at h
  split at h
  · cases h
  · cases h
    simp

theorem readDelimited_length {bs taken rest : List UInt8}
    (h : readDelimited bs = .ok (taken, rest)) : rest.length ≤ bs.length := by
  unfold readDelimited at h
  split at h
  · cases h
  · rename_i n r hr
    have := readVarint_length hr
    have := takeBytes_length h
    omega

/-! ## ungrouped fields -/

def skipPayload (w : WireType) (bs : List UInt8) : Except Fault (List UInt8) :=
  match w with
  | .varint => (readVarint bs).map (·.2)
  | .fixed64 => (takeBytes 8 bs).map (·.2)
  | .lengthDelimited => (readDelimited bs).map (·.2)
  | .fixed32 => (takeBytes 4 bs).map (·.2)
  | .groupStart => .ok bs
  | .groupEnd => .error .strayGroupEnd

private theorem map_snd_length {f : Except Fault (α × List UInt8)} {rest : List UInt8} {n : Nat}
    (hf : ∀ a r, f = .ok (a, r) → r.length ≤ n) (h : f.map (·.2) = .ok rest) : rest.length ≤ n := by
  cases f with
  | error e => cases h
  | ok p => cases h; exact hf p.1 p.2 rfl

theorem skipPayload_length {w : WireType} {bs rest : List UInt8}
    (h : skipPayload w bs = .ok rest) : rest.length ≤ bs.length := by
  cases w with
  | varint => exact map_snd_length (fun _ _ h => Nat.le_of_lt (readVarint_length h)) h
  | fixed64 => exact map_snd_length (fun _ _ h => takeBytes_length h) h
  | lengthDelimited => exact map_snd_length (fun _ _ h => readDelimited_length h) h
  | fixed32 => exact map_snd_length (fun _ _ h => takeBytes_length h) h
  | groupStart => cases h; exact Nat.le_refl _
  | groupEnd => cases h

/-! ## groups -/

def skipGroups (depth : Nat) (opened : List Nat) (bs : List UInt8) : Except Fault (List UInt8) :=
  match opened with
  | [] => .ok bs
  | innermost :: outer =>
    match hk : Key.decode bs with
    | .error e => .error e
    | .ok (k, rest) =>
      have := Key.decode_length hk
      if k.wire = .groupEnd then
        if k.number = innermost then skipGroups depth outer rest else .error .strayGroupEnd
      else if depth ≤ (innermost :: outer).length then .error .nestedTooDeep
      else if k.wire = .groupStart then skipGroups depth (k.number :: innermost :: outer) rest
      else
        match hp : skipPayload k.wire rest with
        | .error e => .error e
        | .ok after =>
          have := skipPayload_length hp
          skipGroups depth (innermost :: outer) after
termination_by bs.length
decreasing_by all_goals omega

theorem skipGroups_length {depth : Nat} {opened : List Nat} {bs rest : List UInt8}
    (h : skipGroups depth opened bs = .ok rest) : rest.length ≤ bs.length := by
  fun_induction skipGroups depth opened bs with
  | case1 bs => cases h; exact Nat.le_refl _
  | case2 => cases h
  | case3 => rename_i ih; have := ih h; omega
  | case4 => cases h
  | case5 => cases h
  | case6 => rename_i ih; have := ih h; omega
  | case7 => cases h
  | case8 => rename_i ih; have := ih h; omega

/-! ## any field -/

def skipField (depth : Nat) (k : Key) (bs : List UInt8) : Except Fault (List UInt8) :=
  if depth = 0 then .error .nestedTooDeep
  else if k.wire = .groupStart then skipGroups depth [k.number] bs
  else skipPayload k.wire bs

theorem skipField_length {depth : Nat} {k : Key} {bs rest : List UInt8}
    (h : skipField depth k bs = .ok rest) : rest.length ≤ bs.length := by
  unfold skipField at h
  split at h
  · cases h
  · split at h
    · exact skipGroups_length h
    · exact skipPayload_length h

end MockCollector.Wire
