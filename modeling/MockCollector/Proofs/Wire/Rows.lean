import MockCollector.Wire.Layout
/-!
# Rows of records

* `Row Takes u rs w`     the records `rs`, one after the other, lead from the value `u` to `w`;
* `Field.Takes`, `Values.Takes`   one record read into a field, or into the values of several, whatever
                         is behind it;
* `Values.Takes.head`, `Values.Takes.tail`   a record goes to the field that goes by its number;
* `readRecords_row_append`, `readRecords_row`   reading the bytes of a row goes through the row, and on or,
                         at its end, no further.
-/

namespace MockCollector.Wire

/-! ## keys -/

/-- whether a field number fits into a key -/
def Key.Fits (number : Nat) : Prop := 0 < number ∧ number < Key.numberBound

instance (number : Nat) : Decidable (Key.Fits number) := inferInstanceAs (Decidable (_ ∧ _))

theorem Key.toNat_lt {k : Key} (h : Key.Fits k.number) : k.toNat < UInt32.size := by
  have hc := k.wire.code_lt
  have hb := h.2
  simp only [Key.numberBound, UInt32.size, Key.toNat] at hb ⊢
  omega

theorem Key.decode_encode {k : Key} (h : Key.Fits k.number) (rest : List UInt8) :
    Key.decode (k.encode ++ rest) = .ok (k, rest) := by
  have word := Key.toNat_lt h
  have long : k.toNat < UInt64.size := Nat.lt_trans word (by decide)
  have read : readVarint (k.encode ++ rest) = .ok (k.toNat, rest) := by
    rw [Key.encode, Nat.mod_eq_of_lt word, readVarint, Varint.decode_encode long]
  rw [Key.decode, read]
  simp only [Key.ofNat_toNat h.1 h.2]

/-! ## reading one record after another -/

section
variable {fs : List Field} {depth limit : Nat} {vs ws : Values fs} {bs body rest : List UInt8} {k : Key}

theorem readRecords_done (h : bs.length ≤ limit) :
    readRecords fs depth limit vs bs = .ok (vs, bs) := by
  rw [readRecords, if_pos h]

/-- a record that is read leaves the records behind it -/
theorem readRecords_step (h : limit < bs.length) (hk : Key.decode bs = .ok (k, body))
    (hr : readRecord fs depth k vs body = .ok (ws, rest)) :
    readRecords fs depth limit vs bs = readRecords fs depth limit ws rest := by
  rw [readRecords, if_neg (Nat.not_le.mpr h)]
  split
  · rename_i e he
    rw [hk] at he
    cases he
  · rename_i k' body' hk'
    rw [hk] at hk'
    cases hk'
    split
    · rename_i e he
      rw [hr] at he
      cases he
    · rename_i ws' rest' hr'
      rw [hr] at hr'
      cases hr'
      rfl

end

/-! ## rows -/

inductive Row {V : Type} (Takes : V → Record → V → Prop) : V → List Record → V → Prop where
  | nil (v : V) : Row Takes v [] v
  | cons {u v w : V} {r : Record} {rs : List Record} :
    Takes u r v → Row Takes v rs w → Row Takes u (r :: rs) w

namespace Row

variable {V W : Type} {Takes : V → Record → V → Prop} {u v w : V} {rs ss : List Record}

theorem single {r : Record} (h : Takes u r w) : Row Takes u [r] w := .cons h (.nil w)

theorem append (h : Row Takes u rs v) (g : Row Takes v ss w) : Row Takes u (rs ++ ss) w := by
  induction h with
  | nil => exact g
  | cons take _ ih => exact .cons take (ih g)

theorem of_append (h : Row Takes u (rs ++ ss) w) : ∃ v, Row Takes u rs v ∧ Row Takes v ss w := by
  induction rs generalizing u with
  | nil => exact ⟨u, .nil u, h⟩
  | cons r rs ih =>
    cases h with
    | cons take later =>
      obtain ⟨v, mine, theirs⟩ := ih later
      exact ⟨v, .cons take mine, theirs⟩

/-- a row of a part of a value is a row of the whole -/
theorem map {Takes' : W → Record → W → Prop} (g : V → W)
    (lift : ∀ u r w, Takes u r w → Takes' (g u) r (g w)) (h : Row Takes u rs w) :
    Row Takes' (g u) rs (g w) := by
  induction h with
  | nil => exact .nil _
  | cons take _ ih => exact .cons (lift _ _ _ take) ih

end Row

/-! ## the field that a record goes to -/

def Field.Takes (f : Field) (depth : Nat) (u : f.Value) (r : Record) (w : f.Value) : Prop :=
  r.key.number ∈ f.numbers ∧ ∀ rest, f.read depth r.key u (r.payload ++ rest) = .ok (w, rest)

def Values.numbers (fs : List Field) : List Nat := fs.flatMap Field.numbers

def Values.Takes (fs : List Field) (depth : Nat) (us : Values fs) (r : Record) (ws : Values fs) :
    Prop :=
  r.key.number ∈ Values.numbers fs ∧
    ∀ rest, Values.read? fs depth r.key us (r.payload ++ rest) = some (.ok (ws, rest))

namespace Values.Takes

variable {f : Field} {fs : List Field} {depth : Nat} {r : Record}

theorem head {u w : f.Value} (us : Values fs) (h : f.Takes depth u r w) :
    Values.Takes (f :: fs) depth (u, us) r (w, us) := by
  refine ⟨List.mem_append_left _ h.1, fun rest => ?_⟩
  rw [Values.read?, if_pos h.1]
  simp only [h.2 rest]

theorem tail {us ws : Values fs} (u : f.Value) (apart : r.key.number ∉ f.numbers)
    (h : Values.Takes fs depth us r ws) : Values.Takes (f :: fs) depth (u, us) r (u, ws) := by
  refine ⟨List.mem_append_right _ h.1, fun rest => ?_⟩
  rw [Values.read?, if_neg apart]
  simp only [h.2 rest]

end Values.Takes

section
variable {fs : List Field} {depth : Nat} {us ws : Values fs} {rs : List Record}

/-- behind a row, reading goes on with what the row came to -/
theorem readRecords_row_append (fits : ∀ n ∈ Values.numbers fs, Key.Fits n)
    (h : Row (Values.Takes fs depth) us rs ws) {limit : Nat} {rest : List UInt8}
    (room : limit ≤ rest.length) :
    readRecords fs depth limit us (rs.flatMap Record.bytes ++ rest)
      = readRecords fs depth limit ws rest := by
  induction h with
  | nil => rfl
  | @cons u v w r rs take _ ih =>
    have bytes : (r :: rs).flatMap Record.bytes ++ rest
        = r.key.encode ++ (r.payload ++ (rs.flatMap Record.bytes ++ rest)) := by
      simp [Record.bytes]
    have key := Key.decode_encode (k := r.key) (fits _ take.1)
      (r.payload ++ (rs.flatMap Record.bytes ++ rest))
    have read : readRecord fs depth r.key u (r.payload ++ (rs.flatMap Record.bytes ++ rest))
        = .ok (v, rs.flatMap Record.bytes ++ rest) := by
      rw [readRecord, take.2]
    have longer := Key.decode_length key
    simp only [List.length_append] at longer
    rw [bytes, readRecords_step (by simp only [List.length_append]; omega) key read, ih]

theorem readRecords_row (fits : ∀ n ∈ Values.numbers fs, Key.Fits n)
    (h : Row (Values.Takes fs depth) us rs ws) (rest : List UInt8) :
    readRecords fs depth rest.length us (rs.flatMap Record.bytes ++ rest) = .ok (ws, rest) := by
  rw [readRecords_row_append fits h (Nat.le_refl _), readRecords_done (Nat.le_refl _)]

end

end MockCollector.Wire
