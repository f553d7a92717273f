import MockCollector.Proofs.Wire.Complete
/-!
# Readers take a payload each

What is taken off the head of bytes is a payload of the wire type that a field goes by.  The same is made
of it whatever is behind, and how many levels the reader may go down matters only for whether it is
stopped on the way.

* `Agrees low high r a`     `r` is the result `a`, or the failure of a reader that had fewer levels left;
* `WireType.Takes w read`   `read` takes a payload of wire type `w`;
* `WireType.TakesWithin w read`   so does a reader that counts the levels that are left to it;
* `laidOut maps k`          the wire type that the payload behind a key is taken for: that of the key, unless
                            the record is one of a map;
* `WireType.lays_iff`       of no group, a payload is what is passed over whole;
* `Scalar.Exact`, `Field.Exact`, `Layout.Exact`   each value is read from such a payload;
* `skipField_exact`, `readRecords_exact`, `readEmbedded_exact`   so it is for unknown fields and messages;
* `Field.exact_singular` and the others   every kind of field is exact.
-/

namespace MockCollector.Wire

/-! ## levels -/

def Agrees {α : Type} (low high : Nat) (r : Except DecodeError α) (a : α) : Prop :=
  r = .ok a ∨ low < high ∧ ∃ e, r = .error e ∧ e.fault = .nestedTooDeep

theorem Agrees.of_same {α : Type} {depth : Nat} {r : Except DecodeError α} {a : α}
    (h : Agrees depth depth r a) : r = .ok a := by
  rcases h with h | ⟨less, -⟩
  · exact h
  · exact absurd less (Nat.lt_irrefl depth)

theorem Agrees.mapRead {α β : Type} {low high : Nat} {r : Except DecodeError (α × List UInt8)} {a : α}
    {rest : List UInt8} (g : α → β) (h : Agrees low high r (a, rest)) :
    Agrees low high (mapRead g r) (g a, rest) := by
  rcases h with rfl | ⟨less, e, rfl, deep⟩
  · exact Or.inl rfl
  · exact Or.inr ⟨less, e, rfl, deep⟩

theorem mapRead_eq_ok {α β : Type} {g : α → β} {r : Except DecodeError (α × List UInt8)} {b : β}
    {rest : List UInt8} (h : mapRead g r = .ok (b, rest)) : ∃ a, r = .ok (a, rest) ∧ g a = b := by
  cases r with
  | error e => cases h
  | ok p =>
    cases h
    exact ⟨p.1, rfl, rfl⟩

/-! ## what was taken -/

section
variable {bs rest : List UInt8}

theorem Key.tag_of_decode {k : Key} (h : Key.decode bs = .ok (k, rest)) :
    ∃ tag, bs = tag ++ rest ∧ ∀ ext, Key.decode (tag ++ ext) = .ok (k, ext) := by
  unfold Key.decode at h
  split at h
  · cases h
  · rename_i n mid hn
    obtain ⟨tag, spells, rfl⟩ := spells_of_readVarint hn
    split at h
    · cases h
    · rename_i hk
      cases h
      refine ⟨tag, rfl, fun ext => ?_⟩
      rw [Key.decode, readVarint_of_spells spells]
      simp only [hk]

theorem taken_of_takeBytes {n : Nat} {taken : List UInt8} (h : takeBytes n bs = .ok (taken, rest)) :
    taken.length = n ∧ bs = taken ++ rest := by
  unfold takeBytes at h
  split at h
  · cases h
  · rename_i enough
    cases h
    exact ⟨List.length_take_of_le (Nat.not_lt.mp enough), (List.take_append_drop n bs).symm⟩

end

/-- what `read` takes is a payload of wire type `w`, and what is behind it does not matter -/
def WireType.Takes {ε α : Type} (w : WireType) (read : List UInt8 → Except ε (α × List UInt8)) : Prop :=
  ∀ ⦃bs a rest⦄, read bs = .ok (a, rest) → ∃ taken, w.Lays taken ∧ bs = taken ++ rest ∧
    ∀ ext, read (taken ++ ext) = .ok (a, ext)

namespace WireType

/-- what is made of the bytes that were taken does not matter -/
theorem Takes.map {ε α β : Type} {w : WireType} {read : List UInt8 → Except ε (α × List UInt8)}
    (h : w.Takes read) (f : α → β) : w.Takes fun bs => (read bs).map fun r => (f r.1, r.2) := by
  intro bs b rest hr
  cases found : read bs with
  | error e =>
    simp only [found] at hr
    cases hr
  | ok r =>
    simp only [found] at hr
    cases hr
    obtain ⟨taken, lays, rfl, same⟩ := h found
    refine ⟨taken, lays, rfl, fun ext => ?_⟩
    simp only [same]
    rfl

theorem takes_readVarint : WireType.varint.Takes readVarint := by
  intro bs n rest h
  obtain ⟨spelling, spells, rfl⟩ := spells_of_readVarint h
  exact ⟨spelling, .varint spells, rfl, readVarint_of_spells spells⟩

theorem takes_takeBytes {w : WireType} {n : Nat} (lays : ∀ {bs : List UInt8}, bs.length = n → w.Lays bs) :
    w.Takes (takeBytes n) := by
  intro bs taken rest h
  obtain ⟨rfl, rfl⟩ := taken_of_takeBytes h
  exact ⟨taken, lays rfl, rfl, takeBytes_append taken⟩

theorem takes_readDelimited : WireType.lengthDelimited.Takes readDelimited := by
  intro bs body rest h
  unfold readDelimited at h
  split at h
  · cases h
  · rename_i n mid hn
    obtain ⟨length, spells, rfl⟩ := spells_of_readVarint hn
    obtain ⟨rfl, rfl⟩ := taken_of_takeBytes h
    refine ⟨length ++ body, .lengthDelimited spells, (List.append_assoc _ _ _).symm, fun ext => ?_⟩
    rw [readDelimited, List.append_assoc, readVarint_of_spells spells]
    exact takeBytes_append body ext

end WireType

theorem lays_of_skipPayload {w : WireType} {bs rest : List UInt8} (ungrouped : w ≠ .groupStart)
    (h : skipPayload w bs = .ok rest) : ∃ taken, w.Lays taken ∧ bs = taken ++ rest := by
  have payload {α : Type} {read : List UInt8 → Except Fault (α × List UInt8)} (takes : w.Takes read)
      (h : (read bs).map (·.2) = .ok rest) : ∃ taken, w.Lays taken ∧ bs = taken ++ rest := by
    cases found : read bs with
    | error e =>
      rw [found] at h
      cases h
    | ok r =>
      rw [found] at h
      cases h
      obtain ⟨taken, lays, split, -⟩ := takes found
      exact ⟨taken, lays, split⟩
  cases w with
  | varint => exact payload WireType.takes_readVarint h
  | fixed64 => exact payload (WireType.takes_takeBytes .fixed64) h
  | lengthDelimited => exact payload WireType.takes_readDelimited h
  | fixed32 => exact payload (WireType.takes_takeBytes .fixed32) h
  | groupStart => exact absurd rfl ungrouped
  | groupEnd => cases h

theorem WireType.lays_iff {w : WireType} {bs : List UInt8} :
    w.Lays bs ↔ w ≠ .groupStart ∧ (skipPayload w bs).toOption = some [] := by
  constructor
  · intro lays
    have passed := lays.skipPayload []
    rw [List.append_nil] at passed
    exact ⟨lays.ungrouped.1, congrArg Except.toOption passed⟩
  · rintro ⟨ungrouped, passed⟩
    cases h : skipPayload w bs with
    | error e =>
      rw [h] at passed
      cases passed
    | ok rest =>
      rw [h] at passed
      obtain rfl := Option.some.inj passed
      obtain ⟨taken, lays, rfl⟩ := lays_of_skipPayload ungrouped h
      rwa [List.append_nil]

instance (w : WireType) (bs : List UInt8) : Decidable (w.Lays bs) :=
  decidable_of_iff _ WireType.lays_iff.symm

/-! ## unknown fields -/

section
variable {high : Nat} {bs rest : List UInt8}

theorem skipGroups_exact {opened : List Nat} (h : skipGroups high opened bs = .ok rest) :
    ∃ taken, bs = taken ++ rest ∧ ∀ low ext, skipGroups low opened (taken ++ ext) = .ok ext ∨
      low < high ∧ skipGroups low opened (taken ++ ext) = .error .nestedTooDeep := by
  fun_induction skipGroups high opened bs with
  | case1 bs =>
    cases h
    exact ⟨[], rfl, fun low ext => Or.inl (by rw [List.nil_append, skipGroups])⟩
  | case2 => cases h
  | case3 bs outer k mid hk _ ends ih =>
    obtain ⟨tag, rfl, key⟩ := Key.tag_of_decode hk
    obtain ⟨taken, rfl, same⟩ := ih h
    refine ⟨tag ++ taken, (List.append_assoc _ _ _).symm, fun low ext => ?_⟩
    rw [List.append_assoc, skipGroups_cons (key _), if_pos ends, if_pos rfl]
    exact same low ext
  | case4 => cases h
  | case5 => cases h
  | case6 bs innermost outer k mid hk _ goesOn enough starts ih =>
    obtain ⟨tag, rfl, key⟩ := Key.tag_of_decode hk
    obtain ⟨taken, rfl, same⟩ := ih h
    refine ⟨tag ++ taken, (List.append_assoc _ _ _).symm, fun low ext => ?_⟩
    rw [List.append_assoc, skipGroups_cons (key _), if_neg goesOn]
    -- where `low` levels do not suffice and `high` did, there were fewer of them
    by_cases deep : low ≤ (innermost :: outer).length
    · rw [if_pos deep]
      exact Or.inr ⟨Nat.lt_of_le_of_lt deep (Nat.not_le.mp enough), rfl⟩
    · rw [if_neg deep, if_pos starts]
      exact same low ext
  | case7 => cases h
  | case8 bs innermost outer k mid hk _ goesOn enough other after hp _ ih =>
    obtain ⟨tag, rfl, key⟩ := Key.tag_of_decode hk
    obtain ⟨payload, lays, rfl⟩ := lays_of_skipPayload other hp
    obtain ⟨taken, rfl, same⟩ := ih h
    refine ⟨tag ++ (payload ++ taken), by simp only [List.append_assoc], fun low ext => ?_⟩
    rw [List.append_assoc, skipGroups_cons (key _), if_neg goesOn]
    by_cases deep : low ≤ (innermost :: outer).length
    · rw [if_pos deep]
      exact Or.inr ⟨Nat.lt_of_le_of_lt deep (Nat.not_le.mp enough), rfl⟩
    · rw [if_neg deep, if_neg other, List.append_assoc, lays.skipPayload]
      exact same low ext

theorem skipField_exact {k : Key} (h : skipField high k bs = .ok rest) :
    ∃ taken, bs = taken ++ rest ∧ ∀ low ext, skipField low k (taken ++ ext) = .ok ext ∨
      low < high ∧ skipField low k (taken ++ ext) = .error .nestedTooDeep := by
  unfold skipField at h
  split at h
  · cases h
  · rename_i levels
    have stopped {taken : List UInt8} {low : Nat} (spent : low = 0) :
        low < high ∧ skipField low k taken = .error .nestedTooDeep :=
      ⟨by omega, if_pos spent⟩
    split at h
    · rename_i starts
      obtain ⟨taken, rfl, same⟩ := skipGroups_exact h
      refine ⟨taken, rfl, fun low ext => ?_⟩
      by_cases spent : low = 0
      · exact Or.inr (stopped spent)
      · rw [skipField, if_neg spent, if_pos starts]
        exact same low ext
    · rename_i other
      obtain ⟨taken, lays, rfl⟩ := lays_of_skipPayload other h
      refine ⟨taken, rfl, fun low ext => ?_⟩
      by_cases spent : low = 0
      · exact Or.inr (stopped spent)
      · rw [skipField, if_neg spent, if_neg other]
        exact Or.inl (lays.skipPayload ext)

end

/-! ## fields and layouts -/

/-- what is taken does not depend on the levels that are left, unless they do not suffice -/
def WireType.TakesWithin {α : Type} (w : WireType)
    (read : Nat → List UInt8 → Except DecodeError (α × List UInt8)) : Prop :=
  ∀ ⦃high bs a rest⦄, read high bs = .ok (a, rest) → ∃ taken, w.Lays taken ∧ bs = taken ++ rest ∧
    ∀ low ext, Agrees low high (read low (taken ++ ext)) (a, ext)

namespace WireType

theorem Takes.within {α : Type} {w : WireType} {read : List UInt8 → Except DecodeError (α × List UInt8)}
    (h : w.Takes read) : w.TakesWithin fun _ => read := by
  intro _ bs a rest hr
  obtain ⟨taken, lays, split, same⟩ := h hr
  exact ⟨taken, lays, split, fun _ ext => Or.inl (same ext)⟩

theorem TakesWithin.mapRead {α β : Type} {w : WireType}
    {read : Nat → List UInt8 → Except DecodeError (α × List UInt8)} (h : w.TakesWithin read)
    (g : α → β) : w.TakesWithin fun depth bs => Wire.mapRead g (read depth bs) := by
  intro high bs b rest hr
  obtain ⟨a, found, rfl⟩ := mapRead_eq_ok hr
  obtain ⟨taken, lays, split, agrees⟩ := h found
  exact ⟨taken, lays, split, fun low ext => (agrees low ext).mapRead g⟩

end WireType

def laidOut (maps : List Nat) (k : Key) : WireType :=
  if k.number ∈ maps then .lengthDelimited else k.wire

def Scalar.Exact {α : Type} (s : Scalar α) : Prop := s.wire.Takes s.read

def Field.Exact (maps : List Nat) (f : Field) : Prop :=
  ∀ (k : Key) v, k.number ∈ f.numbers → (laidOut maps k).TakesWithin fun depth => f.read depth k v

def Layout.Exact {M : Type} (maps : List Nat) (L : Layout M) : Prop := ∀ f ∈ L.fields, f.Exact maps

section
variable {fs : List Field} {maps : List Nat} {high limit : Nat} {k : Key} {bs rest body : List UInt8}

section
variable {f : Field} {low depth : Nat} {v : f.Value} {vs : Values fs}

theorem Values.agrees_head {w : f.Value} (mine : k.number ∈ f.numbers)
    (h : Agrees low high (f.read depth k v bs) (w, rest)) :
    ∃ r, Values.read? (f :: fs) depth k (v, vs) bs = some r ∧ Agrees low high r ((w, vs), rest) := by
  rw [Values.read?, if_pos mine]
  rcases h with same | ⟨less, e, failed, deep⟩
  · rw [same]
    exact ⟨_, rfl, Or.inl rfl⟩
  · rw [failed]
    refine ⟨_, rfl, Or.inr ⟨less, f.located e, rfl, ?_⟩⟩
    unfold Field.located
    split
    · exact deep
    · exact deep

theorem Values.agrees_tail {ws : Values fs} (other : k.number ∉ f.numbers)
    (h : ∃ r, Values.read? fs depth k vs bs = some r ∧ Agrees low high r (ws, rest)) :
    ∃ r, Values.read? (f :: fs) depth k (v, vs) bs = some r ∧ Agrees low high r ((v, ws), rest) := by
  obtain ⟨r, read, agrees⟩ := h
  rw [Values.read?, if_neg other, read]
  rcases agrees with rfl | ⟨less, e, rfl, deep⟩
  · exact ⟨_, rfl, Or.inl rfl⟩
  · exact ⟨_, rfl, Or.inr ⟨less, e, rfl, deep⟩⟩

end

theorem Values.read?_exact (fields : ∀ f ∈ fs, f.Exact maps) {vs ws : Values fs}
    (h : Values.read? fs high k vs bs = some (.ok (ws, rest))) :
    ∃ taken, (laidOut maps k).Lays taken ∧ bs = taken ++ rest ∧ ∀ low ext,
      ∃ r, Values.read? fs low k vs (taken ++ ext) = some r ∧ Agrees low high r (ws, ext) := by
  induction fs with
  | nil => cases h
  | cons f fs ih =>
    obtain ⟨v, vs⟩ := vs
    rw [Values.read?] at h
    by_cases mine : k.number ∈ f.numbers
    · rw [if_pos mine] at h
      split at h
      · cases h
      · rename_i hr
        cases h
        obtain ⟨taken, lays, split, agrees⟩ := fields f List.mem_cons_self k v mine hr
        exact ⟨taken, lays, split, fun low ext => Values.agrees_head mine (agrees low ext)⟩
    · rw [if_neg mine] at h
      split at h
      · cases h
      · cases h
      · rename_i hr
        cases h
        obtain ⟨taken, lays, split, agrees⟩ := ih (fun g hg => fields g (List.mem_cons_of_mem f hg)) hr
        exact ⟨taken, lays, split, fun low ext => Values.agrees_tail mine (agrees low ext)⟩

/-- which field a record goes to depends on its number alone -/
theorem Values.read?_eq_none_iff {depth : Nat} {vs : Values fs} :
    Values.read? fs depth k vs bs = none ↔ k.number ∉ Values.numbers fs := by
  induction fs with
  | nil => exact ⟨fun _ => List.not_mem_nil, fun _ => rfl⟩
  | cons f fs ih =>
    obtain ⟨v, vs⟩ := vs
    have numbers : k.number ∉ Values.numbers (f :: fs) ↔
        k.number ∉ f.numbers ∧ k.number ∉ Values.numbers fs := by
      rw [Values.numbers, List.flatMap_cons, List.mem_append, not_or]
      rfl
    rw [Values.read?, numbers]
    by_cases mine : k.number ∈ f.numbers
    · rw [if_pos mine]
      refine ⟨fun unread => ?_, fun absent => absurd mine absent.1⟩
      split at unread <;> cases unread
    · rw [if_neg mine, ← @ih vs]
      cases Values.read? fs depth k vs bs with
      | none => exact ⟨fun _ => ⟨mine, rfl⟩, fun _ => rfl⟩
      | some r =>
        refine ⟨fun unread => ?_, fun absent => ?_⟩
        · cases r <;> cases unread
        · cases absent.2

theorem readRecord_exact (fields : ∀ f ∈ fs, f.Exact maps) {vs ws : Values fs}
    (h : readRecord fs high k vs bs = .ok (ws, rest)) : ∃ taken, bs = taken ++ rest ∧
      ∀ low ext, Agrees low high (readRecord fs low k vs (taken ++ ext)) (ws, ext) := by
  unfold readRecord at h
  split at h
  · rename_i hr
    subst h
    obtain ⟨taken, -, rfl, agrees⟩ := Values.read?_exact fields hr
    refine ⟨taken, rfl, fun low ext => ?_⟩
    obtain ⟨r, hs, agrees⟩ := agrees low ext
    rw [readRecord, hs]
    exact agrees
  · rename_i unknown
    split at h
    · cases h
    · rename_i hs
      cases h
      obtain ⟨taken, rfl, same⟩ := skipField_exact hs
      refine ⟨taken, rfl, fun low ext => ?_⟩
      have still : Values.read? fs low k vs (taken ++ ext) = none :=
        Values.read?_eq_none_iff.mpr (Values.read?_eq_none_iff.mp unknown)
      rcases same low ext with same | ⟨less, deep⟩
      · simp only [readRecord, still, same]
        exact Or.inl rfl
      · simp only [readRecord, still, deep]
        exact Or.inr ⟨less, _, rfl, rfl⟩

/-- a record that cannot be read is the end of it -/
theorem readRecords_error {depth : Nat} {vs : Values fs} {e : DecodeError} (h : limit < bs.length)
    (hk : Key.decode bs = .ok (k, body)) (hr : readRecord fs depth k vs body = .error e) :
    readRecords fs depth limit vs bs = .error e := by
  rw [readRecords, if_neg (Nat.not_le.mpr h)]
  split
  · rename_i he
    rw [hk] at he
    cases he
  · rename_i hk'
    rw [hk] at hk'
    cases hk'
    split
    · rename_i he
      rw [hr] at he
      cases he
      rfl
    · rename_i he
      rw [hr] at he
      cases he

/-- reading goes on until at most `limit` bytes are left -/
theorem readRecords_within {depth : Nat} {vs ws : Values fs}
    (h : readRecords fs depth limit vs bs = .ok (ws, rest)) : rest.length ≤ limit := by
  fun_induction readRecords fs depth limit vs bs with
  | case1 vs bs done =>
    cases h
    exact done
  | case2 => cases h
  | case3 => cases h
  | case4 => rename_i ih; exact ih h

/-- records that end where they should end there whatever is behind -/
theorem readRecords_exact (fields : ∀ f ∈ fs, f.Exact maps) {vs ws : Values fs}
    (h : readRecords fs high rest.length vs bs = .ok (ws, rest)) : ∃ taken, bs = taken ++ rest ∧
      ∀ low ext, Agrees low high (readRecords fs low ext.length vs (taken ++ ext)) (ws, ext) := by
  generalize hl : rest.length = limit at h
  fun_induction readRecords fs high limit vs bs with
  | case1 vs bs done =>
    cases h
    exact ⟨[], rfl, fun low ext => Or.inl (readRecords_done (Nat.le_refl _))⟩
  | case2 => cases h
  | case3 => cases h
  | case4 vs bs more k body hk us mid hr _ _ ih =>
    obtain ⟨tag, rfl, key⟩ := Key.tag_of_decode hk
    obtain ⟨payload, rfl, first⟩ := readRecord_exact fields hr
    obtain ⟨taken, rfl, others⟩ := ih h
    refine ⟨tag ++ (payload ++ taken), by simp only [List.append_assoc], fun low ext => ?_⟩
    have key := key (payload ++ (taken ++ ext))
    have longer : ext.length < (tag ++ (payload ++ (taken ++ ext))).length := by
      have some := Key.decode_length key
      simp only [List.length_append] at some ⊢
      omega
    rw [List.append_assoc, List.append_assoc]
    rcases first low (taken ++ ext) with same | ⟨less, e, failed, deep⟩
    · rw [readRecords_step longer key same]
      exact others low ext
    · rw [readRecords_error longer key failed]
      exact Or.inr ⟨less, e, rfl, deep⟩

theorem readEmbedded_exact (fields : ∀ f ∈ fs, f.Exact maps) (vs : Values fs) :
    WireType.lengthDelimited.TakesWithin fun depth => readEmbedded fs depth vs := by
  intro high bs ws rest h
  change readEmbedded fs high vs bs = _ at h
  unfold readEmbedded at h
  split at h
  · cases h
  · rename_i inner
    split at h
    · cases h
    · rename_i n body hn
      split at h
      · cases h
      · rename_i enough
        split at h
        · cases h
        · rename_i us mid hr
          split at h
          · rename_i ends
            cases h
            obtain ⟨length, spells, rfl⟩ := spells_of_readVarint hn
            rw [← ends] at hr
            obtain ⟨taken, rfl, agrees⟩ := readRecords_exact fields hr
            simp only [List.length_append] at ends enough
            obtain rfl : n = taken.length := by omega
            refine ⟨length ++ taken, .lengthDelimited spells, (List.append_assoc _ _ _).symm,
              fun low ext => ?_⟩
            show Agrees low (inner + 1) (readEmbedded fs low vs (length ++ taken ++ ext)) (ws, ext)
            cases low with
            | zero => exact Or.inr ⟨Nat.succ_pos inner, _, rfl, rfl⟩
            | succ low =>
              have announced : ¬ (taken ++ ext).length < taken.length := by simp
              have behind : (taken ++ ext).length - taken.length = ext.length := by simp
              rw [readEmbedded, List.append_assoc, readVarint_of_spells spells]
              simp only [if_neg announced, behind]
              rcases agrees low ext with same | ⟨less, e, failed, deep⟩
              · simp only [same, if_true]
                exact Or.inl rfl
              · simp only [failed]
                exact Or.inr ⟨Nat.succ_lt_succ less, e, rfl, deep⟩
          · cases h

end

namespace Layout.Exact

variable {M : Type} {L : Layout M} {maps : List Nat} {m : M}

theorem readInto (h : L.Exact maps) (m : M) :
    WireType.lengthDelimited.TakesWithin fun depth => L.readInto depth m := by
  intro high bs w rest hr
  change L.readInto high m bs = _ at hr
  unfold Layout.readInto at hr
  split at hr
  · cases hr
  · rename_i he
    cases hr
    obtain ⟨taken, lays, split, agrees⟩ := readEmbedded_exact h _ he
    refine ⟨taken, lays, split, fun low ext => ?_⟩
    have agrees : Agrees low high (readEmbedded L.fields low (L.split m) (taken ++ ext)) _ :=
      agrees low ext
    show Agrees low high (L.readInto low m (taken ++ ext)) _
    rw [Layout.readInto]
    rcases agrees with same | ⟨less, e, failed, deep⟩
    · rw [same]
      exact Or.inl rfl
    · rw [failed]
      exact Or.inr ⟨less, e, rfl, deep⟩

theorem readMessage (h : L.Exact maps) (k : Key) (m : M) :
    k.wire.TakesWithin fun depth => Field.readMessage L depth k m := by
  intro high bs w rest hr
  change Field.readMessage L high k m bs = _ at hr
  unfold Field.readMessage at hr
  split at hr
  · cases hr
  · rename_i wire
    obtain wire := Decidable.not_not.mp wire
    obtain ⟨taken, lays, split, agrees⟩ := h.readInto m hr
    refine ⟨taken, wire ▸ lays, split, fun low ext => ?_⟩
    show Agrees low high (Field.readMessage L low k m (taken ++ ext)) _
    rw [Field.readMessage, if_neg (not_not_intro wire)]
    exact agrees low ext

/-- a message that is decoded by itself is read as the same message in front of other bytes, if there
are as many levels left for what is in it -/
theorem readInto_of_decode (h : L.Exact maps) {bs length : List UInt8}
    (hl : Varint.Spells bs.length length) (hm : L.decode bs = .ok m) (low : Nat) (rest : List UInt8) :
    Agrees low maxDepth (L.readInto (low + 1) L.empty (length ++ bs ++ rest)) (m, rest) := by
  unfold Layout.decode at hm
  split at hm
  · cases hm
  · rename_i vs left hr
    cases hm
    obtain rfl : left = [] := List.eq_nil_of_length_eq_zero (Nat.le_zero.mp (readRecords_within hr))
    have ends : readRecords L.fields maxDepth ([] : List UInt8).length (Values.empty _) bs
        = .ok (vs, []) := hr
    obtain ⟨taken, rfl, agrees⟩ := readRecords_exact h ends
    rw [List.append_nil] at hl ⊢
    have announced : readVarint (length ++ taken ++ rest) = .ok (taken.length, taken ++ rest) := by
      rw [List.append_assoc]
      exact readVarint_of_spells hl (taken ++ rest)
    have enough : ¬ (taken ++ rest).length < taken.length := by simp
    have behind : (taken ++ rest).length - taken.length = rest.length := by simp
    rw [Layout.readInto, Layout.empty, L.split_join]
    rw [readEmbedded, announced]
    simp only [if_neg enough, behind]
    rcases agrees low rest with same | ⟨less, e, failed, deep⟩
    · simp only [same, if_true]
      exact Or.inl rfl
    · simp only [failed]
      exact Or.inr ⟨less, e, rfl, deep⟩

end Layout.Exact

/-! ## scalars -/

namespace Scalar

theorem exact_ofVarint {α : Type} (zero : α) (toNat : α → Nat) (ofNat : Nat → α) :
    (Scalar.ofVarint zero toNat ofNat).Exact :=
  WireType.takes_readVarint.map ofNat

theorem exact_double : Scalar.double.Exact :=
  (WireType.takes_takeBytes .fixed64).map doubleOfBytes

theorem exact_text : Scalar.text.Exact := by
  intro bs s rest h
  change readText bs = _ at h
  unfold readText at h
  split at h
  · cases h
  · rename_i body mid hb
    split at h
    · cases h
    · rename_i hs
      cases h
      obtain ⟨taken, lays, rfl, same⟩ := WireType.takes_readDelimited hb
      refine ⟨taken, lays, rfl, fun ext => ?_⟩
      show readText (taken ++ ext) = _
      rw [readText, same]
      simp only [hs]

theorem Exact.readAs {α : Type} {s : Scalar α} (hs : s.Exact) (k : Key) :
    k.wire.Takes (s.readAs k) := by
  intro bs a rest h
  unfold Scalar.readAs at h
  split at h
  · cases h
  · rename_i wire
    obtain wire := Decidable.not_not.mp wire
    split at h
    · cases h
    · rename_i hr
      cases h
      obtain ⟨taken, lays, rfl, same⟩ := hs hr
      refine ⟨taken, wire ▸ lays, rfl, fun ext => ?_⟩
      rw [Scalar.readAs, if_neg (not_not_intro wire), same]

end Scalar

/-! ## the kinds of field are exact -/

namespace Field

variable {place : Option Place} {number : Nat} {maps inner : List Nat}

/-- a field that looks at the wire type is laid out as it says -/
theorem exact_of_typed {f : Field} (typed : ∀ n ∈ f.numbers, n ∉ maps)
    (h : ∀ (k : Key) v, k.number ∈ f.numbers → k.wire.TakesWithin fun depth => f.read depth k v) :
    f.Exact maps := by
  intro k v mine
  rw [laidOut, if_neg (typed k.number mine)]
  exact h k v mine

theorem exact_singular {α : Type} [DecidableEq α] {s : Scalar α} (hs : s.Exact)
    (typed : number ∉ maps) : (Field.singular place number s).Exact maps :=
  exact_of_typed (fun _ hn => List.mem_singleton.mp hn ▸ typed) fun k _ _ => (hs.readAs k).within

theorem exact_repeatedScalar {α : Type} {s : Scalar α} (hs : s.Exact) (typed : number ∉ maps) :
    (Field.repeatedScalar place number s).Exact maps :=
  exact_of_typed (fun _ hn => List.mem_singleton.mp hn ▸ typed) fun k _ _ =>
    (hs.readAs k).within.mapRead _

theorem exact_optional {M : Type} {L : Layout M} (hL : L.Exact inner) (typed : number ∉ maps) :
    (Field.optional place number L).Exact maps :=
  exact_of_typed (fun _ hn => List.mem_singleton.mp hn ▸ typed) fun k _ _ =>
    (hL.readMessage k _).mapRead some

theorem exact_repeated {M : Type} {L : Layout M} (hL : L.Exact inner) (typed : number ∉ maps) :
    (Field.repeated place number L).Exact maps :=
  exact_of_typed (fun _ hn => List.mem_singleton.mp hn ▸ typed) fun k _ _ =>
    (hL.readMessage k _).mapRead _

theorem exact_oneof {V : Type} {members : List (Member V)} (hs : ∀ c ∈ members, c.scalar.Exact)
    (typed : ∀ c ∈ members, c.number ∉ maps) : (Field.oneof place members).Exact maps := by
  refine exact_of_typed (fun n hn => ?_) fun k _ mine => ?_
  · obtain ⟨c, hc, rfl⟩ := List.mem_map.mp hn
    exact typed c hc
  · obtain ⟨d, hd, number⟩ := List.mem_map.mp mine
    cases hc : members.find? (·.number == k.number) with
    | none => exact absurd (beq_iff_eq.mpr number) (List.find?_eq_none.mp hc d hd)
    | some c =>
      have scalar : c.scalar.Exact := hs c (List.mem_of_find?_eq_some hc)
      simp only [Field.oneof, hc]
      exact ((scalar.readAs k).within.mapRead c.wrap).mapRead some

end Field

theorem exact_entryLayout : entryLayout.Exact [] := by
  intro f hf
  rcases List.mem_cons.mp hf with rfl | hf
  · exact Field.exact_singular Scalar.exact_text List.not_mem_nil
  · obtain rfl := List.mem_singleton.mp hf
    exact Field.exact_singular Scalar.exact_text List.not_mem_nil

theorem Field.exact_textMap {place : Option Place} {number : Nat} {maps : List Nat}
    (listed : number ∈ maps) : (Field.textMap place number).Exact maps := by
  intro k v mine
  have map : laidOut maps k = .lengthDelimited := if_pos (List.mem_singleton.mp mine ▸ listed)
  rw [map]
  exact (exact_entryLayout.readInto entryLayout.empty).mapRead _

end MockCollector.Wire
