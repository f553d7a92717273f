import MockCollector.Proofs.Run
import MockCollector.Proofs.Wire.Exactness
/-!
# Each field is made of its own records

Where records are complete, reading them one after the other comes to this: every field takes those that go
by its numbers, in their order, and the others are passed over.

* `Field.after?`, `Values.after?`   what one record makes of a value, or of the values of several fields;
* `Values.Gathers rs vs ws`  each field gets from its value in `vs` to the one in `ws` by its own records
                             among `rs`;
* `Layout.decode_eq_ok_iff`  complete records are decoded as the message whose fields gather them;
* `Reordered fs rs ss`       `ss` is `rs` in another order, but for each field in the same;
* `Layout.decode_reordered`, `Layout.decode_inserted`   so neither the order between fields matters, nor
                             records that are passed over.
-/

namespace MockCollector.Wire

/-! ## one record -/

def WireRecord.isFor (r : WireRecord) (f : Field) : Bool := decide (r.number ∈ f.numbers)

/-- whether the record is passed over, if no field goes by its number -/
def WireRecord.Passes (r : WireRecord) (depth : Nat) : Prop := skipField depth r.key r.payload = .ok []

/-- what was read, if nothing is left -/
def whole? {α : Type} : Except DecodeError (α × List UInt8) → Option α
  | .ok (a, []) => some a
  | _ => none

theorem whole?_eq_some {α : Type} {a : α} {read : Except DecodeError (α × List UInt8)} :
    whole? read = some a ↔ read = .ok (a, []) := by
  unfold whole?
  split
  · rename_i b
    exact ⟨fun h => by rw [Option.some.inj h], fun h => by rw [(Prod.mk.inj (Except.ok.inj h)).1]⟩
  · rename_i other
    exact ⟨nofun, fun h => absurd h (other a)⟩

def Field.after? (f : Field) (depth : Nat) (v : f.Value) (r : WireRecord) : Option f.Value :=
  whole? (f.read depth r.key v r.payload)

def Values.after? (fs : List Field) (depth : Nat) (vs : Values fs) (r : WireRecord) :
    Option (Values fs) :=
  whole? (readRecord fs depth r.key vs r.payload)

/-- a record that a reader gets past, is a payload for it -/
theorem WireRecord.CompleteIn.lays {maps : List Nat} {r : WireRecord} (h : r.CompleteIn maps)
    (ungrouped : laidOut maps r.key ≠ .groupStart) : (laidOut maps r.key).Lays r.payload := by
  unfold WireRecord.CompleteIn at h
  unfold laidOut at ungrouped ⊢
  split at h
  · rename_i map
    rwa [if_pos (show r.key.number ∈ maps from map)]
  · rename_i typed
    rw [if_neg (show r.key.number ∉ maps from typed)] at ungrouped ⊢
    cases h with
    | plain lays => exact lays
    | group starts => exact absurd starts ungrouped

/-- two payloads of one wire type at the head of the same bytes end in the same place -/
theorem WireType.Lays.unique {w : WireType} {bs cs rest left : List UInt8} (h : w.Lays bs)
    (g : w.Lays cs) (same : bs ++ rest = cs ++ left) : rest = left := by
  have read := h.skipPayload rest
  rw [same, g.skipPayload] at read
  exact (Except.ok.inj read).symm

section
variable {fs : List Field} {maps : List Nat} {depth : Nat} {vs us ws : Values fs} {r : WireRecord}
  {rest left : List UInt8}

/-- what is left behind a complete record is what was behind it -/
theorem readRecord_leaves (fields : ∀ f ∈ fs, f.Exact maps)
    (known : ∀ n ∈ maps, n ∈ Values.numbers fs) (complete : r.CompleteIn maps)
    (h : readRecord fs depth r.key vs (r.payload ++ rest) = .ok (us, left)) : left = rest := by
  unfold readRecord at h
  split at h
  · rename_i hr
    subst h
    obtain ⟨taken, lays, split, -⟩ := Values.read?_exact fields hr
    exact ((complete.lays lays.ungrouped.1).unique lays split).symm
  · rename_i unread
    have unknown := Values.read?_eq_none_iff.mp unread
    have plain : r.Complete := by
      unfold WireRecord.CompleteIn at complete
      rwa [if_neg fun map => unknown (known _ map)] at complete
    split at h
    · cases h
    · rename_i hs
      cases h
      exact skipField_complete plain hs

/-- a complete record is read as it is by itself, and what is behind it is left -/
theorem readRecord_complete (fields : ∀ f ∈ fs, f.Exact maps)
    (known : ∀ n ∈ maps, n ∈ Values.numbers fs) (complete : r.CompleteIn maps) :
    readRecord fs depth r.key vs (r.payload ++ rest) = .ok (us, left) ↔
      left = rest ∧ Values.after? fs depth vs r = some us := by
  rw [Values.after?, whole?_eq_some]
  constructor
  · intro h
    obtain rfl := readRecord_leaves fields known complete h
    obtain ⟨taken, split, agrees⟩ := readRecord_exact fields h
    obtain rfl := List.append_cancel_right split
    have alone := (agrees depth []).of_same
    rw [List.append_nil] at alone
    exact ⟨rfl, alone⟩
  · rintro ⟨rfl, h⟩
    obtain ⟨taken, split, agrees⟩ := readRecord_exact fields h
    rw [List.append_nil] at split
    rw [split]
    exact (agrees depth left).of_same

/-- complete records are read one after the other, each as it is by itself -/
theorem readRecords_complete (fields : ∀ f ∈ fs, f.Exact maps)
    (known : ∀ n ∈ maps, n ∈ Values.numbers fs) {rs : List WireRecord}
    (complete : ∀ r ∈ rs, r.CompleteIn maps) :
    readRecords fs depth 0 vs (rs.flatMap WireRecord.bytes) = .ok (ws, []) ↔
      run (Values.after? fs depth) rs vs = some ws := by
  induction rs generalizing vs with
  | nil =>
    have done : readRecords fs depth 0 vs [] = .ok (vs, []) := readRecords_done (Nat.le_refl 0)
    rw [List.flatMap_nil, done]
    exact ⟨fun h => by rw [← (Prod.mk.inj (Except.ok.inj h)).1]; rfl, fun h => by cases h; rfl⟩
  | cons r rs ih =>
    have first {us : Values fs} {left : List UInt8} :
        readRecord fs depth r.key vs (r.payload ++ rs.flatMap WireRecord.bytes) = .ok (us, left) ↔
          left = rs.flatMap WireRecord.bytes ∧ Values.after? fs depth vs r = some us :=
      readRecord_complete fields known (complete r List.mem_cons_self)
    have key := Key.decode_of_spells r.fits r.spells (r.payload ++ rs.flatMap WireRecord.bytes)
    have some := Key.decode_length key
    rw [List.flatMap_cons, WireRecord.bytes, List.append_assoc]
    show _ ↔ (Values.after? fs depth vs r).bind (run (Values.after? fs depth) rs) = _
    cases hr : readRecord fs depth r.key vs (r.payload ++ rs.flatMap WireRecord.bytes) with
    | error e =>
      rw [readRecords_error (by omega) key hr]
      cases ha : Values.after? fs depth vs r with
      | none =>
        constructor
        · rintro ⟨⟩
        · rintro ⟨⟩
      | some us =>
        have read := first.mpr ⟨rfl, ha⟩
        rw [hr] at read
        cases read
    | ok p =>
      obtain ⟨us, left⟩ := p
      obtain ⟨rfl, ha⟩ := first.mp hr
      rw [readRecords_step (by omega) key hr, ha]
      exact ih fun s hs => complete s (List.mem_cons_of_mem r hs)

end

/-! ## the records of a field -/

section
variable {f : Field} {fs : List Field} {depth : Nat} {r : WireRecord} {rs ss : List WireRecord}

theorem Values.after?_head {v : f.Value} {vs : Values fs} {us : Values (f :: fs)}
    (mine : r.number ∈ f.numbers) : Values.after? (f :: fs) depth (v, vs) r = some us ↔
      ∃ u, f.after? depth v r = some u ∧ us = (u, vs) := by
  refine whole?_eq_some.trans ?_
  unfold readRecord
  rw [Values.read?, if_pos mine]
  simp only [Field.after?, whole?_eq_some]
  cases f.read depth r.key v r.payload with
  | error e =>
    constructor
    · rintro ⟨⟩
    · rintro ⟨_, ⟨⟩, _⟩
  | ok p =>
    obtain ⟨w, left⟩ := p
    constructor
    · rintro ⟨⟩
      exact ⟨_, rfl, rfl⟩
    · rintro ⟨u, ⟨⟩, rfl⟩
      rfl

theorem Values.after?_tail {v : f.Value} {vs : Values fs} {us : Values (f :: fs)}
    (other : r.number ∉ f.numbers) : Values.after? (f :: fs) depth (v, vs) r = some us ↔
      ∃ ws, Values.after? fs depth vs r = some ws ∧ us = (v, ws) := by
  refine whole?_eq_some.trans ?_
  simp only [Values.after?, whole?_eq_some]
  unfold readRecord
  rw [Values.read?, if_neg other]
  cases Values.read? fs depth r.key vs r.payload with
  | none =>
    simp only
    cases skipField depth r.key r.payload with
    | error e =>
      constructor
      · rintro ⟨⟩
      · rintro ⟨_, ⟨⟩, _⟩
    | ok left =>
      constructor
      · rintro ⟨⟩
        exact ⟨_, rfl, rfl⟩
      · rintro ⟨u, ⟨⟩, rfl⟩
        rfl
  | some read =>
    cases read with
    | error e =>
      constructor
      · rintro ⟨⟩
      · rintro ⟨_, ⟨⟩, _⟩
    | ok p =>
      obtain ⟨ws, left⟩ := p
      constructor
      · rintro ⟨⟩
        exact ⟨_, rfl, rfl⟩
      · rintro ⟨u, ⟨⟩, rfl⟩
        rfl

theorem Values.after?_nil {vs us : Values []} :
    Values.after? [] depth vs r = some us ↔ r.Passes depth := by
  rw [Values.after?, WireRecord.Passes, readRecord, Values.read?]
  cases skipField depth r.key r.payload with
  | error e =>
    constructor
    · rintro ⟨⟩
    · rintro ⟨⟩
  | ok left =>
    cases left with
    | nil => exact ⟨fun _ => rfl, fun _ => rfl⟩
    | cons b bs =>
      constructor
      · rintro ⟨⟩
      · rintro ⟨⟩

def Values.Gathers : (fs : List Field) → Nat → List WireRecord → Values fs → Values fs → Prop
  | [], _, _, _, _ => True
  | f :: fs, depth, rs, (v, vs), (w, ws) =>
    run (f.after? depth) (rs.filter (·.isFor f)) v = some w ∧ Values.Gathers fs depth rs vs ws

theorem Values.gathers_nil {vs ws : Values fs} : Values.Gathers fs depth [] vs ws ↔ vs = ws := by
  induction fs with
  | nil => exact ⟨fun _ => rfl, fun _ => trivial⟩
  | cons f fs ih =>
    obtain ⟨v, vs⟩ := vs
    obtain ⟨w, ws⟩ := ws
    show some v = some w ∧ Values.Gathers fs depth [] vs ws ↔ _
    rw [ih, Option.some_inj]
    exact ⟨fun h => Prod.ext h.1 h.2, Prod.mk.inj⟩

/-- what is gathered depends on nothing but each field's own records -/
theorem Values.gathers_congr (same : ∀ f ∈ fs, rs.filter (·.isFor f) = ss.filter (·.isFor f))
    {vs ws : Values fs} : Values.Gathers fs depth rs vs ws ↔ Values.Gathers fs depth ss vs ws := by
  induction fs with
  | nil => exact Iff.rfl
  | cons f fs ih =>
    obtain ⟨v, vs⟩ := vs
    obtain ⟨w, ws⟩ := ws
    rw [Values.Gathers, Values.Gathers, same f List.mem_cons_self,
      ih fun g hg => same g (List.mem_cons_of_mem f hg)]

theorem WireRecord.filter_isFor_of_unknown (unknown : r.number ∉ Values.numbers fs) (hf : f ∈ fs) :
    (r :: rs).filter (·.isFor f) = rs.filter (·.isFor f) :=
  List.filter_cons_of_neg fun mine =>
    unknown (List.mem_flatMap.mpr ⟨f, hf, of_decide_eq_true mine⟩)

/-- the first record goes to the field that goes by its number, or is passed over -/
theorem Values.gathers_cons (apart : (Values.numbers fs).Nodup) {vs ws : Values fs} :
    (∃ us, Values.after? fs depth vs r = some us ∧ Values.Gathers fs depth rs us ws) ↔
      (r.number ∉ Values.numbers fs → r.Passes depth) ∧ Values.Gathers fs depth (r :: rs) vs ws := by
  induction fs with
  | nil =>
    constructor
    · rintro ⟨us, passed, -⟩
      exact ⟨fun _ => Values.after?_nil.mp passed, trivial⟩
    · rintro ⟨passes, -⟩
      exact ⟨vs, Values.after?_nil.mpr (passes List.not_mem_nil), trivial⟩
  | cons f fs ih =>
    obtain ⟨v, vs⟩ := vs
    obtain ⟨w, ws⟩ := ws
    obtain ⟨-, apart', disjoint⟩ := List.nodup_append.mp apart
    by_cases mine : r.number ∈ f.numbers
    · have known : r.number ∈ Values.numbers (f :: fs) := List.mem_append_left _ mine
      have others : Values.Gathers fs depth (r :: rs) vs ws ↔ Values.Gathers fs depth rs vs ws :=
        Values.gathers_congr fun g hg => WireRecord.filter_isFor_of_unknown
          (fun theirs => disjoint _ mine _ theirs rfl) hg
      have taken : r.isFor f = true := decide_eq_true mine
      rw [Values.Gathers, List.filter_cons_of_pos (p := fun s : WireRecord => s.isFor f) taken, others]
      show _ ↔ _ ∧ (f.after? depth v r).bind _ = some w ∧ _
      constructor
      · rintro ⟨us, h, gathers⟩
        obtain ⟨u, ha, rfl⟩ := (Values.after?_head mine).mp h
        rw [ha]
        exact ⟨fun unknown => absurd known unknown, gathers⟩
      · rintro ⟨-, own, others⟩
        obtain ⟨u, ha, own⟩ := Option.bind_eq_some_iff.mp own
        exact ⟨(u, vs), (Values.after?_head mine).mpr ⟨u, ha, rfl⟩, own, others⟩
    · have numbers : r.number ∉ Values.numbers (f :: fs) ↔ r.number ∉ Values.numbers fs := by
        show r.number ∉ f.numbers ++ Values.numbers fs ↔ _
        rw [List.mem_append, not_or]
        exact ⟨And.right, And.intro mine⟩
      have skipped : ¬ r.isFor f = true := fun h => mine (of_decide_eq_true h)
      rw [Values.Gathers, List.filter_cons_of_neg (p := fun s : WireRecord => s.isFor f) skipped, numbers]
      constructor
      · rintro ⟨us, h, gathers⟩
        obtain ⟨us, ha, rfl⟩ := (Values.after?_tail mine).mp h
        obtain ⟨passes, others⟩ := (ih apart').mp ⟨us, ha, gathers.2⟩
        exact ⟨passes, gathers.1, others⟩
      · rintro ⟨passes, own, others⟩
        obtain ⟨us, ha, gathers⟩ := (ih apart').mpr ⟨passes, others⟩
        exact ⟨(v, us), (Values.after?_tail mine).mpr ⟨us, ha, rfl⟩, own, gathers⟩

/-- **Each field is made of its own records**, and the others are passed over. -/
theorem Values.run_after?_iff (apart : (Values.numbers fs).Nodup) {vs ws : Values fs} :
    run (Values.after? fs depth) rs vs = some ws ↔
      (∀ r ∈ rs, r.number ∉ Values.numbers fs → r.Passes depth) ∧ Values.Gathers fs depth rs vs ws := by
  induction rs generalizing vs with
  | nil =>
    rw [Values.gathers_nil]
    exact ⟨fun h => ⟨fun _ hr => absurd hr List.not_mem_nil, Option.some.inj h⟩,
      fun h => congrArg some h.2⟩
  | cons r rs ih =>
    show (Values.after? fs depth vs r).bind _ = _ ↔ _
    rw [Option.bind_eq_some_iff, List.forall_mem_cons]
    simp only [ih]
    constructor
    · rintro ⟨us, ha, passes, gathers⟩
      obtain ⟨first, gathers⟩ := (Values.gathers_cons apart).mp ⟨us, ha, gathers⟩
      exact ⟨⟨first, passes⟩, gathers⟩
    · rintro ⟨⟨first, passes⟩, gathers⟩
      obtain ⟨us, ha, gathers⟩ := (Values.gathers_cons apart).mpr ⟨first, gathers⟩
      exact ⟨us, ha, passes, gathers⟩

end

/-! ## messages -/

/-- the same records, and those of each field in the same order -/
def Reordered (fs : List Field) (rs ss : List WireRecord) : Prop :=
  ss.Perm rs ∧ ∀ f ∈ fs, ss.filter (·.isFor f) = rs.filter (·.isFor f)

namespace Layout

variable {M : Type} {L : Layout M} {maps : List Nat} {rs ss : List WireRecord} {r : WireRecord}
  {m : M}

theorem decode_eq_ok_iff (exact : L.Exact maps) (known : ∀ n ∈ maps, n ∈ Values.numbers L.fields)
    (apart : (Values.numbers L.fields).Nodup) (complete : ∀ r ∈ rs, r.CompleteIn maps) :
    L.decode (rs.flatMap WireRecord.bytes) = .ok m ↔
      (∀ r ∈ rs, r.number ∉ Values.numbers L.fields → r.Passes maxDepth) ∧
        Values.Gathers L.fields maxDepth rs (Values.empty L.fields) (L.split m) := by
  rw [← Values.run_after?_iff apart, ← readRecords_complete exact known complete, decode]
  cases hr : readRecords L.fields maxDepth 0 (Values.empty L.fields) (rs.flatMap WireRecord.bytes) with
  | error e => exact ⟨nofun, nofun⟩
  | ok p =>
    obtain ⟨vs, left⟩ := p
    obtain rfl : left = [] := List.eq_nil_of_length_eq_zero (Nat.le_zero.mp (readRecords_within hr))
    constructor
    · intro h
      rw [← Except.ok.inj h, L.split_join]
    · intro h
      rw [(Prod.mk.inj (Except.ok.inj h)).1]
      exact congrArg Except.ok (L.join_split m)

/-- the order between the records of different fields does not matter -/
theorem decode_reordered (exact : L.Exact maps) (known : ∀ n ∈ maps, n ∈ Values.numbers L.fields)
    (apart : (Values.numbers L.fields).Nodup) (complete : ∀ r ∈ rs, r.CompleteIn maps)
    (reordered : Reordered L.fields rs ss) (decoded : L.decode (rs.flatMap WireRecord.bytes) = .ok m) :
    L.decode (ss.flatMap WireRecord.bytes) = .ok m := by
  obtain ⟨perm, same⟩ := reordered
  obtain ⟨passes, gathers⟩ := (decode_eq_ok_iff exact known apart complete).mp decoded
  have complete' : ∀ r ∈ ss, r.CompleteIn maps := fun r hr => complete r (perm.mem_iff.mp hr)
  refine (decode_eq_ok_iff exact known apart complete').mpr ⟨fun r hr => ?_, ?_⟩
  · exact passes r (perm.mem_iff.mp hr)
  · exact (Values.gathers_congr same).mpr gathers

/-- nor does a record that no field goes by and that is passed over -/
theorem decode_inserted (exact : L.Exact maps) (known : ∀ n ∈ maps, n ∈ Values.numbers L.fields)
    (apart : (Values.numbers L.fields).Nodup) (complete : ∀ s ∈ rs ++ ss, s.CompleteIn maps)
    (whole : r.Complete) (unknown : r.number ∉ Values.numbers L.fields)
    (alone : L.decode r.bytes = .ok L.empty)
    (decoded : L.decode ((rs ++ ss).flatMap WireRecord.bytes) = .ok m) :
    L.decode ((rs ++ r :: ss).flatMap WireRecord.bytes) = .ok m := by
  have mine : r.CompleteIn maps := by
    unfold WireRecord.CompleteIn
    rwa [if_neg fun map => unknown (known _ map)]
  have passed : r.Passes maxDepth := by
    have single : ∀ s ∈ [r], s.CompleteIn maps := fun s hs => List.mem_singleton.mp hs ▸ mine
    rw [← List.flatMap_singleton WireRecord.bytes r] at alone
    exact ((decode_eq_ok_iff exact known apart single).mp alone).1 r List.mem_cons_self unknown
  have mem {s : WireRecord} : s ∈ rs ++ r :: ss ↔ s = r ∨ s ∈ rs ++ ss := by
    rw [List.mem_append, List.mem_cons, List.mem_append]
    exact or_left_comm
  obtain ⟨passes, gathers⟩ := (decode_eq_ok_iff exact known apart complete).mp decoded
  refine (decode_eq_ok_iff exact known apart fun s hs => ?_).mpr ⟨fun s hs => ?_, ?_⟩
  · rcases mem.mp hs with rfl | old
    · exact mine
    · exact complete s old
  · rcases mem.mp hs with rfl | old
    · exact fun _ => passed
    · exact passes s old
  · refine (Values.gathers_congr fun f hf => ?_).mpr gathers
    rw [List.filter_append, List.filter_append, WireRecord.filter_isFor_of_unknown unknown hf]

end Layout

end MockCollector.Wire
