import MockCollector.Proofs.Wire.Exactness
import MockCollector.Proofs.Wire.Fields
/-!
# Messages that are cut short

* `exists_cut_piece`, `take_of_cut_piece`   where pieces put end to end are cut, it is within one of them;
* `exists_error_of_cut`     a reader that takes a payload exactly fails on the head of one;
* `readRecords_error_of_cut`   so does the reader of records, within a record;
* `Field.Divisible f`       what was written for a value can be parted between two records, and what is in
                            front was written for a value, too;
* `Field.divisible_singular` and the others   so it is for every kind of field;
* `Layout.Sound.decode_take`, `Layout.Sound.decode_error_of_cut`   a message that is cut between two
                            records is one of fewer records, and within a record it is none.
-/

namespace MockCollector

/-! ## pieces end to end -/

section
variable {α β : Type} {f : α → List β}

theorem exists_cut_piece {xs : List α} {k : Nat} (short : k < (xs.flatMap f).length) :
    ∃ before x after j, xs = before ++ x :: after ∧ j < (f x).length ∧
      k = (before.flatMap f).length + j := by
  induction xs generalizing k with
  | nil => exact absurd short (Nat.not_lt_zero k)
  | cons y xs ih =>
    by_cases here : k < (f y).length
    · exact ⟨[], y, xs, k, rfl, here, (Nat.zero_add k).symm⟩
    · rw [List.flatMap_cons, List.length_append] at short
      obtain ⟨before, x, after, j, rfl, within, position⟩ := ih (k := k - (f y).length) (by omega)
      refine ⟨y :: before, x, after, j, rfl, within, ?_⟩
      rw [List.flatMap_cons, List.length_append]
      omega

theorem take_of_cut_piece (before after : List α) {x : α} {j : Nat} (within : j < (f x).length) :
    ((before ++ x :: after).flatMap f).take ((before.flatMap f).length + j)
      = before.flatMap f ++ (f x).take j := by
  rw [List.flatMap_append, List.take_length_add_append, List.flatMap_cons,
    List.take_append_of_le_length (Nat.le_of_lt within)]

end

namespace Wire

/-! ## records that are cut short -/

/-- were the head of a payload read, then behind the whole of it something would be left -/
theorem exists_error_of_cut {ε α : Type} {read : List UInt8 → Except ε (α × List UInt8)}
    (exact : ∀ {bs a rest}, read bs = .ok (a, rest) →
      ∃ taken, bs = taken ++ rest ∧ ∀ ext, read (taken ++ ext) = .ok (a, ext))
    {whole : List UInt8} {a : α} (h : read whole = .ok (a, [])) {i : Nat} (cut : i < whole.length) :
    ∃ e, read (whole.take i) = .error e := by
  cases head : read (whole.take i) with
  | error e => exact ⟨e, rfl⟩
  | ok found =>
    obtain ⟨b, rest⟩ := found
    obtain ⟨taken, split, same⟩ := exact head
    have again := same (rest ++ whole.drop i)
    rw [← List.append_assoc, ← split, List.take_append_drop, h] at again
    have none := congrArg List.length (Prod.mk.inj (Except.ok.inj again)).2
    rw [List.length_nil, List.length_append, List.length_drop] at none
    omega

section
variable {fs : List Field} {maps : List Nat} {depth limit : Nat} {vs ws : Values fs} {bs : List UInt8}

theorem readRecords_key_error {e : Fault} (h : limit < bs.length) (hk : Key.decode bs = .error e) :
    readRecords fs depth limit vs bs = .error e.toError := by
  rw [readRecords, if_neg (Nat.not_le.mpr h)]
  split
  · rename_i he
    rw [hk] at he
    cases he
    rfl
  · rename_i he
    rw [hk] at he
    cases he

theorem readRecords_error_of_cut (fields : ∀ f ∈ fs, f.Exact maps)
    (fits : ∀ n ∈ Values.numbers fs, Key.Fits n) {r : Record} (takes : Values.Takes fs depth vs r ws)
    {i : Nat} (begun : 0 < i) (cut : i < r.bytes.length) :
    ∃ e, readRecords fs depth 0 vs (r.bytes.take i) = .error e := by
  have more : 0 < (r.bytes.take i).length := by
    rw [List.length_take]
    omega
  have key := Key.decode_encode (k := r.key) (fits _ takes.1)
  by_cases within : i < r.key.encode.length
  · -- the key is not whole
    have whole : Key.decode r.key.encode = .ok (r.key, []) := by
      have read := key []
      rwa [List.append_nil] at read
    obtain ⟨e, failed⟩ := exists_error_of_cut Key.tag_of_decode whole within
    refine ⟨e.toError, readRecords_key_error more ?_⟩
    rwa [Record.bytes, List.take_append_of_le_length (Nat.le_of_lt within)]
  · -- the key is whole, and the payload is not
    obtain ⟨j, rfl⟩ := Nat.exists_eq_add_of_le (Nat.not_lt.mp within)
    have left : r.bytes.take (r.key.encode.length + j) = r.key.encode ++ r.payload.take j := by
      rw [Record.bytes, List.take_length_add_append]
    rw [Record.bytes, List.length_append] at cut
    have whole : readRecord fs depth r.key vs r.payload = .ok (ws, []) := by
      have read := takes.2 []
      rw [List.append_nil] at read
      rw [readRecord, read]
    have exact {bs us rest} (read : readRecord fs depth r.key vs bs = .ok (us, rest)) :
        ∃ taken, bs = taken ++ rest ∧
          ∀ ext, readRecord fs depth r.key vs (taken ++ ext) = .ok (us, ext) := by
      obtain ⟨taken, split, agrees⟩ := readRecord_exact fields read
      exact ⟨taken, split, fun ext => (agrees depth ext).of_same⟩
    obtain ⟨e, failed⟩ := exists_error_of_cut exact whole (Nat.lt_of_add_lt_add_left cut)
    exact ⟨e, readRecords_error more (left ▸ key _) failed⟩

end

/-! ## fewer records -/

def Field.Divisible (f : Field) : Prop := ∀ v rs, f.Writes v rs → ∀ j, ∃ w, f.Writes w (rs.take j)

namespace Field

variable {place : Option Place} {number : Nat}

theorem divisible_of_few {f : Field} (none : ∃ v, f.Writes v [])
    (few : ∀ v rs, f.Writes v rs → rs.length ≤ 1) : f.Divisible := by
  intro v rs h j
  cases j with
  | zero => exact none
  | succ j => exact ⟨v, by rwa [List.take_of_length_le (Nat.le_add_left_of_le (few v rs h))]⟩

@[simp] theorem divisible_singular {α : Type} [DecidableEq α] (s : Scalar α) :
    (Field.singular place number s).Divisible := by
  refine divisible_of_few ⟨s.zero, (if_pos rfl).symm⟩ ?_
  rintro (a : α) _ rfl
  show (if a = s.zero then [] else [s.record number a]).length ≤ 1
  split
  · exact Nat.zero_le 1
  · exact Nat.le_refl 1

@[simp] theorem divisible_repeatedScalar {α : Type} (s : Scalar α) :
    (Field.repeatedScalar place number s).Divisible := by
  rintro (as : List α) _ rfl j
  exact ⟨as.take j, List.map_take.symm⟩

theorem embedsAll_take {M : Type} {L : Layout M} {ms : List M} {rs : List Record}
    (h : L.EmbedsAll number ms rs) (j : Nat) : L.EmbedsAll number (ms.take j) (rs.take j) := by
  induction ms generalizing rs j with
  | nil =>
    obtain rfl : rs = [] := h
    rw [List.take_nil, List.take_nil]
    rfl
  | cons m ms ih =>
    obtain ⟨r, rs, first, others, rfl⟩ := h
    cases j with
    | zero => rfl
    | succ j => exact ⟨r, rs.take j, first, ih others j, rfl⟩

@[simp] theorem divisible_optional {M : Type} (L : Layout M) :
    (Field.optional place number L).Divisible := by
  refine divisible_of_few ⟨none, rfl⟩ ?_
  intro (o : Option M) rs (h : L.EmbedsAll number o.toList rs)
  cases o with
  | none =>
    obtain rfl : rs = [] := h
    exact Nat.zero_le 1
  | some m =>
    obtain ⟨r, _, -, rfl, rfl⟩ := h
    exact Nat.le_refl 1

@[simp] theorem divisible_repeated {M : Type} (L : Layout M) :
    (Field.repeated place number L).Divisible :=
  fun (ms : List M) _ h j => ⟨ms.take j, embedsAll_take h j⟩

@[simp] theorem divisible_oneof {V : Type} {members : List (Member V)}
    (complete : Member.Complete members) : (Field.oneof place members).Divisible := by
  refine divisible_of_few ⟨none, rfl⟩ ?_
  rintro (o : Option V) _ rfl
  cases o with
  | none => exact Nat.zero_le 1
  | some v =>
    obtain ⟨c, -, x, written, -⟩ := complete.covers v
    show (List.flatMap _ [v]).length ≤ 1
    rw [List.flatMap_singleton, written]
    exact Nat.le_refl 1

/-- entries whose keys are apart are those of a map -/
theorem perm_toList_ofList {es : List (String × String)}
    (distinct : es.Pairwise fun a b => ¬ compare a.1 b.1 = .eq) :
    es.Perm (Std.ExtTreeMap.ofList es : TextMap).toList := by
  have apart {fs : List (String × String)} (h : fs.Pairwise fun a b => ¬ compare a.1 b.1 = .eq) :
      fs.Nodup :=
    h.imp fun {a b} (other : ¬ compare a.1 b.1 = .eq) (same : a = b) =>
      other (same ▸ Std.ReflCmp.compare_self)
  have kept {k v : String} (listed : (k, v) ∈ es) : (Std.ExtTreeMap.ofList es : TextMap)[k]? = some v :=
    Std.ExtTreeMap.getElem?_ofList_of_mem Std.ReflCmp.compare_self distinct listed
  refine (List.perm_ext_iff_of_nodup (apart distinct) (apart Std.ExtTreeMap.distinct_keys_toList)).mpr ?_
  rintro ⟨k, v⟩
  rw [Std.ExtTreeMap.mem_toList_iff_getElem?_eq_some]
  refine ⟨kept, fun found => ?_⟩
  have keyed : k ∈ (Std.ExtTreeMap.ofList es : TextMap) :=
    Std.ExtTreeMap.mem_iff_isSome_getElem?.mpr (found ▸ rfl)
  rw [Std.ExtTreeMap.mem_ofList, List.contains_iff_mem] at keyed
  obtain ⟨⟨_, w⟩, listed, rfl⟩ := List.mem_map.mp keyed
  rw [kept listed] at found
  exact Option.some.inj found ▸ listed

@[simp] theorem divisible_textMap : (Field.textMap place number).Divisible := by
  rintro (t : TextMap) _ ⟨es, perm, rfl⟩ j
  have distinct : es.Pairwise fun a b => ¬ compare a.1 b.1 = .eq :=
    perm.symm.pairwise Std.ExtTreeMap.distinct_keys_toList fun hab hba =>
      hab (Std.OrientedCmp.eq_symm hba)
  have fewer := distinct.sublist (List.take_sublist j es)
  exact ⟨(Std.ExtTreeMap.ofList (es.take j) : TextMap), es.take j, perm_toList_ofList fewer,
    List.map_take.symm⟩

end Field

theorem Values.writes_take {fs : List Field} (divisible : ∀ f ∈ fs, f.Divisible) {vs : Values fs}
    {rs : List Record} (h : Values.Writes fs vs rs) (j : Nat) :
    ∃ ws, Values.Writes fs ws (rs.take j) := by
  induction fs generalizing rs j with
  | nil =>
    obtain rfl : rs = [] := h
    exact ⟨(), List.take_nil⟩
  | cons f fs ih =>
    obtain ⟨v, vs⟩ := vs
    obtain ⟨first, others, hf, ho, rfl⟩ := h
    obtain ⟨mine, theirs⟩ := List.forall_mem_cons.mp divisible
    obtain ⟨w, hw⟩ := mine v first hf j
    obtain ⟨ws, hws⟩ := ih theirs ho (j - first.length)
    exact ⟨(w, ws), _, _, hw, hws, List.take_append⟩

/-! ## messages -/

namespace Layout

variable {M : Type} {L : Layout M} {height : Nat} {m : M} {rs : List Record}

/-- the first of the records that were written for a message are a message -/
theorem Sound.decode_take (h : L.Sound height) (deep : height ≤ maxDepth)
    (divisible : ∀ f ∈ L.fields, f.Divisible) (written : Values.Writes L.fields (L.split m) rs)
    (small : (rs.flatMap Record.bytes).length < UInt64.size) (j : Nat) :
    ∃ n, Values.Writes L.fields (L.split n) (rs.take j) ∧
      L.decode ((rs.take j).flatMap Record.bytes) = .ok n := by
  obtain ⟨ws, fewer⟩ := Values.writes_take divisible written j
  rw [← L.split_join ws] at fewer
  refine ⟨L.join ws, fewer, h.decode_of_encodes deep ⟨_, fewer, rfl⟩ (Nat.lt_of_le_of_lt ?_ small)⟩
  rw [← List.take_append_drop j rs, List.flatMap_append, List.length_append, List.take_append_drop]
  exact Nat.le_add_right _ _

theorem Sound.decode_error_of_cut {maps : List Nat} (h : L.Sound height) (deep : height ≤ maxDepth)
    (exact : L.Exact maps) {before after : List Record} {r : Record}
    (written : Values.Writes L.fields (L.split m) (before ++ r :: after))
    (small : ((before ++ r :: after).flatMap Record.bytes).length < UInt64.size)
    {i : Nat} (begun : 0 < i) (cut : i < r.bytes.length) :
    ∃ e, L.decode (before.flatMap Record.bytes ++ r.bytes.take i) = .error e := by
  have row : Row (Values.Takes L.fields maxDepth) (Values.empty L.fields) (before ++ r :: after) _ :=
    Values.row h.apart h.fields deep written small
  obtain ⟨ws, first, later⟩ := row.of_append
  cases later with
  | cons takes _ =>
    obtain ⟨e, failed⟩ := readRecords_error_of_cut exact h.fits takes begun cut
    refine ⟨e, ?_⟩
    rw [Layout.decode, readRecords_row_append h.fits first (Nat.zero_le _), failed]

end Layout

end Wire

end MockCollector
