import MockCollector.Proofs.Wire.Soundness
/-!
# The kinds of field are sound

* `Field.sound_singular`, `Field.sound_repeatedScalar`   scalars;
* `Field.sound_optional`, `Field.sound_repeated`         messages, one level further down;
* `Field.sound_oneof`      alternatives, if they are `Complete`: each value is of one kind;
* `Field.sound_textMap`    maps, whose entries may come in any order.
-/

namespace MockCollector.Wire

variable {place : Option Place} {number height depth : Nat}

/-! ## scalars -/

theorem Record.length_payload_lt {r : Record} {rs : List Record} (h : r ∈ rs)
    (small : (rs.flatMap Record.bytes).length < UInt64.size) : r.payload.length < UInt64.size := by
  induction rs with
  | nil => cases h
  | cons s rs ih =>
    simp only [List.flatMap_cons, List.length_append, Record.bytes] at small
    rcases List.mem_cons.mp h with rfl | h
    · omega
    · exact ih h (by omega)

theorem Scalar.Sound.readAs {α : Type} {s : Scalar α} (hs : s.Sound) (number : Nat) (a : α)
    (small : (s.write a).length < UInt64.size) (rest : List UInt8) :
    s.readAs (s.record number a).key ((s.record number a).payload ++ rest) = .ok (a, rest) := by
  have read : s.read ((s.record number a).payload ++ rest) = .ok (a, rest) :=
    hs.read_write a rest small
  rw [Scalar.readAs, if_neg (fun h => h rfl), read]

namespace Field

theorem sound_singular {α : Type} [DecidableEq α] {s : Scalar α} (hs : s.Sound)
    (fits : Key.Fits number) : (Field.singular place number s).Sound height where
  fits n hn := by
    obtain rfl := List.mem_singleton.mp hn
    exact fits
  merge_empty (a : α) := by
    show (if a = s.zero then s.zero else a) = a
    split
    · rename_i h
      exact h.symm
    · rfl
  row := by
    rintro depth (u : α) (a : α) rs - rfl small
    show Row _ u (if a = s.zero then [] else [s.record number a]) (if a = s.zero then u else a)
    change ((if a = s.zero then [] else [s.record number a]).flatMap Record.bytes).length < _ at small
    split
    · exact .nil u
    · rename_i h
      rw [if_neg h] at small
      have short := Record.length_payload_lt List.mem_cons_self small
      exact .single ⟨List.mem_cons_self, fun rest => hs.readAs number a short rest⟩
  length_eq := by
    rintro a rs ss rfl rfl
    rfl

theorem sound_repeatedScalar {α : Type} {s : Scalar α} (hs : s.Sound) (fits : Key.Fits number) :
    (Field.repeatedScalar place number s).Sound height where
  fits n hn := by
    obtain rfl := List.mem_singleton.mp hn
    exact fits
  merge_empty as := List.nil_append as
  row := by
    rintro depth (u : List α) (as : List α) rs - rfl small
    show Row _ u (as.map (s.record number)) (u ++ as)
    change ((as.map (s.record number)).flatMap Record.bytes).length < _ at small
    induction as generalizing u with
    | nil =>
      rw [List.append_nil]
      exact .nil u
    | cons a as ih =>
      have short := Record.length_payload_lt (List.mem_cons_self (l := as.map (s.record number))) small
      rw [List.map_cons, List.flatMap_cons, List.length_append] at small
      have later : Row _ (u ++ [a]) _ (u ++ [a] ++ as) := ih (by omega)
      rw [List.append_assoc] at later
      refine .cons ⟨List.mem_cons_self, fun rest => ?_⟩ later
      show mapRead _ (s.readAs (s.record number a).key ((s.record number a).payload ++ rest)) = _
      rw [hs.readAs number a short rest]
      rfl
  length_eq := by
    rintro as rs ss rfl rfl
    rfl

end Field

/-! ## messages -/

section
variable {M : Type} {L : Layout M}

theorem Layout.Embeds.number_mem {m : M} {r : Record} (hr : L.Embeds number m r) :
    r.key.number ∈ [number] := by
  obtain ⟨bs, -, rfl⟩ := hr
  exact List.mem_cons_self

theorem Layout.Sound.readMessage (hL : L.Sound height) (deep : height + 1 ≤ depth) {m : M}
    {r : Record} (hr : L.Embeds number m r) (small : r.payload.length < UInt64.size) (u : M)
    (rest : List UInt8) :
    Field.readMessage L depth r.key u (r.payload ++ rest) = .ok (L.merge u m, rest) := by
  obtain ⟨bs, hm, rfl⟩ := hr
  obtain ⟨inner, rfl⟩ : ∃ inner, depth = inner + 1 := ⟨depth - 1, by omega⟩
  have short : bs.length < UInt64.size := by
    change (delimited bs).length < _ at small
    rw [delimited, List.length_append] at small
    omega
  rw [Field.readMessage, if_neg (fun h => h rfl)]
  exact hL.readInto (by omega) hm short u rest

theorem Layout.Sound.length_embedsAll (hL : L.Sound height) {ms : List M} {rs ss : List Record}
    (hr : L.EmbedsAll number ms rs) (hs : L.EmbedsAll number ms ss) :
    (rs.flatMap Record.bytes).length = (ss.flatMap Record.bytes).length := by
  induction ms generalizing rs ss with
  | nil =>
    obtain rfl : rs = [] := hr
    obtain rfl : ss = [] := hs
    rfl
  | cons m ms ih =>
    obtain ⟨r, rs, ⟨bs, hb, rfl⟩, hrs, rfl⟩ := hr
    obtain ⟨s, ss, ⟨cs, hc, rfl⟩, hss, rfl⟩ := hs
    have first := hL.length_encodes hb hc
    have others := ih hrs hss
    simp only [List.flatMap_cons, List.length_append, Record.bytes, delimited, first, others]

theorem Field.sound_optional (hL : L.Sound height) (fits : Key.Fits number) :
    (Field.optional place number L).Sound (height + 1) where
  fits n hn := by
    obtain rfl := List.mem_singleton.mp hn
    exact fits
  merge_empty o := by cases o <;> rfl
  row := by
    intro depth u o rs deep hw small
    cases o with
    | none =>
      obtain rfl : rs = [] := hw
      cases u <;> exact .nil _
    | some m =>
      obtain ⟨r, _, hr, rfl, rfl⟩ := hw
      have short := Record.length_payload_lt List.mem_cons_self small
      refine .single ⟨hr.number_mem, fun rest => ?_⟩
      show mapRead some (Field.readMessage L depth r.key (u.getD L.empty) (r.payload ++ rest)) = _
      rw [hL.readMessage deep hr short]
      cases u with
      | none =>
        show Except.ok (some (L.merge L.empty m), rest) = Except.ok (some m, rest)
        rw [hL.merge_empty]
      | some n => rfl
  length_eq hr hs := hL.length_embedsAll hr hs

theorem Field.sound_repeated (hL : L.Sound height) (fits : Key.Fits number) :
    (Field.repeated place number L).Sound (height + 1) where
  fits n hn := by
    obtain rfl := List.mem_singleton.mp hn
    exact fits
  merge_empty ms := List.nil_append ms
  row := by
    intro depth (u : List M) (ms : List M) rs deep (hw : L.EmbedsAll number ms rs) small
    show Row _ u rs (u ++ ms)
    induction ms generalizing u rs with
    | nil =>
      obtain rfl : rs = [] := hw
      rw [List.append_nil]
      exact .nil u
    | cons m ms ih =>
      obtain ⟨r, rs, hr, hrs, rfl⟩ := hw
      have short := Record.length_payload_lt List.mem_cons_self small
      rw [List.flatMap_cons, List.length_append] at small
      have later : Row _ (u ++ [m]) rs (u ++ [m] ++ ms) := ih hrs (by omega)
      rw [List.append_assoc] at later
      refine .cons ⟨hr.number_mem, fun rest => ?_⟩ later
      show mapRead (fun m => u ++ [m])
        (Field.readMessage L depth r.key L.empty (r.payload ++ rest)) = _
      rw [hL.readMessage deep hr short, hL.merge_empty]
      rfl
  length_eq hr hs := hL.length_embedsAll hr hs

end

/-! ## alternatives -/

/-- the members account for every value, each by one of them that has a number of its own -/
structure Member.Complete {V : Type} (members : List (Member V)) : Prop where
  apart : (members.map (·.number)).Nodup
  fits : ∀ c ∈ members, Key.Fits c.number
  scalar : ∀ c ∈ members, c.scalar.Sound
  covers : ∀ v, ∃ c ∈ members, ∃ x,
    members.filterMap (·.record? v) = [c.scalar.record c.number x] ∧ c.wrap x = v

theorem Member.find?_eq_some {V : Type} {members : List (Member V)} {c : Member V}
    (apart : (members.map (·.number)).Nodup) (h : c ∈ members) :
    members.find? (·.number == c.number) = some c := by
  induction members with
  | nil => cases h
  | cons d ds ih =>
    obtain ⟨new, apart⟩ := List.nodup_cons.mp apart
    rcases List.mem_cons.mp h with rfl | h
    · rw [List.find?_cons_of_pos (by simp)]
    · have other : d.number ≠ c.number := fun e =>
        new (List.mem_map.mpr ⟨c, h, e.symm⟩)
      rw [List.find?_cons_of_neg (by simpa using other), ih apart h]

theorem Field.sound_oneof {V : Type} {members : List (Member V)} (h : Member.Complete members) :
    (Field.oneof place members).Sound height where
  fits n hn := by
    obtain ⟨c, hc, rfl⟩ := List.mem_map.mp hn
    exact h.fits c hc
  merge_empty o := by cases o <;> rfl
  row := by
    intro depth (u : Option V) (o : Option V) rs _ hw small
    cases o with
    | none =>
      obtain rfl : rs = [] := hw
      exact .nil u
    | some v =>
      obtain ⟨c, hc, x, hr, rfl⟩ := h.covers v
      have written : (Field.oneof place members).write (some (c.wrap x))
          = members.filterMap (·.record? (c.wrap x)) := List.flatMap_singleton _ _
      obtain rfl : rs = [c.scalar.record c.number x] := hw.trans (written.trans hr)
      have short := Record.length_payload_lt List.mem_cons_self small
      refine .single ⟨List.mem_map_of_mem hc, fun rest => ?_⟩
      simp only [Field.oneof, Scalar.record, Member.find?_eq_some h.apart hc]
      have read := (h.scalar c hc).readAs c.number x short rest
      show mapRead some (mapRead c.wrap (c.scalar.readAs (c.scalar.record c.number x).key
        ((c.scalar.record c.number x).payload ++ rest))) = _
      rw [read]
      rfl
  length_eq := by
    rintro o rs ss rfl rfl
    rfl

/-! ## maps -/

theorem sound_entryLayout : entryLayout.Sound 0 where
  apart := by decide
  fields := by
    intro f hf
    rcases List.mem_cons.mp hf with rfl | hf
    · exact Field.sound_singular Scalar.sound_text (by decide)
    · obtain rfl := List.mem_singleton.mp hf
      exact Field.sound_singular Scalar.sound_text (by decide)

/-- since no key comes twice, the order in which entries are put into a map does not matter -/
theorem TextMap.foldl_insert_eq_union {es : List (String × String)} {t : TextMap}
    (h : es.Perm t.toList) (u : TextMap) :
    es.foldl (fun u e => u.insert e.1 e.2) u = u ∪ t := by
  have many : es.foldl (fun u e => u.insert e.1 e.2) u = u.insertMany es := by
    clear h
    induction es generalizing u with
    | nil => rw [Std.ExtTreeMap.insertMany_nil]; rfl
    | cons e es ih => rw [List.foldl_cons, ih, Std.ExtTreeMap.insertMany_cons]
  have distinct : es.Pairwise fun a b => ¬ compare a.1 b.1 = .eq :=
    h.symm.pairwise Std.ExtTreeMap.distinct_keys_toList fun hab hba =>
      hab (Std.OrientedCmp.eq_symm hba)
  rw [many]
  apply Std.ExtTreeMap.ext_getElem?
  intro k
  rw [Std.ExtTreeMap.getElem?_union]
  cases hk : t[k]? with
  | some v =>
    have mem : (k, v) ∈ es := h.mem_iff.mpr (Std.ExtTreeMap.mem_toList_iff_getElem?_eq_some.mpr hk)
    rw [Std.ExtTreeMap.getElem?_insertMany_list_of_mem Std.ReflCmp.compare_self distinct mem]
    rfl
  | none =>
    have absent : (es.map Prod.fst).contains k = false := by
      rw [List.contains_eq_mem, decide_eq_false_iff_not]
      intro hm
      obtain ⟨⟨k', v⟩, he, rfl⟩ := List.mem_map.mp hm
      have found := Std.ExtTreeMap.mem_toList_iff_getElem?_eq_some.mp (h.mem_iff.mp he)
      rw [hk] at found
      cases found
    rw [Std.ExtTreeMap.getElem?_insertMany_list_of_contains_eq_false absent]
    rfl

theorem Field.sound_textMap (fits : Key.Fits number) :
    (Field.textMap place number).Sound (height + 1) where
  fits n hn := by
    obtain rfl := List.mem_singleton.mp hn
    exact fits
  merge_empty (t : TextMap) := by
    show (∅ : TextMap) ∪ t = t
    apply Std.ExtTreeMap.ext_getElem?
    intro k
    rw [Std.ExtTreeMap.getElem?_union, Std.ExtTreeMap.getElem?_empty, Option.or_none]
  row := by
    intro depth (u : TextMap) (t : TextMap) rs deep hw small
    obtain ⟨es, perm, rfl⟩ := hw
    obtain ⟨inner, rfl⟩ : ∃ inner, depth = inner + 1 := ⟨depth - 1, by omega⟩
    show Row _ u (es.map (entryLayout.embed number)) (u ∪ t)
    rw [← TextMap.foldl_insert_eq_union perm u]
    clear perm
    induction es generalizing u with
    | nil => exact .nil u
    | cons e es ih =>
      have short : (entryLayout.encode e).length < UInt64.size := by
        have := Record.length_payload_lt List.mem_cons_self small
        change (delimited (entryLayout.encode e)).length < _ at this
        rw [delimited, List.length_append] at this
        omega
      rw [List.map_cons, List.flatMap_cons, List.length_append] at small
      refine .cons ⟨List.mem_cons_self, fun rest => ?_⟩ (ih (by omega))
      show mapRead (fun e => u.insert e.1 e.2) (entryLayout.readInto (inner + 1) entryLayout.empty
        (delimited (entryLayout.encode e) ++ rest)) = _
      rw [sound_entryLayout.readInto (Nat.zero_le inner) (entryLayout.encodes_encode e) short,
        sound_entryLayout.merge_empty]
      rfl
  length_eq := by
    rintro t rs ss ⟨es, hes, rfl⟩ ⟨es', hes', rfl⟩
    have perm := (hes.trans hes'.symm).map (entryLayout.embed number)
    exact (perm.flatMap_right Record.bytes).length_eq

end MockCollector.Wire
