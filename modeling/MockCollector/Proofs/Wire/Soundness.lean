import MockCollector.Proofs.Wire.Rows
import MockCollector.Proofs.Wire.Scalars
/-!
# Sound fields and sound layouts

What every field of a layout has to do for its messages to be read back.

* `Field.Sound f height`    the records that `f` writes for a value are a row that lays this value over
                            the one there, and they take the same room however they are written;
* `Layout.Sound L height`   all fields of `L` are sound, and no two go by one number;
* `Layout.Sound.readRecords`, `Layout.Sound.readInto`   a message, in whatever way it was written, is
                            read as laid over the one there;
* `Layout.Sound.decode_append`   two messages in a row are read as the second laid over the first;
* `Layout.Sound.decode_of_encodes`, `Layout.Sound.length_encodes`   from nothing, it is read back, and
                            all ways to write it are equally long.

`height` is how many levels of messages a value may reach down; reading needs as much depth.
-/

namespace MockCollector.Wire

/-! ## fields -/

structure Field.Sound (f : Field) (height : Nat) : Prop where
  fits : ∀ n ∈ f.numbers, Key.Fits n
  merge_empty : ∀ v, f.merge f.empty v = v
  row : ∀ {depth u v rs}, height ≤ depth → f.Writes v rs →
    (rs.flatMap Record.bytes).length < UInt64.size → Row (f.Takes depth) u rs (f.merge u v)
  length_eq : ∀ {v rs ss}, f.Writes v rs → f.Writes v ss →
    (rs.flatMap Record.bytes).length = (ss.flatMap Record.bytes).length

theorem Field.Sound.mono {f : Field} {low high : Nat} (h : f.Sound low) (le : low ≤ high) :
    f.Sound high :=
  { h with row := fun hd hw small => h.row (Nat.le_trans le hd) hw small }

/-! ## the values of several fields -/

section
variable {fs : List Field} {height depth : Nat}

theorem Values.merge_empty (sound : ∀ f ∈ fs, f.Sound height) (vs : Values fs) :
    Values.merge fs (Values.empty fs) vs = vs := by
  induction fs with
  | nil => rfl
  | cons f fs ih =>
    obtain ⟨v, vs⟩ := vs
    show (f.merge f.empty v, Values.merge fs (Values.empty fs) vs) = (v, vs)
    rw [(sound f List.mem_cons_self).merge_empty,
      ih (fun g hg => sound g (List.mem_cons_of_mem f hg))]

theorem Values.length_eq (sound : ∀ f ∈ fs, f.Sound height) {vs : Values fs} {rs ss : List Record}
    (hr : Values.Writes fs vs rs) (hs : Values.Writes fs vs ss) :
    (rs.flatMap Record.bytes).length = (ss.flatMap Record.bytes).length := by
  induction fs generalizing rs ss with
  | nil =>
    obtain rfl : rs = [] := hr
    obtain rfl : ss = [] := hs
    rfl
  | cons f fs ih =>
    obtain ⟨v, vs⟩ := vs
    obtain ⟨r, rs, hr, hrs, rfl⟩ := hr
    obtain ⟨s, ss, hs, hss, rfl⟩ := hs
    have first := (sound f List.mem_cons_self).length_eq hr hs
    have others := ih (fun g hg => sound g (List.mem_cons_of_mem f hg)) hrs hss
    simp only [List.flatMap_append, List.length_append, first, others]

/-- the records of several fields are a row, since each goes to its own field -/
theorem Values.row (apart : (Values.numbers fs).Nodup) (sound : ∀ f ∈ fs, f.Sound height)
    (deep : height ≤ depth) {us vs : Values fs} {rs : List Record} (hw : Values.Writes fs vs rs)
    (small : (rs.flatMap Record.bytes).length < UInt64.size) :
    Row (Values.Takes fs depth) us rs (Values.merge fs us vs) := by
  induction fs generalizing rs with
  | nil =>
    obtain rfl : rs = [] := hw
    exact .nil _
  | cons f fs ih =>
    obtain ⟨u, us⟩ := us
    obtain ⟨v, vs⟩ := vs
    obtain ⟨first, others, hf, ho, rfl⟩ := hw
    obtain ⟨-, apart', disjoint⟩ := List.nodup_append.mp apart
    rw [List.flatMap_append, List.length_append] at small
    have row₁ : Row (f.Takes depth) u first (f.merge u v) :=
      (sound f List.mem_cons_self).row deep hf (by omega)
    have row₂ : Row (Values.Takes fs depth) us others (Values.merge fs us vs) :=
      ih apart' (fun g hg => sound g (List.mem_cons_of_mem f hg)) ho (by omega)
    have mine : Row (Values.Takes (f :: fs) depth) (u, us) first (f.merge u v, us) :=
      row₁.map (fun x => (x, us)) fun _ _ _ take => Values.Takes.head us take
    have theirs : Row (Values.Takes (f :: fs) depth) (f.merge u v, us) others
        (f.merge u v, Values.merge fs us vs) :=
      row₂.map (fun xs => (f.merge u v, xs)) fun _ _ _ take =>
        Values.Takes.tail (f.merge u v) (fun hm => disjoint _ hm _ take.1 rfl) take
    exact mine.append theirs

end

/-! ## layouts -/

structure Layout.Sound {M : Type} (L : Layout M) (height : Nat) : Prop where
  apart : (Values.numbers L.fields).Nodup
  fields : ∀ f ∈ L.fields, f.Sound height

namespace Layout.Sound

variable {M : Type} {L : Layout M} {height depth : Nat} {m : M} {bs : List UInt8}

theorem mono (h : L.Sound height) {high : Nat} (le : height ≤ high) : L.Sound high :=
  ⟨h.apart, fun f hf => (h.fields f hf).mono le⟩

theorem merge_empty (h : L.Sound height) (m : M) : L.merge L.empty m = m := by
  rw [Layout.merge, Layout.empty, L.split_join, Values.merge_empty h.fields, L.join_split]

theorem length_encodes (h : L.Sound height) {cs : List UInt8} (hb : L.Encodes m bs)
    (hc : L.Encodes m cs) : bs.length = cs.length := by
  obtain ⟨rs, hr, rfl⟩ := hb
  obtain ⟨ss, hs, rfl⟩ := hc
  exact Values.length_eq h.fields hr hs

theorem fits (h : L.Sound height) : ∀ n ∈ Values.numbers L.fields, Key.Fits n := by
  intro n hn
  obtain ⟨f, hf, hn⟩ := List.mem_flatMap.mp hn
  exact (h.fields f hf).fits n hn

theorem readRecords (h : L.Sound height) (deep : height ≤ depth) (hm : L.Encodes m bs)
    (small : bs.length < UInt64.size) (u : M) (rest : List UInt8) :
    readRecords L.fields depth rest.length (L.split u) (bs ++ rest)
      = .ok (L.split (L.merge u m), rest) := by
  obtain ⟨rs, hw, rfl⟩ := hm
  rw [Layout.merge, L.split_join]
  exact readRecords_row h.fits (Values.row h.apart h.fields deep hw small) rest

theorem readInto (h : L.Sound height) (deep : height ≤ depth) (hm : L.Encodes m bs)
    (small : bs.length < UInt64.size) (u : M) (rest : List UInt8) :
    L.readInto (depth + 1) u (delimited bs ++ rest) = .ok (L.merge u m, rest) := by
  have length : readVarint (delimited bs ++ rest) = .ok (bs.length, bs ++ rest) := by
    rw [delimited, List.append_assoc, readVarint_encode small]
  have enough : ¬ (bs ++ rest).length < bs.length := by simp
  have behind : (bs ++ rest).length - bs.length = rest.length := by simp
  rw [Layout.readInto, readEmbedded, length]
  simp only [if_neg enough, behind, h.readRecords deep hm small u rest, if_true, L.join_split]

theorem decode_of_encodes (h : L.Sound height) (deep : height ≤ maxDepth) (hm : L.Encodes m bs)
    (small : bs.length < UInt64.size) : L.decode bs = .ok m := by
  have read := h.readRecords deep hm small L.empty []
  rw [List.append_nil, List.length_nil, Layout.empty, L.split_join] at read
  rw [Layout.decode, read]
  show Except.ok (L.join (L.split (L.merge L.empty m))) = _
  rw [h.merge_empty, L.join_split]

/-- two messages, written one after the other, are read as the second laid over the first -/
theorem decode_append (h : L.Sound height) (deep : height ≤ maxDepth) {n : M} {cs : List UInt8}
    (hm : L.Encodes m bs) (hn : L.Encodes n cs) (small : (bs ++ cs).length < UInt64.size) :
    L.decode (bs ++ cs) = .ok (L.merge m n) := by
  obtain ⟨rs, hrs, rfl⟩ := hm
  obtain ⟨ss, hss, rfl⟩ := hn
  rw [List.length_append] at small
  have first : Row (Values.Takes L.fields maxDepth) (Values.empty L.fields) rs (L.split m) := by
    rw [← Values.merge_empty h.fields (L.split m)]
    exact Values.row h.apart h.fields deep hrs (by omega)
  have second : Row (Values.Takes L.fields maxDepth) (L.split m) ss
      (Values.merge L.fields (L.split m) (L.split n)) :=
    Values.row h.apart h.fields deep hss (by omega)
  have read := readRecords_row h.fits (first.append second) []
  rw [List.append_nil, List.flatMap_append, List.length_nil] at read
  rw [Layout.decode, read]
  rfl

end Layout.Sound

end MockCollector.Wire
