import MockCollector.Proofs.Store.Criteria
/-!
# Tags as sets

* `allTagsFit_mono`        more tags fit as well, and fewer are met as well;
* `allTagsFit_congr`       so neither order nor repetition matters;
* `SpanCriteria.ofList_tags_append`   tags that are added one by one are asked for as if all had been named
                           at once;
* `tags_as_sets`           tags that are asked for are a set, and so are those that there are.
-/

namespace MockCollector

variable {tags more : List KeyValue} {es fs fewer : ExpectedTags}

theorem allTagsFit_mono (there : tags ⊆ more) (asked : fewer ⊆ es) (h : allTagsFit tags es = true) :
    allTagsFit more fewer = true := by
  rw [allTagsFit_iff] at h ⊢
  intro e he
  obtain ⟨tag, ht, fits⟩ := h e (asked he)
  exact ⟨tag, there ht, fits⟩

theorem allTagsFit_congr {others : List KeyValue} (there : ∀ tag, tag ∈ tags ↔ tag ∈ others)
    (asked : ∀ e, e ∈ es ↔ e ∈ fs) : allTagsFit tags es = allTagsFit others fs := by
  rw [Bool.eq_iff_iff]
  constructor
  · exact allTagsFit_mono (fun tag => (there tag).mp) (fun e => (asked e).mpr)
  · exact allTagsFit_mono (fun tag => (there tag).mpr) (fun e => (asked e).mp)

namespace SpanCriteria

/-- single tags, one after the other -/
def single (es : ExpectedTags) : List SpanCriterion := es.map fun e => .tag e.1 e.2

theorem foldl_single (c : SpanCriteria) (asked : c.tags = some es) (fs : ExpectedTags) :
    (single fs).foldl add c = { c with tags := some (es ++ fs) } := by
  induction fs generalizing c es with
  | nil =>
    rw [List.append_nil, ← asked]
    rfl
  | cons f fs ih =>
    have next : (c.add (.tag f.1 f.2)).tags = some (es ++ [f]) := by
      show some (c.tags.getD [] ++ [f]) = _
      rw [asked]
      rfl
    show (single fs).foldl add (c.add (.tag f.1 f.2)) = _
    rw [ih _ next, List.append_assoc]
    rfl

/-- a list of tags replaces what was asked for before, and single ones are added -/
theorem tags_ofList (operationName : Option String) (before : List SpanCriterion)
    (es fs : ExpectedTags) :
    (ofList operationName (before ++ .tags es :: single fs)).tags = some (es ++ fs) := by
  unfold ofList
  rw [List.foldl_append, List.foldl_cons, foldl_single _ rfl]

theorem ofList_tags_append (operationName : Option String) (before after : List SpanCriterion)
    (es fs : ExpectedTags) :
    ofList operationName (before ++ .tags es :: (single fs ++ after))
      = ofList operationName (before ++ .tags (es ++ fs) :: after) := by
  unfold ofList
  rw [List.foldl_append, List.foldl_append, List.foldl_cons, List.foldl_cons, List.foldl_append,
    foldl_single _ rfl]
  rfl

end SpanCriteria

/-- **Tags are sets**, those that there are and those that are asked for.  Neither the order of tags nor
their number changes whether all that are asked for are there; more tags fit as well, and what fits fits if
fewer are asked for; those of two lists are there if those of the first are and those of the second; and
tags that are added one by one, whatever is asked for before and after, give the query that names all of
them at once, and all of them are asked for. -/
theorem tags_as_sets :
    (∀ tags others es fs, (∀ tag, tag ∈ tags ↔ tag ∈ others) → (∀ e, e ∈ es ↔ e ∈ fs) →
      allTagsFit tags es = allTagsFit others fs) ∧
    (∀ tags more es, tags ⊆ more → allTagsFit tags es = true → allTagsFit more es = true) ∧
    (∀ tags es more, es ⊆ more → allTagsFit tags es = false → allTagsFit tags more = false) ∧
    (∀ tags es fs,
      allTagsFit tags (es ++ fs) = true ↔ allTagsFit tags es = true ∧ allTagsFit tags fs = true) ∧
    (∀ (s : ReportStore) (operationName : Option String) (before after : List SpanCriterion)
      (es fs : ExpectedTags),
      let oneByOne := SpanCriteria.ofList operationName
        (before ++ .tags es :: (SpanCriteria.single fs ++ after))
      let atOnce := SpanCriteria.ofList operationName (before ++ .tags (es ++ fs) :: after)
      (oneByOne.query s).Alike (atOnce.query s) ∧ oneByOne.text = atOnce.text) ∧
    ∀ (operationName : Option String) (before : List SpanCriterion) (es fs : ExpectedTags),
      (SpanCriteria.ofList operationName (before ++ .tags es :: SpanCriteria.single fs)).tags =
        some (es ++ fs) := by
  refine ⟨?_, ?_, ?_, ?_, ?_, SpanCriteria.tags_ofList⟩
  · intro tags others es fs there asked
    exact allTagsFit_congr there asked
  · intro tags more es there fits
    exact allTagsFit_mono there (List.Subset.refl es) fits
  · intro tags es more asked missing
    rw [← Bool.not_eq_true] at missing ⊢
    intro fits
    exact missing (allTagsFit_mono (List.Subset.refl tags) asked fits)
  · intro tags es fs
    rw [allTagsFit_append, Bool.and_eq_true]
  · intro s operationName before after es fs
    rw [SpanCriteria.ofList_tags_append]
    exact ⟨⟨rfl, rfl, fun _ => rfl⟩, rfl⟩

/-- two tags of one key, and a third without a value -/
def sameKey : List KeyValue := [⟨"k", none⟩, ⟨"k", some (.int 1)⟩, ⟨"k", some (.string "1")⟩]

theorem tags_as_sets_of_one_key :
    allTagsFit sameKey [("k", .int 1), ("k", .string "1")] = true ∧
    allTagsFit (sameKey.reverse ++ sameKey) [("k", .string "1"), ("k", .int 1), ("k", .string "1")] = true ∧
    allTagsFit sameKey [("k", .int 1), ("k", .int 2)] = false ∧
    allTagsFit sameKey [("k", .bool true), ("k", .int 2), ("k", .int 1)] = false ∧
    (SpanCriteria.ofList none [.tag "j" .null, .tags [("k", .int 1)], .tag "k" (.string "1")]).tags =
      some [("k", .int 1), ("k", .string "1")] := by
  obtain ⟨sets, -, mismatch, -, -, asked⟩ := tags_as_sets
  have fits : allTagsFit sameKey [("k", .int 1), ("k", .string "1")] = true := by decide +kernel
  have missing : allTagsFit sameKey [("k", .int 1), ("k", .int 2)] = false := by decide +kernel
  refine ⟨fits, ?_, missing, ?_, ?_⟩
  · rw [← fits]
    exact sets _ _ _ _ (by simp) (by simp)
  · exact mismatch _ _ _ (by simp) missing
  · exact asked none [.tag "j" .null] [("k", .int 1)] [("k", .string "1")]

end MockCollector
