import MockCollector.Proofs.Text.Lines
import MockCollector.Store.Criteria
/-!
# Lines of summaries, dumps and messages

* `Expected.lineBreaks_text`, `ReportCriteria.lineBreaks_text`   criteria for reports are on one line;
* `KeyValue.breaks tag`     the line breaks in the key of `tag` and, if its value is text or JSON, in that;
* `Report.displayed r`      the tags that the summary of `r` shows;
* `Report.lineBreaks_summary`   a summary has the line breaks of these tags and no others;
* `Query.breaks q c`        those of a message, by the items that it lists;
* `summaries_break_with_their_tags`   summaries, dumps and messages about reports, all of them;
* `summary_of_two_lines`    a report whose summary is not on one line.
-/

namespace MockCollector

/-! ## criteria -/

namespace Expected

mutual

theorem lineBreaks_text : (v : Expected) → lineBreaks v.text = 0
  | .null => rfl
  | .bool b => by
    have labels : lineBreaks "Bool(" = 0 ∧ lineBreaks ")" = 0 := by decide
    simp only [text, lineBreaks_append, lineBreaks_bool, labels]
  | .int n => by
    have labels : lineBreaks "Number(" = 0 ∧ lineBreaks ")" = 0 := by decide
    simp only [text, lineBreaks_append, lineBreaks_int, labels]
  | .double d => by
    have labels : lineBreaks "Number(" = 0 ∧ lineBreaks ")" = 0 := by decide
    simp only [text, lineBreaks_append, d.lineBreaks_shortestText, labels]
  | .string s => by
    have labels : lineBreaks "String(" = 0 ∧ lineBreaks ")" = 0 := by decide
    simp only [text, lineBreaks_append, lineBreaks_quoted, labels]
  | .list xs => by
    have labels : lineBreaks "Array [" = 0 ∧ lineBreaks "]" = 0 := by decide
    simp only [text, lineBreaks_append, lineBreaks_commas_of_each (lineBreaks_texts xs), labels]
  | .object es => by
    have labels : lineBreaks "Object \x7b" = 0 ∧ lineBreaks "\x7d" = 0 := by decide
    simp only [text, lineBreaks_append, lineBreaks_commas_of_each (lineBreaks_entryTexts es), labels]

theorem lineBreaks_texts : (xs : List Expected) → ∀ s ∈ texts xs, lineBreaks s = 0
  | [] => List.forall_mem_nil _
  | x :: xs => List.forall_mem_cons.mpr ⟨lineBreaks_text x, lineBreaks_texts xs⟩

theorem lineBreaks_entryTexts : (es : List (String × Expected)) → ∀ s ∈ entryTexts es, lineBreaks s = 0
  | [] => List.forall_mem_nil _
  | (k, v) :: es => by
    have colon : lineBreaks ": " = 0 := rfl
    refine List.forall_mem_cons.mpr ⟨?_, lineBreaks_entryTexts es⟩
    rw [lineBreaks_append, lineBreaks_append, colon, lineBreaks_quoted, lineBreaks_text v]

end

end Expected

theorem ExpectedTags.lineBreaks_text (tags : ExpectedTags) : lineBreaks tags.text = 0 := by
  have labels : lineBreaks "[" = 0 ∧ lineBreaks "(" = 0 ∧ lineBreaks ", " = 0 ∧ lineBreaks ")" = 0 ∧
      lineBreaks "]" = 0 := by decide
  have each : ∀ s ∈ tags.map fun t => "(" ++ quoted t.1 ++ ", " ++ t.2.text ++ ")",
      lineBreaks s = 0 := by
    intro s hs
    obtain ⟨t, -, rfl⟩ := List.mem_map.mp hs
    simp only [lineBreaks_append, lineBreaks_quoted, t.2.lineBreaks_text, labels]
  simp only [text, lineBreaks_append, lineBreaks_commas_of_each each, labels]

theorem lineBreaks_criteriaText {parts : List (Option String)}
    (each : ∀ s, some s ∈ parts → lineBreaks s = 0) : lineBreaks (criteriaText parts) = 0 := by
  refine lineBreaks_commas_of_each fun s hs => ?_
  obtain ⟨part, listed, rfl⟩ := List.mem_filterMap.mp hs
  exact each s listed

theorem ReportCriteria.lineBreaks_text (c : ReportCriteria) : lineBreaks c.text = 0 := by
  have labels : lineBreaks "access_token=" = 0 ∧ lineBreaks "reporter_id=" = 0 ∧
      lineBreaks "reporter_tags=" = 0 ∧ lineBreaks "internal_metrics=" = 0 ∧
      lineBreaks "span_count=" = 0 := by decide
  have part {α : Type} (f : α → String) (hf : ∀ a, lineBreaks (f a) = 0) {label : String}
      (hl : lineBreaks label = 0) {o : Option α} {s : String}
      (hs : some s = o.map fun a => label ++ f a) : lineBreaks s = 0 := by
    obtain ⟨a, -, rfl⟩ := Option.map_eq_some_iff.mp hs.symm
    rw [lineBreaks_append, hl, hf]
  refine lineBreaks_criteriaText fun s hs => ?_
  simp only [List.mem_cons, List.not_mem_nil, or_false] at hs
  obtain ⟨token, id, tags, metrics, count⟩ := labels
  rcases hs with hs | hs | hs | hs | hs
  · exact part quoted lineBreaks_quoted token hs
  · exact part (fun id : UInt64 => toString id.toNat) (fun id => lineBreaks_nat id.toNat) id hs
  · exact part ExpectedTags.text ExpectedTags.lineBreaks_text tags hs
  · exact part (fun b : Bool => toString b) lineBreaks_bool metrics hs
  · exact part (fun n : Nat => toString n) lineBreaks_nat count hs

/-! ## summaries -/

def KeyValue.breaks (tag : KeyValue) : Nat :=
  lineBreaks tag.key + match tag.value with
    | some (.string s) => lineBreaks s
    | some (.json s) => lineBreaks s
    | _ => 0

def Report.displayed (r : Report) : List KeyValue :=
  ((r.reporter.map Reporter.tags).getD []).take shownTags

theorem KeyValue.lineBreaks_text (tag : KeyValue) : lineBreaks tag.text = tag.breaks := by
  have labels : lineBreaks "=" = 0 ∧ lineBreaks "\"" = 0 ∧ lineBreaks "json:" = 0 ∧
      lineBreaks absent = 0 := by decide
  rw [text, lineBreaks_append, lineBreaks_append, labels.1, Nat.add_zero, breaks]
  congr 1
  cases tag.value with
  | none => exact labels.2.2.2
  | some v =>
    show lineBreaks v.text = _
    cases v with
    | string s => simp only [TagValue.text, lineBreaks_append, labels, Nat.zero_add, Nat.add_zero]
    | int i => exact lineBreaks_int i.toInt
    | double d => exact d.lineBreaks_placesText 6
    | bool b => exact lineBreaks_bool b
    | json s => rw [TagValue.text, lineBreaks_append, labels.2.2.1, Nat.zero_add]

theorem KeyValue.breaks_eq_zero_iff (tag : KeyValue) : tag.breaks = 0 ↔ '\n' ∉ tag.key.toList ∧
    ∀ t, tag.value = some (.string t) ∨ tag.value = some (.json t) → '\n' ∉ t.toList := by
  obtain ⟨key, value⟩ := tag
  rw [breaks, Nat.add_eq_zero_iff, lineBreaks_eq_zero_iff]
  refine and_congr_right fun _ => ?_
  rcases value with _ | s | i | d | b | s
  case some.string | some.json =>
    show lineBreaks s = 0 ↔ _
    rw [lineBreaks_eq_zero_iff]
    simp
  all_goals simp

theorem lineBreaks_tagsText (most : Nat) (tags : List KeyValue) :
    lineBreaks (tagsText most tags) = ((tags.take most).map KeyValue.breaks).sum := by
  have labels : lineBreaks "\x7b" = 0 ∧ lineBreaks "\x7d" = 0 ∧ lineBreaks ", ... +" = 0 ∧
      lineBreaks "" = 0 := by decide
  have more : lineBreaks (if most < tags.length then ", ... +" ++ toString (tags.length - most) else "")
      = 0 := by
    split
    · rw [lineBreaks_append, labels.2.2.1, lineBreaks_nat]
    · exact labels.2.2.2
  have each : lineBreaks ∘ KeyValue.text = KeyValue.breaks := funext KeyValue.lineBreaks_text
  simp only [tagsText, lineBreaks_append, lineBreaks_commas, List.map_map, each, more, labels,
    Nat.zero_add, Nat.add_zero]

theorem Report.lineBreaks_summary (r : Report) :
    lineBreaks r.summary = (r.displayed.map KeyValue.breaks).sum := by
  have labels : lineBreaks "reporter_id=" = 0 ∧ lineBreaks ", access_token=" = 0 ∧
      lineBreaks ", internal_metrics=" = 0 ∧ lineBreaks ", spans=[" = 0 ∧ lineBreaks "]" = 0 ∧
      lineBreaks ", reporter_tags=" = 0 := by decide
  have id : lineBreaks ((r.reporter.map fun p => toString p.reporterId.toNat).getD absent) = 0 := by
    cases r.reporter with
    | none => rfl
    | some p => exact lineBreaks_nat p.reporterId.toNat
  have metrics (b : Bool) : lineBreaks (if b then "yes" else "no") = 0 := by
    revert b
    decide
  have names : lineBreaks (", ".intercalate (r.spans.map fun s => quoted s.operationName)) = 0 := by
    refine lineBreaks_commas_of_each fun t ht => ?_
    obtain ⟨s, -, rfl⟩ := List.mem_map.mp ht
    exact lineBreaks_quoted s.operationName
  have tags : lineBreaks (tagsPart "reporter_tags" ((r.reporter.map Reporter.tags).getD []))
      = (r.displayed.map KeyValue.breaks).sum := by
    rw [displayed]
    generalize (r.reporter.map Reporter.tags).getD [] = tags
    cases tags with
    | nil => rfl
    | cons tag tags =>
      have label : ", " ++ "reporter_tags" ++ "=" = ", reporter_tags=" := rfl
      rw [tagsPart, if_neg (by rintro ⟨⟩), label, lineBreaks_append, lineBreaks_tagsText,
        labels.2.2.2.2.2, Nat.zero_add]
  -- the defining equation of so long a text takes long to derive
  delta summary
  simp only [lineBreaks_append, lineBreaks_quoted, id, metrics, names, tags, labels, Nat.zero_add]

/-! ## dumps and messages -/

theorem ReportStore.lineBreaks_dump (s : ReportStore) :
    lineBreaks s.dump = s.reportCount + 1 + (s.reports.map fun r => lineBreaks r.summary).sum := by
  have labels : lineBreaks "Report store: " = 0 ∧ lineBreaks " report(s), " = 0 ∧
      lineBreaks " span(s)\n" = 1 ∧ lineBreaks "\n[" = 1 ∧ lineBreaks "] " = 0 := by decide
  have each (i : Nat) (r : Report) : lineBreaks ("\n[" ++ toString i ++ "] " ++ r.summary)
      = 1 + lineBreaks r.summary := by
    simp only [lineBreaks_append, lineBreaks_nat, labels, Nat.add_zero]
  have listed := lineBreaks_join_mapIdx each s.reports
  have total : (s.reports.map fun r => 1 + lineBreaks r.summary).sum
      = s.reportCount + (s.reports.map fun r => lineBreaks r.summary).sum := by
    rw [reportCount]
    induction s.reports with
    | nil => rfl
    | cons r rs ih =>
      simp only [List.map_cons, List.sum_cons, List.length_cons, ih]
      omega
  delta dump
  simp only [lineBreaks_append, lineBreaks_nat, listed, total, labels, Nat.zero_add]
  omega

namespace Query

variable {α : Type}

theorem lineBreaks_lines (line : α → String) (items : List α) :
    lineBreaks (lines line items) = (items.map fun a => lineBreaks (line a) + 1).sum := by
  have labels : lineBreaks "  [" = 0 ∧ lineBreaks "] " = 0 ∧ lineBreaks "\n" = 1 := by decide
  refine lineBreaks_join_mapIdx (fun i a => ?_) items
  simp only [lineBreaks_append, lineBreaks_nat, labels, Nat.zero_add]

/-- the line breaks of a message: for every item that it lists, those in its line and the one behind -/
def breaks (q : Query α) : Check → Nat
  | .exists =>
    5 + if q.items.isEmpty then 0 else
      1 + ((q.items.take shownItems).map fun a => lineBreaks (q.itemLine a) + 1).sum
        + if shownItems < q.items.length then 1 else 0
  | .countIs _ =>
    3 + if q.found.isEmpty then 0 else 1 + (q.found.map fun a => lineBreaks (q.matchLine a) + 1).sum
  | _ => 1

section
variable {q : Query α}

theorem lineBreaks_foundText (plural : lineBreaks q.plural = 0) : lineBreaks q.foundText
    = if q.found.isEmpty then 0 else 1 + (q.found.map fun a => lineBreaks (q.matchLine a) + 1).sum := by
  have labels : lineBreaks "Matching " = 0 ∧ lineBreaks ":\n" = 1 := by decide
  delta foundText
  by_cases none : q.found.isEmpty
  · rw [if_pos none, if_pos none]
    rfl
  · rw [if_neg none, if_neg none]
    simp only [lineBreaks_append, lineBreaks_lines, plural, labels, Nat.zero_add]

theorem lineBreaks_itemsText (plural : lineBreaks q.plural = 0) : lineBreaks q.itemsText
    = if q.items.isEmpty then 0 else
        1 + ((q.items.take shownItems).map fun a => lineBreaks (q.itemLine a) + 1).sum
          + if shownItems < q.items.length then 1 else 0 := by
  have labels : lineBreaks "Found " = 0 ∧ lineBreaks " " = 0 ∧ lineBreaks "(s) in store" = 0 ∧
      lineBreaks ":\n" = 1 ∧ lineBreaks "  ... and " = 0 ∧ lineBreaks " more\n" = 1 ∧
      lineBreaks "" = 0 := by decide
  have singular : lineBreaks (String.ofList q.plural.toList.dropLast) = 0 := by
    rw [lineBreaks_ofList, ← Nat.le_zero, ← plural]
    exact (List.dropLast_sublist _).count_le _
  have more : lineBreaks (if shownItems < q.items.length then
      "  ... and " ++ toString (q.items.length - shownItems) ++ " more\n" else "")
      = if shownItems < q.items.length then 1 else 0 := by
    by_cases many : shownItems < q.items.length
    · rw [if_pos many, if_pos many]
      simp only [lineBreaks_append, lineBreaks_nat, labels, Nat.zero_add]
    · rw [if_neg many, if_neg many]
      exact labels.2.2.2.2.2.2
  delta itemsText
  rw [lineBreaks_append]
  by_cases none : q.items.isEmpty
  · rw [if_pos none, if_pos none]
    simp only [lineBreaks_append, lineBreaks_nat, singular, labels]
  · rw [if_neg none, if_neg none]
    simp only [lineBreaks_append, lineBreaks_nat, lineBreaks_lines, singular, more, labels, Nat.zero_add]

theorem lineBreaks_message (plural : lineBreaks q.plural = 0) (criteria : lineBreaks q.criteria = 0)
    (c : Check) : lineBreaks (q.message c) = q.breaks c := by
  have labels : lineBreaks "No " = 0 ∧ lineBreaks " matched the assertion.\n\nExpected:\n  " = 3 ∧
      lineBreaks "\n\n" = 2 ∧ lineBreaks "Expected no " = 0 ∧ lineBreaks " to match, but found " = 0 ∧
      lineBreaks " matching.\nCriteria: " = 1 ∧ lineBreaks "Expected " = 0 ∧
      lineBreaks " matching " = 0 ∧ lineBreaks ", but found " = 0 ∧ lineBreaks ".\nCriteria: " = 1 ∧
      lineBreaks "Expected at least " = 0 ∧ lineBreaks "Expected at most " = 0 := by decide
  cases c with
  | «exists» =>
    show lineBreaks ("No " ++ q.plural ++ " matched the assertion.\n\nExpected:\n  " ++ q.criteria
      ++ "\n\n" ++ q.itemsText) = _
    simp only [lineBreaks_append, plural, criteria, lineBreaks_itemsText plural, labels, breaks]
  | notExists =>
    show lineBreaks ("Expected no " ++ q.plural ++ " to match, but found " ++ toString q.count
      ++ " matching.\nCriteria: " ++ q.criteria) = 1
    simp only [lineBreaks_append, lineBreaks_nat, plural, criteria, labels]
  | countIs n =>
    show lineBreaks ("Expected " ++ toString n ++ " matching " ++ q.plural ++ ", but found "
      ++ toString q.count ++ ".\nCriteria: " ++ q.criteria ++ "\n\n" ++ q.foundText) = _
    simp only [lineBreaks_append, lineBreaks_nat, plural, criteria, lineBreaks_foundText plural, labels,
      breaks]
  | atLeast n =>
    show lineBreaks ("Expected at least " ++ toString n ++ " matching " ++ q.plural ++ ", but found "
      ++ toString q.count ++ ".\nCriteria: " ++ q.criteria) = 1
    simp only [lineBreaks_append, lineBreaks_nat, plural, criteria, labels]
  | atMost n =>
    show lineBreaks ("Expected at most " ++ toString n ++ " matching " ++ q.plural ++ ", but found "
      ++ toString q.count ++ ".\nCriteria: " ++ q.criteria) = 1
    simp only [lineBreaks_append, lineBreaks_nat, plural, criteria, labels]

end

end Query

/-- **A summary has the line breaks of the tags it shows, and no others.**  Tokens, names of spans and
criteria add none, nor do numbers.  It is on one line if there is no break in the keys of the first three
tags of the reporter, nor in their texts or JSON.  A dump has one break for each report and one more if
every summary is on one line, and a message one behind each report that it lists, besides those in their
summaries. -/
theorem summaries_break_with_their_tags (r : Report) (s : ReportStore) (c : ReportCriteria)
    (check : Check) :
    (lineBreaks r.summary = (r.displayed.map KeyValue.breaks).sum ∧
        ('\n' ∉ r.summary.toList ↔ ∀ tag ∈ r.displayed, '\n' ∉ tag.key.toList ∧
          ∀ t, tag.value = some (.string t) ∨ tag.value = some (.json t) → '\n' ∉ t.toList)) ∧
      (lineBreaks s.dump = s.reportCount + 1 + (s.reports.map fun r => lineBreaks r.summary).sum ∧
        (lineBreaks s.dump = s.reportCount + 1 ↔ ∀ r ∈ s.reports, '\n' ∉ r.summary.toList)) ∧
      ((c.query s).failure? check).map lineBreaks
        = if (c.query s).holds check then none else some ((c.query s).breaks check) := by
  refine ⟨⟨r.lineBreaks_summary, ?_⟩, ⟨s.lineBreaks_dump, ?_⟩, ?_⟩
  · rw [← lineBreaks_eq_zero_iff, r.lineBreaks_summary, List.sum_eq_zero_iff_forall_eq_nat,
      List.forall_mem_map]
    exact forall₂_congr fun tag _ => tag.breaks_eq_zero_iff
  · rw [s.lineBreaks_dump, Nat.add_eq_left, List.sum_eq_zero_iff_forall_eq_nat,
      List.forall_mem_map]
    exact forall₂_congr fun r _ => lineBreaks_eq_zero_iff
  · have plural : lineBreaks (c.query s).plural = 0 := by
      show lineBreaks "reports" = 0
      decide
    have criteria : lineBreaks (c.query s).criteria = 0 := by
      show lineBreaks c.text = 0
      exact c.lineBreaks_text
    rw [Query.failure?]
    split
    · rfl
    · rw [Option.map_some, Query.lineBreaks_message plural criteria]

/-- a report whose reporter has a tag with a line break in its key -/
def folded : Report := ⟨some ⟨7, [⟨"a\nb", some (.string "c")⟩]⟩, none, [], 0, none⟩

/-- its summary is on two lines, and so is its place in a dump and in a message -/
theorem summary_of_two_lines :
    folded.summary = "reporter_id=7, access_token=\"<none>\", internal_metrics=no, spans=[], "
        ++ "reporter_tags=\x7ba\nb=\"c\"\x7d" ∧
      '\n' ∈ folded.summary.toList ∧
      lineBreaks (ReportStore.dump ⟨[folded]⟩) = ReportStore.reportCount ⟨[folded]⟩ + 1 + 1 ∧
      ((ReportCriteria.ofList [.reporterId 8]).query ⟨[folded]⟩).failure? .exists
        = some ("No reports matched the assertion.\n\nExpected:\n  reporter_id=8\n\n"
          ++ "Found 1 report(s) in store:\n  [0] reporter_id=7, access_token=\"<none>\", "
          ++ "internal_metrics=no, spans=[], reporter_tags=\x7ba\nb=\"c\"\x7d\n") := by
  have breaks : lineBreaks folded.summary = 1 := by
    rw [Report.lineBreaks_summary]
    decide
  refine ⟨by decide +kernel, ?_, ?_, by decide +kernel⟩
  · refine List.count_pos_iff.mp ?_
    show 0 < lineBreaks folded.summary
    rw [breaks]
    exact Nat.one_pos
  · rw [ReportStore.lineBreaks_dump, List.map_singleton, List.sum_singleton, breaks]

end MockCollector
