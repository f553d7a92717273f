import MockCollector.Collector.Basic
import MockCollector.Proofs.Message.RoundTrip
import MockCollector.Store.Criteria
/-!
# A store that grows

* `Query.Widens q r`       `r` finds first what `q` finds, and no check that more can only make pass, or
                           only make fail, goes back on what it said;
* `ReportStore.Written s what bs`   `bs` may be what is sent of `s`, the entries of maps in any order;
* `ReportStore.Told s`     what is counted, flattened or sent of a store agrees with its reports;
* `ReportStore.told`       and so it is of every store;
* `ReportStore.Grows s t`  whatever is seen of `s` comes first in what is seen of `t`;
* `ReportStore.Grows.of_isPrefix`   as it does if only the reports of `s` come first in those of `t`.
-/

namespace MockCollector

/-! ## queries -/

namespace Query

variable {α : Type} {q r : Query α}

structure Widens (q r : Query α) : Prop where
  found : q.found <+: r.found
  present : q.failure? .exists = none → r.failure? .exists = none
  enough (n : Nat) : q.failure? (.atLeast n) = none → r.failure? (.atLeast n) = none
  unwanted : q.failure? .notExists ≠ none → r.failure? .notExists ≠ none
  tooMany (n : Nat) : q.failure? (.atMost n) ≠ none → r.failure? (.atMost n) ≠ none

theorem any_eq_decide_count (q : Query α) : q.items.any q.isMatch = decide (0 < q.count) := by
  rw [Bool.eq_iff_iff, decide_eq_true_iff, count, List.countP_pos_iff, List.any_eq_true]

/-- the same question, put to more items -/
theorem Widens.of_isPrefix (same : r.isMatch = q.isMatch) (items : q.items <+: r.items) :
    q.Widens r := by
  have found : q.found <+: r.found := by
    rw [Query.found, Query.found, same]
    exact items.filter q.isMatch
  have le : q.count ≤ r.count := by
    rw [count_eq_length_found, count_eq_length_found]
    exact found.length_le
  refine ⟨found, ?_, fun n => ?_, ?_, fun n => ?_⟩
  -- each of these checks is a bound on how many are found
  all_goals
    simp only [ne_eq, failure?_eq_none_iff, holds, any_eq_decide_count, Bool.not_eq_true',
      decide_eq_true_iff, decide_eq_false_iff_not]
    omega

end Query

namespace ReportStore

variable {s t : ReportStore} {bs : List UInt8}

/-! ## at one moment -/

def Written (s : ReportStore) : Listing → List UInt8 → Prop
  | .reports, bs => Reports.layout.Encodes ⟨s.reports⟩ bs
  | .spans, bs => Spans.layout.Encodes ⟨s.spans⟩ bs

theorem decode_reports (written : s.Written .reports bs) (small : bs.length < UInt64.size) :
    Reports.layout.decode bs = .ok ⟨s.reports⟩ :=
  Reports.sound_layout.decode_of_encodes (by decide) written small

theorem decode_spans (written : s.Written .spans bs) (small : bs.length < UInt64.size) :
    Spans.layout.decode bs = .ok ⟨s.spans⟩ :=
  Spans.sound_layout.decode_of_encodes (by decide) written small

theorem Written.reports_eq (written : s.Written .reports bs) (small : bs.length < UInt64.size)
    {rs : Reports} (read : Reports.layout.decode bs = .ok rs) : rs.reports = s.reports := by
  obtain rfl := Except.ok.inj (read.symm.trans (decode_reports written small))
  rfl

theorem Written.spans_eq (written : s.Written .spans bs) (small : bs.length < UInt64.size)
    {ss : Spans} (read : Spans.layout.decode bs = .ok ss) : ss.spans = s.spans := by
  obtain rfl := Except.ok.inj (read.symm.trans (decode_spans written small))
  rfl

structure Told (s : ReportStore) : Prop where
  count : s.spanCount = s.spans.length
  flattened : s.spans = s.reports.flatMap Report.spans
  sent (what : Listing) : s.Written what (Collector.listing s what).body
  reports (bs : List UInt8) (written : s.Written .reports bs) (small : bs.length < UInt64.size) :
    Reports.layout.decode bs = .ok ⟨s.reports⟩
  spans (bs : List UInt8) (written : s.Written .spans bs) (small : bs.length < UInt64.size) :
    Spans.layout.decode bs = .ok ⟨s.spans⟩
  /-- the spans that are sent are those of the reports that are sent -/
  agreed (bs cs : List UInt8) (rs : Reports) (ss : Spans) (reports : s.Written .reports bs)
    (spans : s.Written .spans cs) (small : bs.length < UInt64.size ∧ cs.length < UInt64.size)
    (read : Reports.layout.decode bs = .ok rs ∧ Spans.layout.decode cs = .ok ss) :
    ss.spans = rs.reports.flatMap Report.spans

theorem told (s : ReportStore) : s.Told where
  count := s.spanCount_eq
  flattened := rfl
  sent what := by
    cases what with
    | reports => exact Reports.layout.encodes_encode ⟨s.reports⟩
    | spans => exact Spans.layout.encodes_encode ⟨s.spans⟩
  reports _ written small := decode_reports written small
  spans _ written small := decode_spans written small
  agreed _ _ _ _ reports spans small read := by
    rw [reports.reports_eq small.1 read.1, spans.spans_eq small.2 read.2]
    rfl

/-! ## at two moments -/

structure Grows (s t : ReportStore) : Prop where
  reports : s.reports <+: t.reports
  spans : s.spans <+: t.spans
  sentReports (bs cs : List UInt8) (rs rs' : Reports) (before : s.Written .reports bs)
    (after : t.Written .reports cs) (small : bs.length < UInt64.size ∧ cs.length < UInt64.size)
    (read : Reports.layout.decode bs = .ok rs ∧ Reports.layout.decode cs = .ok rs') :
    rs.reports <+: rs'.reports
  sentSpans (bs cs : List UInt8) (ss ss' : Spans) (before : s.Written .spans bs)
    (after : t.Written .spans cs) (small : bs.length < UInt64.size ∧ cs.length < UInt64.size)
    (read : Spans.layout.decode bs = .ok ss ∧ Spans.layout.decode cs = .ok ss') :
    ss.spans <+: ss'.spans
  reportQueries (c : ReportCriteria) : (c.query s).Widens (c.query t)
  spanQueries (c : SpanCriteria) : (c.query s).Widens (c.query t)

theorem spans_isPrefix (reports : s.reports <+: t.reports) : s.spans <+: t.spans := by
  obtain ⟨new, more⟩ := reports
  refine ⟨new.flatMap Report.spans, ?_⟩
  rw [ReportStore.spans, ReportStore.spans, ← more, List.flatMap_append]

theorem Grows.of_isPrefix (reports : s.reports <+: t.reports) : s.Grows t where
  reports := reports
  spans := spans_isPrefix reports
  sentReports _ _ _ _ before after small read := by
    rw [before.reports_eq small.1 read.1, after.reports_eq small.2 read.2]
    exact reports
  sentSpans _ _ _ _ before after small read := by
    rw [before.spans_eq small.1 read.1, after.spans_eq small.2 read.2]
    exact spans_isPrefix reports
  reportQueries _ := .of_isPrefix rfl reports
  spanQueries _ := .of_isPrefix rfl (spans_isPrefix reports)

end ReportStore

end MockCollector
