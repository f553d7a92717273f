import MockCollector.Store.Summary
/-!
# The report store

Every report that was accepted, in the order in which they were.  A streamed report is stored as its
opening frames, without spans, followed by one report for each of its spans.

* `ReportStore.append`      adds a report at the end;
* `ReportStore.spans`       the spans of all reports, one report after the other;
* `ReportStore.dump`        a summary of the store with one of each report.
-/

namespace MockCollector

structure ReportStore where
  reports : List Report
  deriving DecidableEq

namespace ReportStore

def empty : ReportStore := ⟨[]⟩

def append (s : ReportStore) (r : Report) : ReportStore := ⟨s.reports ++ [r]⟩

def appendAll (s : ReportStore) (rs : List Report) : ReportStore := rs.foldl append s

def reportCount (s : ReportStore) : Nat := s.reports.length

def spans (s : ReportStore) : List Span := s.reports.flatMap Report.spans

def spanCount (s : ReportStore) : Nat := s.reports.foldr (fun r n => r.spans.length + n) 0

def dump (s : ReportStore) : String :=
  "Report store: " ++ toString s.reportCount ++ " report(s), " ++ toString s.spanCount ++ " span(s)\n"
    ++ String.join (s.reports.mapIdx fun i r => "\n[" ++ toString i ++ "] " ++ r.summary)

/-! ## appending -/

theorem reports_append (s : ReportStore) (r : Report) : (s.append r).reports = s.reports ++ [r] := rfl

theorem reports_appendAll (s : ReportStore) (rs : List Report) :
    (s.appendAll rs).reports = s.reports ++ rs := by
  induction rs generalizing s with
  | nil => simp [appendAll]
  | cons r rs ih =>
    rw [show s.appendAll (r :: rs) = (s.append r).appendAll rs from rfl, ih, reports_append]
    simp

theorem spans_append (s : ReportStore) (r : Report) : (s.append r).spans = s.spans ++ r.spans := by
  simp [spans, append]

theorem spanCount_eq (s : ReportStore) : s.spanCount = s.spans.length := by
  unfold spanCount spans
  induction s.reports with
  | nil => rfl
  | cons r rs ih => rw [List.foldr_cons, ih, List.flatMap_cons, List.length_append]

end ReportStore

end MockCollector
