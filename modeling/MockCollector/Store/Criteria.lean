import MockCollector.Store.Basic
import MockCollector.Store.Query
import MockCollector.Store.TagMatch
/-!
# Criteria for reports and spans

* `ReportCriterion`, `ReportCriteria`   what a report may be asked to be, and all that one is asked;
* `SpanCriterion`, `SpanCriteria`       the same for spans;
* `ReportCriteria.query`, `SpanCriteria.query`   the question put to a store.

A criterion replaces an earlier one of its kind, except that a single tag is added to the tags that were
asked for before.
-/

namespace MockCollector

/-! ## reports -/

inductive ReportCriterion where
  | accessToken (token : String)
  | reporterId (id : UInt64)
  | reporterTags (tags : ExpectedTags)
  | internalMetrics (present : Bool)
  | spanCount (n : Nat)

structure ReportCriteria where
  accessToken : Option String
  reporterId : Option UInt64
  reporterTags : Option ExpectedTags
  internalMetrics : Option Bool
  spanCount : Option Nat

/-- a criterion that was not set is met by anything -/
def meets {α : Type} (criterion : Option α) (test : α → Bool) : Bool := criterion.all test

/-- the criteria that were set, as text -/
def criteriaText (parts : List (Option String)) : String := ", ".intercalate (parts.filterMap id)

namespace ReportCriteria

def none : ReportCriteria := ⟨.none, .none, .none, .none, .none⟩

def add (c : ReportCriteria) : ReportCriterion → ReportCriteria
  | .accessToken token => { c with accessToken := some token }
  | .reporterId id => { c with reporterId := some id }
  | .reporterTags tags => { c with reporterTags := some tags }
  | .internalMetrics present => { c with internalMetrics := some present }
  | .spanCount n => { c with spanCount := some n }

def ofList (cs : List ReportCriterion) : ReportCriteria := cs.foldl add none

def isMatch (c : ReportCriteria) (r : Report) : Bool :=
  meets c.accessToken (fun token => r.auth.any fun a => a.accessToken == token)
    && meets c.reporterId (fun id => r.reporter.any fun p => p.reporterId == id)
    && meets c.reporterTags (fun tags => r.reporter.any fun p => allTagsFit p.tags tags)
    && meets c.internalMetrics (fun present => r.internalMetrics.isSome == present)
    && meets c.spanCount (fun n => r.spans.length == n)

def text (c : ReportCriteria) : String :=
  criteriaText [
    c.accessToken.map fun token => "access_token=" ++ quoted token,
    c.reporterId.map fun id => "reporter_id=" ++ toString id.toNat,
    c.reporterTags.map fun tags => "reporter_tags=" ++ tags.text,
    c.internalMetrics.map fun present => "internal_metrics=" ++ toString present,
    c.spanCount.map fun n => "span_count=" ++ toString n]

def query (c : ReportCriteria) (s : ReportStore) : Query Report :=
  { plural := "reports"
    items := s.reports
    isMatch := c.isMatch
    criteria := c.text
    matchLine := Report.summary
    itemLine := Report.summary }

end ReportCriteria

/-! ## spans -/

inductive SpanCriterion where
  | traceId (id : UInt64)
  | tags (tags : ExpectedTags)
  | tag (key : String) (value : Expected)

structure SpanCriteria where
  operationName : Option String
  traceId : Option UInt64
  tags : Option ExpectedTags

namespace SpanCriteria

def named (operationName : Option String) : SpanCriteria := ⟨operationName, none, none⟩

def add (c : SpanCriteria) : SpanCriterion → SpanCriteria
  | .traceId id => { c with traceId := some id }
  | .tags tags => { c with tags := some tags }
  | .tag key value => { c with tags := some (c.tags.getD [] ++ [(key, value)]) }

def ofList (operationName : Option String) (cs : List SpanCriterion) : SpanCriteria :=
  cs.foldl add (named operationName)

def isMatch (c : SpanCriteria) (s : Span) : Bool :=
  meets c.operationName (fun name => s.operationName == name)
    && meets c.traceId (fun id => s.spanContext.any fun x => x.traceId == id)
    && meets c.tags (fun tags => allTagsFit s.tags tags)

def text (c : SpanCriteria) : String :=
  criteriaText [
    c.operationName.map fun name => "operation_name=" ++ quoted name,
    c.traceId.map fun id => "trace_id=" ++ toString id.toNat,
    c.tags.map fun tags => "tags=" ++ tags.text]

def query (c : SpanCriteria) (s : ReportStore) : Query Span :=
  { plural := "spans"
    items := s.spans
    isMatch := c.isMatch
    criteria := c.text
    matchLine := Span.nameText
    itemLine := Span.summary }

end SpanCriteria

end MockCollector
