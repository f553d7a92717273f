import Mathlib.Data.List.Induction
import MockCollector.Store.Criteria
/-!
# Criteria one after the other

* `InForce kind clears cs c`   among the criteria `cs` is `c`, and none behind it clears what was asked of
                           its kind;
* `forall_met_foldl`       those that are in force are what is asked in the end;
* `foldl_of_restrictions`  only the order of those of one kind matters, if those of two kinds may change
                           places;
* `ReportCriterion.Holds`, `SpanCriterion.Holds`   what a criterion asks of a report or a span;
* `Query.Alike`, `Query.Selects`   two queries that are answered alike, and what one query is answered;
* `criteria_in_any_order`  a query asks for all criteria that are in force, whatever their order.
-/

namespace MockCollector

/-! ## what is asked in the end -/

section
variable {C K S : Type}

def InForce (kind : C → K) (clears : C → K → Prop) (cs : List C) (c : C) : Prop :=
  ∃ before after, cs = before ++ c :: after ∧ ∀ d ∈ after, ¬ clears d (kind c)

variable {kind : C → K} {clears : C → K → Prop} {cs ds : List C} {c d : C}

theorem not_inForce_nil : ¬ InForce kind clears [] c := by
  rintro ⟨before, after, split, -⟩
  exact List.append_ne_nil_of_right_ne_nil before (List.cons_ne_nil c after) split.symm

theorem inForce_concat : InForce kind clears (cs ++ [d]) c ↔
    c = d ∨ InForce kind clears cs c ∧ ¬ clears d (kind c) := by
  constructor
  · rintro ⟨before, after, split, spared⟩
    rcases List.eq_nil_or_concat after with rfl | ⟨init, last, rfl⟩
    · exact .inl (List.singleton_inj.mp (List.append_inj' split rfl).2).symm
    · rw [List.concat_eq_append, ← List.cons_append, ← List.append_assoc] at split
      obtain ⟨rfl, same⟩ := List.append_inj' split rfl
      cases same
      rw [List.concat_eq_append, List.forall_mem_append] at spared
      exact .inr ⟨⟨before, init, rfl, spared.1⟩, spared.2 d (List.mem_singleton.mpr rfl)⟩
  · rintro (rfl | ⟨⟨before, after, rfl, spared⟩, kept⟩)
    · exact ⟨cs, [], rfl, fun _ h => absurd h List.not_mem_nil⟩
    · refine ⟨before, after ++ [d], List.append_assoc before (c :: after) [d], ?_⟩
      rw [List.forall_mem_append]
      exact ⟨spared, fun e he => List.mem_singleton.mp he ▸ kept⟩

section
variable {add : S → C → S} {init : S} {P : S → K → Prop} {holds : C → Prop}
  (nothing : ∀ k, P init k)
  (one : ∀ s c k, P (add s c) k ↔ (kind c = k → holds c) ∧ (¬ clears c k → P s k))
include nothing one

/-- If a criterion asks for itself, and leaves what was asked of the kinds that it does not clear, then what
is asked of a kind in the end is what is in force of it. -/
theorem met_foldl (cs : List C) (k : K) :
    P (cs.foldl add init) k ↔ ∀ c, InForce kind clears cs c → kind c = k → holds c := by
  induction cs using List.reverseRecOn with
  | nil => exact iff_of_true (nothing k) fun c h => absurd h not_inForce_nil
  | append_singleton cs d ih =>
    rw [List.foldl_append, List.foldl_cons, List.foldl_nil, one, ih]
    constructor
    · rintro ⟨last, before⟩ c h same
      rcases inForce_concat.mp h with rfl | ⟨old, kept⟩
      · exact last same
      · exact before (same ▸ kept) c old same
    · intro all
      refine ⟨fun same => all d (inForce_concat.mpr (.inl rfl)) same, fun spared c old same => ?_⟩
      exact all c (inForce_concat.mpr (.inr ⟨old, same ▸ spared⟩)) same

theorem forall_met_foldl (cs : List C) :
    (∀ k, P (cs.foldl add init) k) ↔ ∀ c, InForce kind clears cs c → holds c := by
  constructor
  · intro all c h
    exact (met_foldl nothing one cs (kind c)).mp (all (kind c)) c h rfl
  · intro all k
    exact (met_foldl nothing one cs k).mpr fun c h _ => all c h

end

/-! ## the order -/

section
variable [DecidableEq K] {k : K}

/-- the criteria of one kind, in order -/
def restricted (kind : C → K) (cs : List C) (k : K) : List C := cs.filter fun c => kind c = k

theorem restricted_cons_own : restricted kind (c :: cs) (kind c) = c :: restricted kind cs (kind c) :=
  List.filter_cons_of_pos (decide_eq_true rfl)

theorem restricted_cons_other (other : kind c ≠ k) : restricted kind (c :: cs) k = restricted kind cs k :=
  List.filter_cons_of_neg (by simpa using other)

theorem restricted_append : restricted kind (cs ++ ds) k = restricted kind cs k ++ restricted kind ds k :=
  List.filter_append cs ds

theorem restricted_eq_nil (others : ∀ c ∈ cs, kind c ≠ k) : restricted kind cs k = [] :=
  List.filter_eq_nil_iff.mpr fun c hc => by simpa using others c hc

/-- the first of a kind -/
theorem split_of_restricted {rest : List C} (h : restricted kind ds (kind c) = c :: rest) :
    ∃ before after, ds = before ++ c :: after ∧ (∀ d ∈ before, kind d ≠ kind c) := by
  obtain ⟨before, after, split, others, -, -⟩ := List.filter_eq_cons_iff.mp h
  exact ⟨before, after, split, fun d hd => by simpa using others d hd⟩

variable {add : S → C → S} (comm : ∀ s c d, kind c ≠ kind d → add (add s c) d = add (add s d) c)
include comm

omit [DecidableEq K] in
theorem foldl_move (apart : ∀ d ∈ cs, kind d ≠ kind c) (s : S) :
    (cs ++ c :: ds).foldl add s = (cs ++ ds).foldl add (add s c) := by
  induction cs generalizing s with
  | nil => rfl
  | cons d cs ih =>
    rw [List.forall_mem_cons] at apart
    show (cs ++ c :: ds).foldl add (add s d) = (cs ++ ds).foldl add (add (add s c) d)
    rw [ih apart.2, comm s d c apart.1]

theorem foldl_of_restrictions (agree : ∀ k, restricted kind cs k = restricted kind ds k) (s : S) :
    cs.foldl add s = ds.foldl add s := by
  induction cs generalizing ds s with
  | nil =>
    cases ds with
    | nil => rfl
    | cons d ds => cases (agree (kind d)).trans restricted_cons_own
  | cons c cs ih =>
    -- `c` is the first of its kind on either side, so it may go to the front
    obtain ⟨before, after, rfl, apart⟩ :=
      split_of_restricted ((agree (kind c)).symm.trans restricted_cons_own)
    rw [foldl_move comm apart]
    refine ih (fun k => ?_) (add s c)
    have both := agree k
    rw [restricted_append] at both ⊢
    by_cases same : kind c = k
    · subst same
      rw [restricted_eq_nil apart, restricted_cons_own, restricted_cons_own] at both
      rw [restricted_eq_nil apart]
      exact (List.cons.inj both).2
    · rw [restricted_cons_other same, restricted_cons_other same] at both
      exact both

end

end

/-! ## reports -/

namespace ReportCriterion

inductive Kind where
  | accessToken
  | reporterId
  | reporterTags
  | internalMetrics
  | spanCount
  deriving DecidableEq

def kind : ReportCriterion → Kind
  | .accessToken _ => .accessToken
  | .reporterId _ => .reporterId
  | .reporterTags _ => .reporterTags
  | .internalMetrics _ => .internalMetrics
  | .spanCount _ => .spanCount

/-- a criterion takes the place of the one before it -/
def Clears (c : ReportCriterion) (k : Kind) : Prop := c.kind = k

def Holds : ReportCriterion → Report → Prop
  | .accessToken token, r => ∃ a, r.auth = some a ∧ a.accessToken = token
  | .reporterId id, r => ∃ p, r.reporter = some p ∧ p.reporterId = id
  | .reporterTags tags, r =>
    ∃ p, r.reporter = some p ∧ ∀ e ∈ tags, ∃ tag ∈ p.tags, tag.fits e = true
  | .internalMetrics present, r => r.internalMetrics.isSome = present
  | .spanCount n, r => r.spans.length = n

end ReportCriterion

namespace ReportCriteria

/-- whether what is asked of one kind is met -/
def meetsOf (c : ReportCriteria) (r : Report) : ReportCriterion.Kind → Bool
  | .accessToken => meets c.accessToken fun token => r.auth.any fun a => a.accessToken == token
  | .reporterId => meets c.reporterId fun id => r.reporter.any fun p => p.reporterId == id
  | .reporterTags => meets c.reporterTags fun tags => r.reporter.any fun p => allTagsFit p.tags tags
  | .internalMetrics => meets c.internalMetrics fun present => r.internalMetrics.isSome == present
  | .spanCount => meets c.spanCount fun n => r.spans.length == n

variable {c : ReportCriterion} {k : ReportCriterion.Kind} {r : Report}

theorem isMatch_iff {s : ReportCriteria} : s.isMatch r = true ↔ ∀ k, s.meetsOf r k = true := by
  simp only [isMatch, Bool.and_eq_true]
  constructor
  · rintro ⟨⟨⟨⟨token, id⟩, tags⟩, metrics⟩, count⟩ k
    cases k <;> assumption
  · intro all
    exact ⟨⟨⟨⟨all .accessToken, all .reporterId⟩, all .reporterTags⟩, all .internalMetrics⟩,
      all .spanCount⟩

theorem meetsOf_add_own (s : ReportCriteria) : (s.add c).meetsOf r c.kind = true ↔ c.Holds r := by
  cases c <;>
    simp [add, ReportCriterion.kind, meetsOf, meets, ReportCriterion.Holds, allTagsFit_iff,
      Option.any_eq_true]

theorem meetsOf_add_other (s : ReportCriteria) (other : c.kind ≠ k) :
    (s.add c).meetsOf r k = s.meetsOf r k := by
  cases c <;> cases k <;> first | rfl | exact absurd rfl other

theorem meetsOf_add (s : ReportCriteria) (c : ReportCriterion) (k : ReportCriterion.Kind) :
    (s.add c).meetsOf r k = true ↔ (c.kind = k → c.Holds r) ∧ (¬ c.Clears k → s.meetsOf r k = true) := by
  by_cases own : c.kind = k
  · subst own
    rw [meetsOf_add_own]
    exact ⟨fun h => ⟨fun _ => h, fun other => absurd rfl other⟩, fun h => h.1 rfl⟩
  · rw [meetsOf_add_other s own]
    exact ⟨fun h => ⟨fun same => absurd same own, fun _ => h⟩, fun h => h.2 own⟩

theorem add_comm (s : ReportCriteria) (c d : ReportCriterion) (apart : c.kind ≠ d.kind) :
    (s.add c).add d = (s.add d).add c := by
  cases c <;> cases d <;> first | rfl | exact absurd rfl apart

/-- the criteria in force are what reports are asked for -/
theorem isMatch_ofList (cs : List ReportCriterion) : (ofList cs).isMatch r = true ↔
    ∀ c, InForce ReportCriterion.kind ReportCriterion.Clears cs c → c.Holds r := by
  rw [isMatch_iff]
  exact forall_met_foldl (P := fun s k => meetsOf s r k = true) (fun k => by cases k <;> rfl)
    meetsOf_add cs

end ReportCriteria

/-! ## spans -/

theorem meets_iff {α : Type} {criterion : Option α} {test : α → Bool} :
    meets criterion test = true ↔ ∀ a, criterion = some a → test a = true := by
  rw [meets, Option.all_eq_true]

namespace SpanCriterion

inductive Kind where
  | traceId
  | tags
  deriving DecidableEq

def kind : SpanCriterion → Kind
  | .traceId _ => .traceId
  | .tags _ => .tags
  | .tag _ _ => .tags

/-- a single tag leaves the tags before it in force -/
def Clears : SpanCriterion → Kind → Prop
  | .tag _ _, _ => False
  | c, k => c.kind = k

def Holds : SpanCriterion → Span → Prop
  | .traceId id, s => ∃ x, s.spanContext = some x ∧ x.traceId = id
  | .tags expected, s => ∀ e ∈ expected, ∃ tag ∈ s.tags, tag.fits e = true
  | .tag key value, s => ∃ tag ∈ s.tags, tag.fits (key, value) = true

theorem kind_of_clears {c : SpanCriterion} {k : Kind} (h : c.Clears k) : c.kind = k := by
  cases c with
  | tag key value => exact h.elim
  | traceId id => exact h
  | tags expected => exact h

end SpanCriterion

namespace SpanCriteria

def meetsOf (c : SpanCriteria) (s : Span) : SpanCriterion.Kind → Bool
  | .traceId => meets c.traceId fun id => s.spanContext.any fun x => x.traceId == id
  | .tags => meets c.tags fun tags => allTagsFit s.tags tags

variable {c : SpanCriterion} {k : SpanCriterion.Kind} {x : Span} {operationName : Option String}

theorem isMatch_iff {s : SpanCriteria} : s.isMatch x = true ↔
    (∀ name, s.operationName = some name → x.operationName = name) ∧ ∀ k, s.meetsOf x k = true := by
  simp only [isMatch, Bool.and_eq_true]
  rw [meets_iff, and_assoc]
  simp only [beq_iff_eq]
  refine and_congr_right fun _ => ⟨?_, fun all => ⟨all .traceId, all .tags⟩⟩
  rintro ⟨id, tags⟩ k
  cases k <;> assumption

/-- one more tag is asked for, and those before it still are -/
theorem meetsOf_add_tag (s : SpanCriteria) (key : String) (value : Expected) :
    (s.add (.tag key value)).meetsOf x .tags = true ↔
      (SpanCriterion.tag key value).Holds x ∧ s.meetsOf x .tags = true := by
  have one : allTagsFit x.tags [(key, value)] = true ↔ (SpanCriterion.tag key value).Holds x := by
    rw [allTagsFit_iff, List.forall_mem_singleton]
    exact Iff.rfl
  show allTagsFit x.tags (s.tags.getD [] ++ [(key, value)]) = true ↔ _ ∧ meets s.tags _ = true
  rw [allTagsFit_append, Bool.and_eq_true, one, and_comm]
  cases s.tags <;> exact Iff.rfl

theorem meetsOf_add_own (s : SpanCriteria) (clears : c.Clears c.kind) :
    (s.add c).meetsOf x c.kind = true ↔ c.Holds x := by
  cases c with
  | traceId id =>
    show (x.spanContext.any fun y => y.traceId == id) = true ↔ _
    simp only [Option.any_eq_true, beq_iff_eq]
    exact Iff.rfl
  | tags expected => exact allTagsFit_iff x.tags expected
  | tag key value => exact clears.elim

theorem meetsOf_add_other (s : SpanCriteria) (other : c.kind ≠ k) :
    (s.add c).meetsOf x k = s.meetsOf x k := by
  cases c <;> cases k <;> first | rfl | exact absurd rfl other

theorem meetsOf_add (s : SpanCriteria) (c : SpanCriterion) (k : SpanCriterion.Kind) :
    (s.add c).meetsOf x k = true ↔ (c.kind = k → c.Holds x) ∧ (¬ c.Clears k → s.meetsOf x k = true) := by
  by_cases clears : c.Clears k
  · obtain rfl : c.kind = k := SpanCriterion.kind_of_clears clears
    rw [meetsOf_add_own s clears]
    exact ⟨fun h => ⟨fun _ => h, fun spared => absurd clears spared⟩, fun h => h.1 rfl⟩
  · by_cases own : c.kind = k
    · subst own
      cases c with
      | tag key value =>
        refine (meetsOf_add_tag s key value).trans (and_congr ?_ ?_)
        · exact ⟨fun h _ => h, fun h => h rfl⟩
        · exact ⟨fun h _ => h, fun h => h id⟩
      | traceId id => exact absurd rfl clears
      | tags expected => exact absurd rfl clears
    · rw [meetsOf_add_other s own]
      exact ⟨fun h => ⟨fun same => absurd same own, fun _ => h⟩, fun h => h.2 clears⟩

theorem add_comm (s : SpanCriteria) (c d : SpanCriterion) (apart : c.kind ≠ d.kind) :
    (s.add c).add d = (s.add d).add c := by
  cases c <;> cases d <;> first | rfl | exact absurd rfl apart

theorem operationName_ofList (cs : List SpanCriterion) :
    (ofList operationName cs).operationName = operationName := by
  induction cs using List.reverseRecOn with
  | nil => rfl
  | append_singleton cs c ih =>
    rw [ofList, List.foldl_append]
    refine Eq.trans ?_ ih
    cases c <;> rfl

theorem isMatch_ofList (cs : List SpanCriterion) : (ofList operationName cs).isMatch x = true ↔
    (∀ name, operationName = some name → x.operationName = name) ∧
      ∀ c, InForce SpanCriterion.kind SpanCriterion.Clears cs c → c.Holds x := by
  rw [isMatch_iff, operationName_ofList]
  apply and_congr_right
  intro _
  exact forall_met_foldl (P := fun s k => meetsOf s x k = true) (fun k => by cases k <;> rfl)
    meetsOf_add cs

end SpanCriteria

/-! ## queries -/

namespace Query

variable {α : Type} {p q : Query α}

structure Alike (p q : Query α) : Prop where
  found : p.found = q.found
  count : p.count = q.count
  failure? : ∀ c, p.failure? c = q.failure? c

end Query

/-- what is found, as many as there are -/
def Check.Passes (n : Nat) : Check → Prop
  | .exists => 0 < n
  | .notExists => n = 0
  | .countIs m => n = m
  | .atLeast m => m ≤ n
  | .atMost m => n ≤ m

namespace Query

variable {α : Type} {q : Query α} {P : α → Prop}

structure Selects (q : Query α) (items : List α) (P : α → Prop) : Prop where
  /-- the items that are asked for, in order -/
  found : ∃ test : α → Bool, (∀ a, test a = true ↔ P a) ∧ q.found = items.filter test
  count : q.count = q.found.length
  passes : ∀ c, q.failure? c = none ↔ c.Passes q.found.length

theorem selects (h : ∀ a, q.isMatch a = true ↔ P a) : q.Selects q.items P where
  found := ⟨q.isMatch, h, rfl⟩
  count := q.count_eq_length_found
  passes c := by
    rw [failure?_eq_none_iff, ← count_eq_length_found]
    cases c with
    | «exists» =>
      rw [holds, List.any_eq_true]
      exact List.countP_pos_iff.symm
    | notExists =>
      rw [holds, Bool.not_eq_true', List.any_eq_false]
      exact List.countP_eq_zero.symm
    | countIs n => exact beq_iff_eq
    | atLeast n => exact decide_eq_true_iff
    | atMost n => exact decide_eq_true_iff

end Query

/-- **A query asks for all criteria that are in force**, for those of one kind in the order in which they
were set, and for those of other kinds in any order.  However they are put in order it is answered alike,
messages included; and what it finds is, in order, what the criteria in force hold of, as many as it says,
and a check passes if so many are what it asks for. -/
theorem criteria_in_any_order (s : ReportStore) :
    (∀ cs ds, (∀ k, restricted ReportCriterion.kind cs k = restricted ReportCriterion.kind ds k) →
      ((ReportCriteria.ofList cs).query s).Alike ((ReportCriteria.ofList ds).query s)) ∧
    (∀ operationName cs ds, (∀ k, restricted SpanCriterion.kind cs k = restricted SpanCriterion.kind ds k) →
      ((SpanCriteria.ofList operationName cs).query s).Alike
        ((SpanCriteria.ofList operationName ds).query s)) ∧
    (∀ cs, ((ReportCriteria.ofList cs).query s).Selects s.reports fun r =>
      ∀ c, InForce ReportCriterion.kind ReportCriterion.Clears cs c → c.Holds r) ∧
    ∀ operationName cs, ((SpanCriteria.ofList operationName cs).query s).Selects s.spans fun x =>
      (∀ name, operationName = some name → x.operationName = name) ∧
        ∀ c, InForce SpanCriterion.kind SpanCriterion.Clears cs c → c.Holds x := by
  refine ⟨?_, ?_, ?_, ?_⟩
  · intro cs ds agree
    have same : ReportCriteria.ofList cs = ReportCriteria.ofList ds :=
      foldl_of_restrictions ReportCriteria.add_comm agree .none
    rw [same]
    exact ⟨rfl, rfl, fun _ => rfl⟩
  · intro operationName cs ds agree
    have same : SpanCriteria.ofList operationName cs = SpanCriteria.ofList operationName ds :=
      foldl_of_restrictions SpanCriteria.add_comm agree (.named operationName)
    rw [same]
    exact ⟨rfl, rfl, fun _ => rfl⟩
  · intro cs
    apply Query.selects
    intro r
    exact ReportCriteria.isMatch_ofList cs
  · intro operationName cs
    apply Query.selects
    intro x
    exact SpanCriteria.isMatch_ofList cs

/-- a report with one span, and one without -/
def twoReports : ReportStore :=
  ⟨[⟨none, some ⟨"token"⟩,
      [⟨some ⟨7, 0, ∅⟩, "op", [], none, 0, [⟨"a", some (.int 1)⟩, ⟨"b", some (.bool true)⟩], []⟩], 0, none⟩,
    ⟨none, some ⟨"token"⟩, [], 0, none⟩]⟩

/-- the first criterion is replaced by the last -/
def askedOfReports : List ReportCriterion := [.accessToken "none", .spanCount 1, .accessToken "token"]

/-- the first tag is replaced, and the last added -/
def askedOfSpans : List SpanCriterion :=
  [.tag "c" .null, .tags [("a", .int 1)], .traceId 7, .tag "b" (.bool true)]

theorem criteria_in_any_order_of_two_reports :
    ((ReportCriteria.ofList askedOfReports).query twoReports).Alike
      ((ReportCriteria.ofList [.spanCount 1, .accessToken "none", .accessToken "token"]).query twoReports) ∧
    ((SpanCriteria.ofList (some "op") askedOfSpans).query twoReports).Alike
      ((SpanCriteria.ofList (some "op")
        [.traceId 7, .tag "c" .null, .tags [("a", .int 1)], .tag "b" (.bool true)]).query twoReports) ∧
    ((ReportCriteria.ofList askedOfReports).query twoReports).found = twoReports.reports.take 1 ∧
    ((SpanCriteria.ofList (some "op") askedOfSpans).query twoReports).failure? (.countIs 1) = none := by
  obtain ⟨reports, spans, -, counted⟩ := criteria_in_any_order twoReports
  refine ⟨reports _ _ fun k => ?_, spans _ _ _ fun k => ?_, by decide +kernel, ?_⟩
  · cases k <;> rfl
  · cases k <;> rfl
  · rw [(counted (some "op") askedOfSpans).passes]
    show _ = 1
    decide +kernel

end MockCollector
