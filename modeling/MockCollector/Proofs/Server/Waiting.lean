import Mathlib.Algebra.Order.Floor.Div
import Mathlib.Data.Nat.Find
import MockCollector.Proofs.Store.Growth
import MockCollector.Server.Basic
/-!
# How a wait ends

* `Wait.GoesOn w p`           after the look `p` there is more to wait for, and time to do so;
* `Wait.Ends w p r`           `p` ends the wait with `r`: there is enough, or it is late;
* `Wait.EndsAt w look i r`    look `i` is the first to end it;
* `Wait.EndsAt.runFrom_eq`    so looks up to `i` are taken, and no more, however many there could be;
* `Wait.Spaced look`          a look comes an interval after the one before, at least;
* `Wait.Spaced.exists_endsAt` so there is a first to end it, and it comes soon;
* `Wait.lookAt`               what is found in a store, with the times of the looks and all that the store
                              will ever be;
* `wait_ends_exactly`         all of this for a store that grows, where what is there in time is found;
* `Server.awaitStored_eq`     and for one that stays as it is.
-/

namespace MockCollector

namespace Wait

variable {w : Wait} {p : Look} {look : Nat → Look} {i k : Nat} {r : Except CollectorError Unit}

/-! ## one look -/

structure GoesOn (w : Wait) (p : Look) : Prop where
  short : p.found < w.expected
  early : p.time < w.timeout.nanos

inductive Ends (w : Wait) (p : Look) : Except CollectorError Unit → Prop
  | enough (found : w.expected ≤ p.found) : Ends w p (.ok ())
  | late (short : p.found < w.expected) (late : w.timeout.nanos ≤ p.time) :
    Ends w p (.error (.waitTimeout w.what.text w.expected p.found w.timeout))

theorem judge_eq_none_iff : w.judge p = none ↔ w.GoesOn p := by
  rw [judge, ite_eq_iff, ite_eq_iff]
  simp only [reduceCtorEq, and_false, and_true, false_or, Nat.not_le]
  exact ⟨fun ⟨short, early⟩ => ⟨short, early⟩, fun ⟨short, early⟩ => ⟨short, early⟩⟩

theorem judge_eq_some_iff : w.judge p = some r ↔ w.Ends p r := by
  constructor
  · intro h
    rw [judge] at h
    split at h
    case isTrue enough =>
      cases h
      exact .enough enough
    case isFalse short =>
      rw [Option.ite_none_right_eq_some] at h
      obtain ⟨late, ⟨⟩⟩ := h
      exact .late (Nat.lt_of_not_le short) late
  · rintro (enough | ⟨short, late⟩)
    · exact if_pos enough
    · rw [judge, if_neg (Nat.not_le.mpr short), if_pos late]

/-! ## one look after the other -/

structure EndsAt (w : Wait) (look : Nat → Look) (i : Nat) (r : Except CollectorError Unit) : Prop where
  before : ∀ j < i, w.GoesOn (look j)
  now : w.Ends (look i) r

theorem runFrom_of_goesOn (goesOn : ∀ j < i, w.GoesOn (look (k + j))) (fuel : Nat) :
    w.runFrom look (i + fuel) k = w.runFrom look fuel (k + i) := by
  induction i generalizing k with
  | zero => rw [Nat.zero_add, Nat.add_zero]
  | succ i ih =>
    have here := judge_eq_none_iff.mpr (goesOn 0 (Nat.succ_pos i))
    have later : ∀ j < i, w.GoesOn (look (k + 1 + j)) := by
      intro j hj
      rw [Nat.add_right_comm]
      exact goesOn (j + 1) (Nat.succ_lt_succ hj)
    rw [Nat.add_zero] at here
    rw [Nat.add_right_comm, runFrom, here]
    exact (ih later).trans (by rw [Nat.add_right_comm, Nat.add_assoc])

theorem EndsAt.runFrom_eq (h : w.EndsAt look i r) (fuel : Nat) :
    w.runFrom look fuel 0 = if i < fuel then some r else none := by
  have goesOn : ∀ j < i, w.GoesOn (look (0 + j)) := fun j hj => by
    rw [Nat.zero_add]
    exact h.before j hj
  by_cases enough : i < fuel
  · obtain ⟨more, rfl⟩ := Nat.exists_eq_add_of_lt enough
    rw [Nat.add_assoc, runFrom_of_goesOn goesOn, Nat.zero_add, runFrom, judge_eq_some_iff.mpr h.now,
      if_pos (by omega)]
  · have none := runFrom_of_goesOn (fun j (hj : j < fuel) => goesOn j (by omega)) 0
    rw [if_neg enough]
    exact none

/-! ## looks in time -/

def Spaced (look : Nat → Look) : Prop := ∀ i, (look i).time + interval.nanos ≤ (look (i + 1)).time

theorem Spaced.mul_le_time (h : Spaced look) (i : Nat) : i * interval.nanos ≤ (look i).time := by
  induction i with
  | zero => rw [Nat.zero_mul]; exact Nat.zero_le _
  | succ i ih =>
    rw [Nat.succ_mul]
    exact (Nat.add_le_add_right ih _).trans (h i)

theorem looks_eq (w : Wait) : w.looks = w.timeout.nanos ⌈/⌉ interval.nanos + 1 := by
  rw [looks, Nat.ceilDiv_eq_add_pred_div]

theorem Spaced.exists_endsAt (h : Spaced look) (w : Wait) : ∃ i r, w.EndsAt look i r ∧ i < w.looks := by
  -- at the last of these looks the time is up, if none before it ends the wait
  have late : ¬ w.GoesOn (look (w.timeout.nanos ⌈/⌉ interval.nanos)) := by
    intro goesOn
    have time := (le_smul_ceilDiv (b := w.timeout.nanos) (a := interval.nanos) (by decide)).trans
      ((Nat.mul_comm _ _).le.trans (h.mul_le_time _))
    exact absurd goesOn.early (Nat.not_lt.mpr time)
  classical
  have some : ∃ i, ¬ w.GoesOn (look i) := ⟨_, late⟩
  obtain ⟨r, ends⟩ := Option.ne_none_iff_exists'.mp (judge_eq_none_iff.not.mpr (Nat.find_spec some))
  refine ⟨Nat.find some, r, ⟨fun j hj => not_not.mp (Nat.find_min some hj), judge_eq_some_iff.mp ends⟩, ?_⟩
  rw [looks_eq]
  exact Nat.lt_succ_of_le (Nat.find_min' some late)

/-! ## looks at a store -/

/-- look `i` at a store, which comes at the time `clock i` -/
def lookAt (history : Nat → ReportStore) (clock : Nat → Nat) (what : Awaited) (i : Nat) : Look :=
  ⟨clock i, Server.amount (history (clock i)) what⟩

end Wait

theorem Server.amount_le_of_isPrefix {s t : ReportStore} (grows : s.reports <+: t.reports)
    (what : Awaited) : amount s what ≤ amount t what := by
  cases what with
  | reports => exact grows.length_le
  | spans =>
    rw [amount, amount, s.spanCount_eq, t.spanCount_eq]
    exact (ReportStore.spans_isPrefix grows).length_le

/-- **A wait ends.**  In a store that only grows, the first look that finds enough ends it well, and the first
that does not although the time is up ends it with what it found; there are no looks after that, and at most
one for each interval that begins in time, and one more.  What is there when the time is up, or was before, is
found. -/
theorem wait_ends_exactly (w : Wait) (history : Nat → ReportStore) (clock : Nat → Nat)
    (grows : ∀ s t, s ≤ t → (history s).reports <+: (history t).reports)
    (apart : ∀ i, clock i + Wait.interval.nanos ≤ clock (i + 1)) :
    ∃ i result, w.EndsAt (Wait.lookAt history clock w.what) i result ∧
      i + 1 ≤ w.timeout.nanos ⌈/⌉ Wait.interval.nanos + 1 ∧
      w.run (Wait.lookAt history clock w.what) = some result ∧
      (∀ fuel, w.runFrom (Wait.lookAt history clock w.what) fuel 0 =
        if i < fuel then some result else none) ∧
      ∀ t ≤ w.timeout.nanos, w.expected ≤ Server.amount (history t) w.what → result = .ok () := by
  have spaced : Wait.Spaced (Wait.lookAt history clock w.what) := apart
  obtain ⟨i, result, ends, soon⟩ := spaced.exists_endsAt w
  refine ⟨i, result, ends, w.looks_eq ▸ soon, ?_, ends.runFrom_eq, ?_⟩
  · rw [Wait.run, ends.runFrom_eq, if_pos soon]
  · intro t inTime enough
    cases ends.now with
    | enough => rfl
    | late short late =>
      -- what was there in time is there at a look that comes when the time is up
      have more := Server.amount_le_of_isPrefix (grows t (clock i) (inTime.trans late)) w.what
      exact absurd short (Nat.not_lt.mpr (enough.trans more))

/-- a store to which a report with one span comes after 15 ms, and no other -/
def oneReport (time : Nat) : ReportStore :=
  if time < 15_000_000 then .empty else ⟨[⟨none, none, [Span.layout.empty], 0, none⟩]⟩

theorem wait_ends_exactly_with_one_report :
    (∀ s t, s ≤ t → (oneReport s).reports <+: (oneReport t).reports) ∧
      (∀ i, i * 10_000_000 + Wait.interval.nanos ≤ (i + 1) * 10_000_000) ∧
      -- it comes between two looks, when the time is up
      (⟨.reports, 1, .ofMillis 15⟩ : Wait).run (Wait.lookAt oneReport (· * 10_000_000) .reports) =
        some (.ok ()) ∧
      (⟨.spans, 2, .ofMillis 15⟩ : Wait).run (Wait.lookAt oneReport (· * 10_000_000) .spans) =
        some (.error (.waitTimeout "spans" 2 1 (.ofMillis 15))) := by
  have grows : ∀ s t, s ≤ t → (oneReport s).reports <+: (oneReport t).reports := by
    intro s t le
    unfold oneReport
    split
    · exact List.nil_prefix
    · rw [if_neg (by omega)]
  have apart : ∀ i, i * 10_000_000 + Wait.interval.nanos ≤ (i + 1) * 10_000_000 := fun i =>
    (Nat.succ_mul _ _).ge
  refine ⟨grows, apart, ?_, ?_⟩
  · obtain ⟨i, result, -, -, run, -, found⟩ :=
      wait_ends_exactly ⟨.reports, 1, .ofMillis 15⟩ oneReport (· * 10_000_000) grows apart
    rw [run, found 15_000_000 (by decide) (by decide)]
  · obtain ⟨i, result, ends, -, run, -, -⟩ :=
      wait_ends_exactly ⟨.spans, 2, .ofMillis 15⟩ oneReport (· * 10_000_000) grows apart
    rw [run]
    cases ends.now with
    | enough found =>
      have one : (oneReport (i * 10_000_000)).spanCount ≤ 1 := by
        unfold oneReport
        split <;> decide
      exact absurd (found.trans one) (by decide)
    | late short late =>
      have one : oneReport (i * 10_000_000) = oneReport 15_000_000 := if_neg (Nat.not_lt.mpr late)
      rw [Wait.lookAt, one]
      rfl

namespace Server

/-- the result of a wait is that of its first look, but if there is too little the time passes -/
theorem awaitStored_eq (w : Wait) (s : Server) :
    s.awaitStored w = if w.expected ≤ amount s.store w.what then .ok ()
      else .error (.waitTimeout w.what.text w.expected (amount s.store w.what) w.timeout) := by
  have spaced : Wait.Spaced fun i => ⟨i * Wait.interval.nanos, amount s.store w.what⟩ := fun i =>
    (Nat.succ_mul _ _).ge
  obtain ⟨i, result, ends, soon⟩ := spaced.exists_endsAt w
  rw [awaitStored, Wait.run, ends.runFrom_eq, if_pos soon, Option.getD_some]
  cases ends.now with
  | enough found => exact (if_pos found).symm
  | late short => exact (if_neg (Nat.not_le.mpr short)).symm

end Server

end MockCollector
