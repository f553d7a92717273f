import MockCollector.Fault
import MockCollector.Pipeline.Basic
import MockCollector.Proofs.Run
/-!
# What becomes of the faults that are armed

* `Faults.Event`            what touches the faults: one is armed or taken off, reports come and are answered;
* `Faults.after? e`         the faults after `e`, or `none` where it did not find them so;
* `Event.arms k`, `Event.spends k`   whether `k` is armed by it that was not, or is armed no more;
* `Faults.answersTo id`      the answers to one report;
* `Faults.balance`          over every history, what was armed was spent, but for what is armed still;
* `Faults.armed_between`    so `k` cannot be spent twice without being armed in between.
-/

namespace MockCollector.Faults

inductive Event where
  | armed (k : OneShot) (already : Bool)
  | consumed (k : OneShot) (found : Bool)
  | throttled (on : Bool)
  /-- a report comes, as a task -/
  | came (id : TaskId)
  /-- a report is answered, and meets a fault if any is armed -/
  | answered (id : TaskId) (met : Option OneShot)
  deriving DecidableEq

/-- what is left when an answer has met the first fault -/
def spent (f : Faults) : Faults :=
  match f.first? with
  | Option.none => f
  | some k => (f.consume k).2

def after? (f : Faults) : Event → Option Faults
  | .armed k already => if f.isArmed k = already then some (f.arm k) else Option.none
  | .consumed k found => if f.isArmed k = found then some (f.consume k).2 else Option.none
  | .throttled on => some (f.setThrottle on)
  | .came _ => some f
  | .answered _ met => if f.first? = met then some f.spent else Option.none

def Event.arms (k : OneShot) (e : Event) : Bool := e == .armed k false

def Event.spends (k : OneShot) : Event → Bool
  | .consumed j found => found && j == k
  | .answered _ met => met == some k
  | _ => false

/-- which faults the answers to one report have met -/
def answersTo (id : TaskId) (log : List Event) : List (Option OneShot) :=
  log.filterMap fun
    | .answered i met => if i = id then some met else Option.none
    | _ => Option.none

theorem answersTo_append (id : TaskId) (xs ys : List Event) :
    answersTo id (xs ++ ys) = answersTo id xs ++ answersTo id ys := List.filterMap_append

theorem mem_answersTo {id : TaskId} {met : Option OneShot} {log : List Event} :
    met ∈ answersTo id log ↔ .answered id met ∈ log := by
  rw [answersTo, List.mem_filterMap]
  constructor
  · rintro ⟨e, he, same⟩
    cases e with
    | answered i m =>
      obtain ⟨rfl, this⟩ := Option.ite_none_right_eq_some.mp same
      obtain rfl := Option.some.inj this
      exact he
    | _ => cases same
  · intro h
    exact ⟨_, h, if_pos rfl⟩

variable {f g : Faults} {k : OneShot} {e : Event} {log : List Event}

/-! ## one event -/

theorem first?_eq (f : Faults) : f.first? =
    if f.prematureClose then some .prematureClose
    else if f.timeout then some .timeout
    else if f.error then some .error
    else Option.none := by
  obtain ⟨error, timeout, throttle, prematureClose⟩ := f
  cases prematureClose <;> cases timeout <;> cases error <;> rfl

theorem isArmed_of_first? (h : f.first? = some k) : f.isArmed k = true :=
  List.find?_some (p := f.isArmed) h

/-- an answer takes off the first fault and leaves the others -/
theorem isArmed_spent (f : Faults) (k : OneShot) :
    f.spent.isArmed k = (f.isArmed k && f.first? != some k) := by
  unfold spent
  cases hf : f.first? with
  | none => exact (Bool.and_true _).symm
  | some j =>
    show (f.set false j).isArmed k = _
    rw [isArmed_set]
    by_cases same : k = j
    · rw [if_pos same, same, bne_self_eq_false, Bool.and_false]
    · have other : (some j != some k) = true := bne_iff_ne.mpr fun h => same (Option.some.inj h).symm
      rw [if_neg same, other, Bool.and_true]

theorem throttle_spent (f : Faults) : f.spent.throttle = f.throttle := by
  unfold spent
  split
  · rfl
  · rename_i k _
    cases k <;> rfl

/-- an event arms a fault, spends it or leaves it -/
theorem balance_one (k : OneShot) (h : f.after? e = some g) :
    (e.arms k).toNat + (f.isArmed k).toNat = (e.spends k).toNat + (g.isArmed k).toNat := by
  cases e with
  | armed j already =>
    obtain ⟨rfl, same⟩ := Option.ite_none_right_eq_some.mp h
    cases same
    show (Event.arms k _).toNat + _ = 0 + ((f.set true j).isArmed k).toNat
    rw [isArmed_set]
    by_cases same : k = j
    · subst same
      rw [if_pos rfl, Event.arms]
      cases f.isArmed k <;> simp
    · have other : Event.arms k (.armed j (f.isArmed j)) = false :=
        beq_eq_false_iff_ne.mpr fun h => same (Event.armed.inj h).1.symm
      rw [if_neg same, other, Bool.toNat_false]
  | consumed j found =>
    obtain ⟨rfl, same⟩ := Option.ite_none_right_eq_some.mp h
    cases same
    show 0 + _ = (f.isArmed j && j == k).toNat + ((f.set false j).isArmed k).toNat
    rw [isArmed_set]
    by_cases same : k = j
    · subst same
      rw [if_pos rfl, beq_self_eq_true, Bool.and_true, Bool.toNat_false, Nat.zero_add, Nat.add_zero]
    · have other : (j == k) = false := beq_eq_false_iff_ne.mpr fun h => same h.symm
      rw [if_neg same, other, Bool.and_false, Bool.toNat_false]
  | throttled on =>
    cases h
    cases k <;> rfl
  | came id =>
    cases h
    rfl
  | answered id met =>
    obtain ⟨rfl, same⟩ := Option.ite_none_right_eq_some.mp h
    cases same
    show 0 + _ = (f.first? == some k).toNat + _
    rw [isArmed_spent]
    by_cases first : f.first? = some k
    · rw [first, isArmed_of_first? first, beq_self_eq_true, bne_self_eq_false]
      rfl
    · rw [beq_eq_false_iff_ne.mpr first, bne_iff_ne.mpr first, Bool.and_true, Bool.toNat_false]

/-! ## histories -/

/-- **Every fault that is armed is spent once**, or it is armed still. -/
theorem balance (k : OneShot) (h : run after? log f = some g) :
    log.countP (Event.arms k) + (f.isArmed k).toNat
      = log.countP (Event.spends k) + (g.isArmed k).toNat := by
  have counts (p : Event → Bool) (e : Event) (log : List Event) :
      (e :: log).countP p = (p e).toNat + log.countP p := by
    rw [List.countP_cons, Nat.add_comm]
    cases p e <;> rfl
  induction log generalizing f with
  | nil =>
    cases h
    rfl
  | cons e log ih =>
    obtain ⟨between, first, rest⟩ := Option.bind_eq_some_iff.mp h
    have one := balance_one k first
    have others := ih rest
    rw [counts, counts]
    omega

theorem isArmed_of_spends (h : f.after? e = some g) (spends : e.spends k = true) :
    f.isArmed k = true ∧ g.isArmed k = false := by
  have one := balance_one k h
  rw [spends, Bool.toNat_true] at one
  have none : e.arms k = false := by
    cases e with
    | armed j already => cases spends
    | _ => rfl
  rw [none, Bool.toNat_false] at one
  cases hf : f.isArmed k with
  | false =>
    rw [hf, Bool.toNat_false] at one
    omega
  | true =>
    rw [hf, Bool.toNat_true] at one
    cases hg : g.isArmed k with
    | false => exact ⟨rfl, rfl⟩
    | true =>
      rw [hg, Bool.toNat_true] at one
      omega

theorem armed_between {xs ys zs : List Event} {a b : Event}
    (h : run after? (xs ++ a :: (ys ++ b :: zs)) f = some g) (first : a.spends k = true)
    (second : b.spends k = true) : .armed k false ∈ ys := by
  rw [run_append] at h
  obtain ⟨before, -, h⟩ := Option.bind_eq_some_iff.mp h
  obtain ⟨off, ha, h⟩ := Option.bind_eq_some_iff.mp h
  rw [run_append] at h
  obtain ⟨on, between, h⟩ := Option.bind_eq_some_iff.mp h
  obtain ⟨after, hb, -⟩ := Option.bind_eq_some_iff.mp h
  -- `k` was off after the first and on before the second
  have counts := balance k between
  rw [(isArmed_of_spends ha first).2, (isArmed_of_spends hb second).1, Bool.toNat_false,
    Bool.toNat_true] at counts
  have some : 0 < ys.countP (Event.arms k) := by omega
  obtain ⟨e, he, arms⟩ := List.countP_pos_iff.mp some
  exact beq_iff_eq.mp arms ▸ he

end MockCollector.Faults
