import MockCollector.Server.Launch
/-!
# What comes of a plan

* `Setting.last pick calls`   what was set last, of that which `pick` picks out;
* `Plan.apply_setAll`         whatever is read of a plan and only they change is that, or as it was;
* `Plan.setAll_standard`      so a plan is what was set last of each thing, in whatever order;
* `Pipeline.start_isOk_iff`   there is a queue of one report at least, and of no more than there can be;
* `launch_ends_by_capacity`   whatever was set, a launch fails where one cannot listen; elsewhere it panics if
                              the capacity that was asked for last is more than that, and only then.
-/

namespace MockCollector

namespace Setting

variable {α : Type}

def host? : Setting → Option IpAddress
  | .host a => some a
  | _ => none

def port? : Setting → Option UInt16
  | .port n => some n
  | _ => none

def queueCapacity? : Setting → Option UInt64
  | .queueCapacity n => some n
  | _ => none

def throttleDelay? : Setting → Option Duration
  | .throttleDelay d => some d
  | _ => none

def store? : Setting → Option ReportStore
  | .store s => some s
  | _ => none

def last (pick : Setting → Option α) (calls : List Setting) : Option α := (calls.filterMap pick).getLast?

theorem last_cons (pick : Setting → Option α) (c : Setting) (calls : List Setting) :
    last pick (c :: calls) = (last pick calls).or (pick c) := by
  unfold last
  cases picked : pick c with
  | none => rw [List.filterMap_cons_none picked, Option.or_none]
  | some a =>
    rw [List.filterMap_cons_some picked, List.getLast?_cons]
    cases (calls.filterMap pick).getLast? <;> rfl

end Setting

/-! ## plans -/

namespace Plan

variable {α β : Type}

theorem setAll_cons (p : Plan) (c : Setting) (calls : List Setting) :
    p.setAll (c :: calls) = (p.set c).setAll calls := rfl

theorem apply_setAll (read : Plan → β) (pick : Setting → Option α) (make : α → β)
    (set : ∀ p c, read (set p c) = (pick c).elim (read p) make) (p : Plan) (calls : List Setting) :
    read (p.setAll calls) = (Setting.last pick calls).elim (read p) make := by
  induction calls generalizing p with
  | nil => rfl
  | cons c calls ih =>
    rw [setAll_cons, ih, set, Setting.last_cons]
    cases Setting.last pick calls <;> rfl

/-- what was set last of each thing, or what it is if nobody sets it -/
theorem setAll_standard (calls : List Setting) : standard.setAll calls =
    { settings :=
      { host := (Setting.last Setting.host? calls).elim Settings.loopback id
        port := (Setting.last Setting.port? calls).elim 0 id
        queueCapacity := (Setting.last Setting.queueCapacity? calls).elim 5 fun n => max n.toNat 1
        throttleDelay := (Setting.last Setting.throttleDelay? calls).elim (.ofMillis 100) id }
      store? := (Setting.last Setting.store? calls).elim none some } := by
  have host := apply_setAll (fun p => p.settings.host) Setting.host? id
    (fun _ c => by cases c <;> rfl) standard calls
  have port := apply_setAll (fun p => p.settings.port) Setting.port? id
    (fun _ c => by cases c <;> rfl) standard calls
  have capacity := apply_setAll (fun p => p.settings.queueCapacity) Setting.queueCapacity?
    (fun n => max n.toNat 1) (fun _ c => by cases c <;> rfl) standard calls
  have delay := apply_setAll (fun p => p.settings.throttleDelay) Setting.throttleDelay? id
    (fun _ c => by cases c <;> rfl) standard calls
  have store := apply_setAll (fun p => p.store?) Setting.store? some
    (fun _ c => by cases c <;> rfl) standard calls
  generalize standard.setAll calls = plan at *
  obtain ⟨⟨_, _, _, _⟩, _⟩ := plan
  cases host
  cases port
  cases capacity
  cases delay
  cases store
  rfl

end Plan

/-! ## launches -/

theorem Pipeline.start_isOk_iff {capacity : Nat} {store : ReportStore} :
    (∃ p, start capacity store = .ok p) ↔ 0 < capacity ∧ capacity ≤ maxCapacity := by
  unfold start
  split
  case isTrue zero => simp [zero]
  case isFalse some =>
    split
    case isTrue more => simp [Nat.not_le.mpr more]
    case isFalse fits => simp [Nat.pos_of_ne_zero some, Nat.le_of_not_lt fits]

namespace Plan

variable {p : Plan} {refusal? : SocketAddress → Option String}

theorem launch_of_refusal {cause : String} (refused : refusal? p.address = some cause) :
    p.launch refusal? = .failed (.bind p.address cause) := by
  rw [launch, refused]

theorem launch_of_capacity (listens : refusal? p.address = none) (some : 0 < p.settings.queueCapacity)
    (fits : p.settings.queueCapacity ≤ Pipeline.maxCapacity) :
    ∃ s, p.launch refusal? = .up s ∧ s.settings = p.settings ∧ s.store = p.store := by
  rw [launch, listens, Server.start, Pipeline.start, if_neg (Nat.ne_of_gt some),
    if_neg (Nat.not_lt.mpr fits)]
  exact ⟨_, rfl, rfl, rfl⟩

theorem launch_of_tooLarge (listens : refusal? p.address = none)
    (more : Pipeline.maxCapacity < p.settings.queueCapacity) :
    p.launch refusal? = .panicked .tooLarge := by
  have some : p.settings.queueCapacity ≠ 0 := Nat.ne_of_gt (Nat.zero_lt_of_lt more)
  rw [launch, listens, Server.start, Pipeline.start, if_neg some, if_pos more]
  rfl

end Plan

/-- **What comes of a launch, whatever was set and in whatever order.**  The queue is to have the capacity
that was asked for last, or one if that was zero; and that there is one depends on the upper end alone.
Where one cannot listen the launch fails, where one can it panics beyond that end, and is up before it. -/
theorem launch_ends_by_capacity (refusal? : SocketAddress → Option String) (calls : List Setting) :
    let plan := Plan.standard.setAll calls
    let capacity := (Setting.last Setting.queueCapacity? calls).elim 5 fun n => max n.toNat 1
    plan.settings.queueCapacity = capacity ∧
    (∀ store, (∃ p, Pipeline.start capacity store = .ok p) ↔ capacity ≤ Pipeline.maxCapacity) ∧
    (∀ e, plan.launch refusal? = .failed e ↔
      ∃ cause, refusal? plan.address = some cause ∧ e = .bind plan.address cause) ∧
    (∀ e, plan.launch refusal? = .panicked e ↔
      refusal? plan.address = none ∧ Pipeline.maxCapacity < capacity ∧ e = .tooLarge) ∧
    ((∃ s, plan.launch refusal? = .up s ∧ s.settings = plan.settings ∧ s.store = plan.store) ↔
      refusal? plan.address = none ∧ capacity ≤ Pipeline.maxCapacity) := by
  intro plan capacity
  have handed : plan.settings.queueCapacity = capacity :=
    congrArg (·.settings.queueCapacity) (Plan.setAll_standard calls)
  have some : 0 < capacity := by
    show 0 < (Setting.last Setting.queueCapacity? calls).elim 5 fun n => max n.toNat 1
    cases Setting.last Setting.queueCapacity? calls with
    | none => decide
    | some n => exact Nat.le_max_right n.toNat 1
  refine ⟨handed, fun store => Pipeline.start_isOk_iff.trans (and_iff_right some), ?_⟩
  cases refused : refusal? plan.address with
  | some cause =>
    rw [Plan.launch_of_refusal refused]
    simp [eq_comm]
  | none =>
    by_cases fits : capacity ≤ Pipeline.maxCapacity
    · obtain ⟨s, up, settings, store⟩ := Plan.launch_of_capacity refused (handed ▸ some) (handed ▸ fits)
      rw [up]
      simp [settings, store, fits]
    · rw [Plan.launch_of_tooLarge refused (handed ▸ Nat.lt_of_not_le fits)]
      simp [fits, Nat.lt_of_not_le fits, eq_comm]

theorem launch_panics_with_a_large_capacity :
    let plan := Plan.standard.setAll [.queueCapacity 0, .queueCapacity 2305843009213693952, .port 80]
    plan.settings.queueCapacity = 2305843009213693952 ∧
      Pipeline.start plan.settings.queueCapacity .empty = .error .tooLarge ∧
      plan.launch (fun _ => none) = .panicked .tooLarge :=
  ⟨rfl, rfl, rfl⟩

end MockCollector
