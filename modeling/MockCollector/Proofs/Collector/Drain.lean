import MockCollector.Proofs.Collector.Outcomes
/-!
# The drain

* `Stage.Drains`           the stages of a wait for the drain: it lasts, or it is over and has its count;
* `Course.Drained`         nobody can send, nothing is on the way, and all that came in was stored;
* `Accounts.drained`       so it is once the consumer has ended, and the store stays as it is
                           (`Course.stays_drained`);
* `Course.Awaits`          somebody waits for the drain, or has been told;
* `Sound.drained_at_rest`  the consumer has ended when nothing can happen, nobody can send and the store is
                           free;
* `drain_told_once_all_is_stored`   whoever waits for the drain is told then, and no earlier.
-/

namespace MockCollector

inductive Stage.Drains : Stage → Prop where
  | waiting : Drains (.underway .draining)
  | told (n : Nat) : Drains (.ended (.drained n))

theorem Stage.Drains.leads {p : Progress} {rs : List Report} {s : Stage}
    (h : (Stage.underway p).Drains) (leads : p.Leads rs s) : s.Drains := by
  cases h
  cases leads
  exact .told _

namespace Collector

variable {c d : Collector}

/-- a wait for the drain goes on until it is told -/
theorem Sound.drains {e : Happening} {id : TaskId} {s : Stage} (h : c.Sound)
    (hd : c.happen? e = some d) (hs : c.At id s) (drains : s.Drains) :
    ∃ s', d.At id s' ∧ s'.Drains := by
  rcases h.stays_or_leads hd hs with ⟨still, -⟩ | ⟨p, rs, s', rfl, leads, reached, -⟩
  · exact ⟨s, still, drains⟩
  · exact ⟨s', reached, drains.leads leads⟩

theorem Sound.stays_ended {e : Happening} {id : TaskId} {o : Outcome} (h : c.Sound)
    (hd : c.happen? e = some d) (ended : c.At id (.ended o)) : d.At id (.ended o) := by
  rcases h.stays_or_leads hd ended with ⟨still, -⟩ | ⟨p, rs, s, underway, -⟩
  · exact still
  · cases underway

theorem Sound.drained_at_rest (h : c.Sound) (still : c.move? = none)
    (none : c.pipeline.senders = 0) (free : c.pipeline.locked = false) :
    c.pipeline.drained? = some (.ok c.pipeline.stored) := by
  obtain ⟨-, noStore, noRead, noTake, noFinish⟩ := move?_eq_none_iff.mp still
  obtain ⟨-, holding, queue, -⟩ := h.coupled.at_rest free noStore noRead noTake
  refine Pipeline.drained?_eq_ok.mpr ⟨?_, rfl⟩
  cases hc : c.pipeline.consumer with
  | idle =>
    rw [Pipeline.finish?, hc, queue, none] at noFinish
    cases noFinish
  | holding r =>
    rw [Pipeline.holding, hc] at holding
    cases holding
  | finished => rfl
  | killed => exact absurd hc h.coupled.alive

/-- nobody waits for the drain any more once the consumer has ended and nothing can happen -/
theorem told_of_drained {t : Task} {n : Nat} (still : c.move? = none)
    (drained : c.pipeline.drained? = some (.ok n)) (ht : t ∈ c.tasks) : t.progress ≠ .draining := by
  intro waits
  have none := (move?_eq_none still).1 t ht
  rw [taskStep?, waits] at none
  simp only [drained, Option.map_some, reduceCtorEq] at none

end Collector

namespace Course

/-- the pipeline has drained, and `n` reports came in -/
structure Drained (initial : ReportStore) (n : Nat) (k : Course) : Prop where
  signal : k.collector.pipeline.drained? = some (.ok n)
  senders : k.collector.pipeline.senders = 0
  idle : ∀ t ∈ k.collector.tasks, t.progress = .draining
  waiting : k.collector.pipeline.waiting = []
  all : k.collector.store.reports = initial.reports ++ k.handed.map Prod.snd
  count : n = k.handed.length

variable {initial : ReportStore} {k l : Course} {n : Nat}

theorem Accounts.drained (h : k.Accounts initial)
    (signal : k.collector.pipeline.drained? = some (.ok n)) : k.Drained initial n := by
  have sound := h.course.collector
  obtain ⟨senders, queue, holding, waiting⟩ := sound.coupled.of_drained signal
  have all := h.handed_eq.1
  rw [h.stored_of_drained queue holding] at all
  obtain ⟨new, reports, count⟩ := h.stored
  rw [all] at reports
  refine ⟨signal, senders, fun t ht => ?_, waiting, all, ?_⟩
  · by_contra sends
    have some := sound.senders_pos ht sends
    omega
  · rw [← (Pipeline.drained?_eq_ok.mp signal).2, count, ← List.append_cancel_left reports,
      List.length_map]

/-- after the drain nothing is stored any more -/
theorem stays_drained {es : List Happening} (signal : k.collector.pipeline.drained? = some (.ok n))
    (ran : run es k = some l) : l.collector.pipeline.drained? = some (.ok n) ∧
      l.collector.store = k.collector.store := by
  refine run_keeps (P := fun l => l.collector.pipeline.drained? = some (.ok n) ∧
    l.collector.store = k.collector.store) ?_ ⟨signal, rfl⟩ ran
  rintro e l m ⟨drained, store⟩ hm
  obtain ⟨d, hd, rfl⟩ := Option.map_eq_some_iff.mp hm
  have rests := Collector.rests_of_finished (Pipeline.drained?_eq_ok.mp drained).1 hd
  exact ⟨rests.drained?.trans drained, rests.store.trans store⟩

/-! ## whoever waits for it -/

variable {id : TaskId} {e : Happening} {es : List Happening}

/-- how a task has ended does not change -/
theorem Sound.stays_ended {o : Outcome} (h : k.Sound) (ended : k.collector.At id (.ended o))
    (ran : Course.run es k = some l) : l.collector.At id (.ended o) := by
  refine (run_keeps (P := fun l => l.Sound ∧ l.collector.At id (.ended o)) ?_ ⟨h, ended⟩ ran).2
  rintro e l m ⟨h, ended⟩ hm
  refine ⟨h.step? hm, ?_⟩
  obtain ⟨d, hd, rfl⟩ := Option.map_eq_some_iff.mp hm
  exact h.collector.stays_ended hd ended

structure Honest (initial : ReportStore) (k : Course) : Prop where
  accounts : k.Accounts initial
  honest : k.collector.Honest

structure Awaits (initial : ReportStore) (k : Course) (id : TaskId) : Prop extends Honest initial k where
  stage : ∃ s, k.collector.At id s ∧ s.Drains

theorem honest_opened {capacity : Nat} {p : Pipeline} (throttleDelay : Nat)
    (started : Pipeline.start capacity initial = .ok p) : (opened p throttleDelay).Honest initial where
  accounts := accounts_opened throttleDelay started
  honest _ h := absurd h List.not_mem_nil

theorem Honest.step? (h : k.Honest initial) (hl : k.step? e = some l) : l.Honest initial := by
  have accounts := h.accounts.step? hl
  obtain ⟨d, hd, rfl⟩ := Option.map_eq_some_iff.mp hl
  exact ⟨accounts, h.accounts.course.collector.honest h.honest hd⟩

theorem Honest.run (h : k.Honest initial) (ran : run es k = some l) : l.Honest initial :=
  run_keeps (P := Honest initial) (fun _ _ _ h hl => h.step? hl) h ran

theorem Honest.awaits (h : k.Honest initial) (hl : k.step? .awaitDrain = some l) :
    l.Awaits initial k.collector.nextId := by
  refine ⟨h.step? hl, .underway .draining, ?_, .waiting⟩
  cases hl
  exact ⟨_, List.mem_append_right _ (List.mem_singleton.mpr rfl), rfl, rfl⟩

namespace Awaits

theorem step? (h : k.Awaits initial id) (hl : k.step? e = some l) : l.Awaits initial id := by
  refine ⟨h.toHonest.step? hl, ?_⟩
  obtain ⟨d, hd, rfl⟩ := Option.map_eq_some_iff.mp hl
  obtain ⟨s, hs, drains⟩ := h.stage
  exact h.accounts.course.collector.drains hd hs drains

theorem run (h : k.Awaits initial id) (ran : run es k = some l) : l.Awaits initial id :=
  run_keeps (P := fun k => k.Awaits initial id) (fun _ _ _ h hl => h.step? hl) h ran

theorem waits_or_told (h : k.Awaits initial id) :
    k.collector.At id (.underway .draining) ∨ ∃ n, k.collector.At id (.ended (.drained n)) := by
  obtain ⟨s, hs, drains⟩ := h.stage
  cases drains with
  | waiting => exact Or.inl hs
  | told n => exact Or.inr ⟨n, hs⟩

theorem signal (h : k.Awaits initial id) (told : k.collector.At id (.ended (.drained n))) :
    k.collector.pipeline.drained? = some (.ok n) := by
  obtain ⟨x, hx, -, outcome⟩ := told
  have allowed := h.honest x hx
  rw [outcome] at allowed
  exact allowed

/-- whoever has been told is told the same ever after -/
theorem stays_told (h : k.Awaits initial id) (told : k.collector.At id (.ended (.drained n)))
    (ran : Course.run es k = some l) : l.collector.At id (.ended (.drained n)) :=
  h.accounts.course.stays_ended told ran

theorem told_at_rest (h : k.Awaits initial id) (still : k.collector.move? = none)
    (none : k.collector.pipeline.senders = 0) (free : k.collector.pipeline.locked = false) :
    ∃ n, k.collector.At id (.ended (.drained n)) := by
  refine h.waits_or_told.resolve_left ?_
  rintro ⟨t, ht, -, waits⟩
  have drained := h.accounts.course.collector.drained_at_rest still none free
  exact Collector.told_of_drained still drained ht waits

end Awaits

end Course

/-- **The drain is told once all is stored, and no earlier.**  Whoever waits for it waits on, or has been
told a number; then nobody can send any more, no send is under way, all that was handed over has been
stored, the number is how many that were, and the store stays as it is.  And where nothing can happen any
more, nobody can send and the store is free, they have been told. -/
theorem drain_told_once_all_is_stored {capacity throttleDelay : Nat} {initial : ReportStore}
    {p : Pipeline} {before after : List Happening} {k l : Course}
    (started : Pipeline.start capacity initial = .ok p)
    (came : Course.run before (.opened p throttleDelay) = some k)
    (went : Course.run (.awaitDrain :: after) k = some l) :
    let id := k.collector.nextId
    (l.collector.At id (.underway .draining) ∨ ∃ n, l.collector.At id (.ended (.drained n))) ∧
      (∀ n, l.collector.At id (.ended (.drained n)) →
        l.Drained initial n ∧ ∀ later m, Course.run later l = some m →
          m.collector.At id (.ended (.drained n)) ∧ m.collector.store = l.collector.store) ∧
      (l.collector.move? = none → l.collector.pipeline.senders = 0 →
        l.collector.pipeline.locked = false → ∃ n, l.collector.At id (.ended (.drained n))) := by
  intro id
  obtain ⟨k', begins, goesOn⟩ : ∃ k', k.step? .awaitDrain = some k' ∧ Course.run after k' = some l :=
    Option.bind_eq_some_iff.mp (show (k.step? .awaitDrain).bind (Course.run after) = some l from went)
  have honest := (Course.honest_opened throttleDelay started).run came
  have awaits := (honest.awaits begins).run goesOn
  refine ⟨awaits.waits_or_told, fun n told => ?_, awaits.told_at_rest⟩
  have signal := awaits.signal told
  refine ⟨awaits.accounts.drained signal, fun later m ran => ?_⟩
  exact ⟨awaits.stays_told told ran, (Course.stays_drained signal ran).2⟩

/-- the first report is held, the second fills the queue, the third waits, and the owner has given up its
right to send -/
def blocked : List Happening :=
  [.send (numbered 1), .go 0, .go 0, .lock, .take, .send (numbered 2), .go 1, .go 1,
    .send (numbered 3), .go 2, .release]

def unblocked : List Happening :=
  [.unlock, .store, .take, .go 2, .store, .take, .store, .close, .go 3]

theorem drain_told_once_all_is_stored_behind_a_blocked_send : ∃ p k l,
    Pipeline.start 1 ⟨[numbered 9]⟩ = .ok p ∧
    Course.run blocked (.opened p 100) = some k ∧
    k.collector.pipeline.waiting = [(2, numbered 3)] ∧ k.collector.pipeline.senders = 1 ∧
    Course.run (.awaitDrain :: unblocked) k = some l ∧
    l.collector.At 3 (.ended (.drained 3)) ∧ l.Drained ⟨[numbered 9]⟩ 3 ∧
    l.collector.store.reports = [numbered 9, numbered 1, numbered 2, numbered 3] := by
  let p : Pipeline := ⟨1, 1, [], [], .idle, 0, ⟨[numbered 9]⟩, false, []⟩
  have started : Pipeline.start 1 ⟨[numbered 9]⟩ = .ok p := rfl
  obtain ⟨k, came⟩ := Option.isSome_iff_exists.mp
    (by decide +kernel : (Course.run blocked (.opened p 100)).isSome = true)
  have state : (Course.run blocked (.opened p 100)).map (fun k =>
      (k.collector.nextId, k.collector.pipeline.waiting, k.collector.pipeline.senders))
      = some (3, [(2, numbered 3)], 1) := by decide +kernel
  have whole : (Course.run (blocked ++ .awaitDrain :: unblocked) (.opened p 100)).isSome = true := by
    decide +kernel
  have outcomes : (Course.run (blocked ++ .awaitDrain :: unblocked) (.opened p 100)).map (fun l =>
      (l.collector.ended.map fun x => (x.id, x.outcome), l.collector.store.reports))
      = some ([(0, .sent), (1, .sent), (2, .sent), (3, .drained 3)],
        [numbered 9, numbered 1, numbered 2, numbered 3]) := by decide +kernel
  rw [Course.run, run_append, show run Course.step? blocked (.opened p 100) = some k from came]
    at whole outcomes
  obtain ⟨l, went⟩ := Option.isSome_iff_exists.mp whole
  rw [came] at state
  rw [went] at outcomes
  obtain ⟨next, waiting, senders⟩ := Prod.mk.inj (Option.some.inj state) |>.imp id Prod.mk.inj
  obtain ⟨ended, stored⟩ := Prod.mk.inj (Option.some.inj outcomes)
  have told : l.collector.At 3 (.ended (.drained 3)) := by
    have mem : (3, .drained 3) ∈ l.collector.ended.map fun x => (x.id, x.outcome) := by
      rw [ended]
      decide
    obtain ⟨x, hx, same⟩ := List.mem_map.mp mem
    exact ⟨x, hx, congrArg Prod.fst same, congrArg Prod.snd same⟩
  obtain ⟨-, drained, -⟩ := drain_told_once_all_is_stored started came went
  rw [next] at drained
  exact ⟨p, k, l, started, came, waiting, senders, went, told, (drained 3 told).1, stored⟩

end MockCollector
