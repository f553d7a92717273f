import MockCollector.Proofs.Pipeline.Runs
/-!
# Quiescence

* `Operation.isOwn`        what a pipeline does by itself: its consumer goes on, and readers get their turn;
* `Ledger.Quiescent`       nothing of this can be done;
* `Ledger.quiesces`        it always comes to this, and no send is lost on the way;
* `Balanced.stored_of_quiescent`   and then, if the store is free, everything that was sent has been stored;
* `Balanced.stalled_of_quiescent`  so a send that still waits waits for whoever holds the store.
-/

namespace MockCollector

def Operation.isOwn : Operation → Bool
  | .take | .store | .finish | .read => true
  | _ => false

namespace Pipeline.Coupled

variable {p : Pipeline}

/-- a send waits behind a full queue, and the consumer takes nothing out only while it holds a report -/
theorem holding_of_waiting (h : p.Coupled) (noTake : p.take? = none) (waits : p.waiting ≠ []) :
    p.queue.length = p.capacity ∧ p.holding.length = 1 := by
  refine ⟨h.full waits, ?_⟩
  cases hq : p.queue with
  | nil => exact absurd (h.none_waits hq) waits
  | cons r rest =>
    cases hc : p.consumer with
    | idle =>
      rw [Pipeline.take?, hc, hq] at noTake
      cases noTake
    | holding s =>
      rw [holding, hc]
      rfl
    | finished =>
      have empty := (h.ended hc).2
      rw [hq] at empty
      cases empty
    | killed => exact absurd hc h.alive

end Pipeline.Coupled

namespace Ledger

variable {l m : Ledger} {o : Operation}

def Quiescent (l : Ledger) : Prop := ∀ o, o.isOwn = true → l.step? o = none

theorem quiescent_iff : l.Quiescent ↔ l.pipeline.take? = none ∧ l.pipeline.store? = none ∧
    l.pipeline.finish? = none ∧ l.pipeline.read? = none := by
  constructor
  · intro h
    exact ⟨Option.map_eq_none_iff.mp (h .take rfl), Option.map_eq_none_iff.mp (h .store rfl),
      Option.map_eq_none_iff.mp (h .finish rfl), Option.map_eq_none_iff.mp (h .read rfl)⟩
  · rintro ⟨take, store, finish, read⟩ o own
    cases o with
    | take => exact Option.map_eq_none_iff.mpr take
    | store => exact Option.map_eq_none_iff.mpr store
    | finish => exact Option.map_eq_none_iff.mpr finish
    | read => exact Option.map_eq_none_iff.mpr read
    | _ => cases own

instance : Decidable l.Quiescent := decidable_of_iff _ quiescent_iff.symm

/-! ## coming to it -/

/-- what the pipeline does by itself takes work off, begins no send and leaves the lock as it is -/
theorem step?_own (own : o.isOwn = true) (h : l.step? o = some m) :
    m.pipeline.work + 1 = l.pipeline.work ∧ m.begun = l.begun ∧
      m.pipeline.locked = l.pipeline.locked := by
  cases o with
  | take =>
    obtain ⟨⟨told, p⟩, hp, rfl⟩ := Option.map_eq_some_iff.mp h
    have less := Pipeline.work_of_take? hp
    obtain ⟨r, rest, -, -, -, rfl⟩ := Pipeline.take?_eq_some hp
    cases told <;> exact ⟨less, rfl, rfl⟩
  | store =>
    obtain ⟨p, hp, rfl⟩ := Option.map_eq_some_iff.mp h
    have less := Pipeline.work_of_store? hp
    obtain ⟨r, line, -, -, -, rfl⟩ := Pipeline.store?_eq_some hp
    exact ⟨less, rfl, rfl⟩
  | finish =>
    obtain ⟨p, hp, rfl⟩ := Option.map_eq_some_iff.mp h
    have less := Pipeline.work_of_finish? hp
    obtain ⟨-, -, -, rfl⟩ := Pipeline.finish?_eq_some hp
    exact ⟨less, rfl, rfl⟩
  | read =>
    obtain ⟨⟨t, p⟩, hp, rfl⟩ := Option.map_eq_some_iff.mp h
    have less := Pipeline.work_of_read? hp
    obtain ⟨line, -, -, rfl⟩ := Pipeline.read?_eq_some hp
    exact ⟨less, rfl, rfl⟩
  | _ => cases own

/-- **A pipeline left to itself becomes quiescent.** -/
theorem quiesces (l : Ledger) : ∃ os m, (∀ o ∈ os, o.isOwn = true) ∧ run os l = some m ∧
    m.Quiescent ∧ m.begun = l.begun ∧ m.pipeline.locked = l.pipeline.locked := by
  induction work : l.pipeline.work using Nat.strongRecOn generalizing l with
  | ind n ih =>
    by_cases quiet : l.Quiescent
    · exact ⟨[], l, fun _ h => absurd h List.not_mem_nil, rfl, quiet, rfl, rfl⟩
    · obtain ⟨o, can⟩ := Classical.not_forall.mp quiet
      obtain ⟨own, can⟩ := Classical.not_imp.mp can
      obtain ⟨k, hk⟩ := Option.ne_none_iff_exists'.mp can
      obtain ⟨less, begun, locked⟩ := step?_own own hk
      obtain ⟨os, m, owns, ran, quiet, begun', locked'⟩ := ih k.pipeline.work (by omega) k rfl
      refine ⟨o :: os, m, ?_, ?_, quiet, begun'.trans begun, locked'.trans locked⟩
      · intro o' ho'
        rcases List.mem_cons.mp ho' with rfl | later
        · exact own
        · exact owns o' later
      · rw [run, MockCollector.run, hk]
        exact ran

/-! ## what is then known -/

namespace Balanced

variable {capacity : Nat} {initial : ReportStore}

theorem stored_of_quiescent (h : l.Balanced capacity initial) (quiet : l.Quiescent)
    (free : l.pipeline.locked = false) :
    l.pipeline.queue = [] ∧ l.pipeline.holding = [] ∧ l.pipeline.waiting = [] ∧ l.underway = [] ∧
      l.pipeline.store.reports = initial.reports ++ l.accepted.map Prod.snd := by
  obtain ⟨noTake, noStore, -, noRead⟩ := quiescent_iff.mp quiet
  obtain ⟨-, holding, queue, waiting⟩ := h.coupled.at_rest free noStore noRead noTake
  refine ⟨queue, holding, waiting, h.waiting.symm.trans waiting, ?_⟩
  have passed := h.passed
  rw [Pipeline.accepted, holding, queue, List.append_nil, List.append_nil] at passed
  exact passed

theorem stalled_of_quiescent (h : l.Balanced capacity initial) (quiet : l.Quiescent)
    (waits : l.underway ≠ []) :
    l.pipeline.queue.length = capacity ∧ l.pipeline.holding.length = 1 ∧
      l.pipeline.locked = true := by
  obtain ⟨noTake, -⟩ := quiescent_iff.mp quiet
  obtain ⟨full, holds⟩ := h.coupled.holding_of_waiting noTake (h.waiting ▸ waits)
  refine ⟨full.trans h.capacity, holds, ?_⟩
  cases free : l.pipeline.locked with
  | true => rfl
  | false => exact absurd (h.stored_of_quiescent quiet free).2.2.2.1 waits

end Balanced

end Ledger

/-- **A send waits for nobody but whoever holds the store.**  Where a pipeline can do nothing by itself and
the store is free, all that was let in has been stored and no send waits; where a send waits, the queue is
full, the consumer holds one more report, and somebody else holds the store.  Every pipeline comes to such a
state by itself, and then, if the store is free, every send that was begun has gone through. -/
theorem no_send_is_stranded {capacity : Nat} {initial : ReportStore} {p : Pipeline}
    {os : List Operation} {l : Ledger} (started : Pipeline.start capacity initial = .ok p)
    (ran : Ledger.run os (.opened p) = some l) :
    (l.Quiescent →
      (l.pipeline.locked = false →
        l.pipeline.queue = [] ∧ l.pipeline.holding = [] ∧ l.pipeline.waiting = [] ∧
          l.underway = [] ∧
          l.pipeline.store.reports = initial.reports ++ l.accepted.map Prod.snd) ∧
      (l.underway ≠ [] →
        l.pipeline.queue.length = capacity ∧ l.pipeline.holding.length = 1 ∧
          l.pipeline.locked = true)) ∧
    ∃ own m, (∀ o ∈ own, o.isOwn = true) ∧ Ledger.run own l = some m ∧ m.Quiescent ∧
      m.begun = l.begun ∧ m.pipeline.locked = l.pipeline.locked ∧
      (l.pipeline.locked = false → ∀ t, sentBy t m.accepted = sentBy t l.begun) := by
  have h := (Ledger.balanced_opened started).run ran
  refine ⟨fun quiet => ⟨h.stored_of_quiescent quiet, h.stalled_of_quiescent quiet⟩, ?_⟩
  obtain ⟨own, m, owns, goes, quiet, begun, locked⟩ := l.quiesces
  refine ⟨own, m, owns, goes, quiet, begun, locked, fun free t => ?_⟩
  have balanced := h.run goes
  obtain ⟨-, -, -, none, -⟩ := balanced.stored_of_quiescent quiet (locked.trans free)
  have told := balanced.told t
  rw [none, begun] at told
  exact (told.trans (List.append_nil _)).symm

/-- the first report is held, the second fills the queue, and the third waits -/
def stalling : List Operation :=
  [.clone, .lock, .send 0 (numbered 1), .take, .send 0 (numbered 2), .send 1 (numbered 3)]

def stalled : Ledger :=
  ⟨⟨1, 2, [numbered 2], [(1, numbered 3)], .holding (numbered 1), 0, ⟨[numbered 9]⟩, true,
      [.consumer]⟩,
    [(0, numbered 1), (0, numbered 2), (1, numbered 3)], [(1, numbered 3)],
    [(0, numbered 1), (0, numbered 2)], []⟩

def cleared : Ledger :=
  ⟨⟨1, 2, [], [], .idle, 3, ⟨[numbered 9, numbered 1, numbered 2, numbered 3]⟩, false, []⟩,
    [(0, numbered 1), (0, numbered 2), (1, numbered 3)], [],
    [(0, numbered 1), (0, numbered 2), (1, numbered 3)], []⟩

theorem no_send_is_stranded_behind_a_lock : ∃ p, Pipeline.start 1 ⟨[numbered 9]⟩ = .ok p ∧
    Ledger.run stalling (.opened p) = some stalled ∧ stalled.Quiescent ∧
    (stalled.pipeline.queue.length = 1 ∧ stalled.pipeline.holding.length = 1 ∧
      stalled.pipeline.locked = true) ∧
    Ledger.run (stalling ++ [.unlock, .store, .take, .store, .take, .store]) (.opened p)
      = some cleared ∧
    cleared.Quiescent ∧
    cleared.pipeline.store.reports = [numbered 9] ++ [numbered 1, numbered 2, numbered 3] := by
  let p : Pipeline := ⟨1, 1, [], [], .idle, 0, ⟨[numbered 9]⟩, false, []⟩
  have started : Pipeline.start 1 ⟨[numbered 9]⟩ = .ok p := rfl
  have stalls : Ledger.run stalling (.opened p) = some stalled := by decide +kernel
  have clears : Ledger.run (stalling ++ [.unlock, .store, .take, .store, .take, .store]) (.opened p)
      = some cleared := by decide +kernel
  have quiet : stalled.Quiescent := by decide +kernel
  have quiet' : cleared.Quiescent := by decide +kernel
  obtain ⟨waits, -⟩ := no_send_is_stranded started stalls
  obtain ⟨rests, -⟩ := no_send_is_stranded started clears
  obtain ⟨-, -, -, -, all⟩ := (rests quiet').1 rfl
  exact ⟨p, started, stalls, quiet, (waits quiet).2 (List.cons_ne_nil _ _), clears, quiet', all⟩

end MockCollector
