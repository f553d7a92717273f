import MockCollector.Proofs.Pipeline.Coupling
import MockCollector.Proofs.Run
/-!
# Runs of a pipeline

Senders, whoever wants the store and the consumer take their steps in any order.

* `Operation`               one such step;
* `Ledger`                  a pipeline and the sends that were made on it, each with the task that made it;
* `Ledger.step? o`, `Ledger.run os`   one step, and many in a row: `none` where one cannot be taken;
* `Ledger.Balanced`         the books agree with the pipeline, from the start (`balanced_opened`) and after
                            every step (`Balanced.step?`);
* `reports_pass_in_order`   what has been accepted is stored, held or queued, in the order of acceptance.

A task makes its next send when it has been told about the last one, and nobody gives up the last right to
send while a send is under way.
-/

namespace MockCollector

inductive Operation where
  /-- one more may send -/
  | clone
  /-- one less may send -/
  | drop
  | send (t : TaskId) (r : Report)
  | take
  | store
  | finish
  | lock
  | unlock
  | queueReader (t : TaskId)
  | read
  deriving DecidableEq

structure Ledger where
  pipeline : Pipeline
  begun : List (TaskId × Report)
  /-- the sends whose tasks have yet to be told -/
  underway : List (TaskId × Report)
  /-- the sends whose tasks were told that they went well, in the order in which they were -/
  accepted : List (TaskId × Report)
  refused : List (TaskId × Report)
  deriving DecidableEq

/-- the reports that one task sent -/
def sentBy (t : TaskId) (sends : List (TaskId × Report)) : List Report :=
  (sends.filter fun s => s.1 == t).map Prod.snd

theorem sentBy_append (t : TaskId) (xs ys : List (TaskId × Report)) :
    sentBy t (xs ++ ys) = sentBy t xs ++ sentBy t ys := by
  rw [sentBy, List.filter_append, List.map_append]
  rfl

theorem mem_sentBy {t : TaskId} {r : Report} {sends : List (TaskId × Report)} (h : (t, r) ∈ sends) :
    r ∈ sentBy t sends :=
  List.mem_map.mpr ⟨(t, r), List.mem_filter.mpr ⟨h, beq_self_eq_true t⟩, rfl⟩

theorem sentBy_eq_nil {t : TaskId} {sends : List (TaskId × Report)}
    (h : t ∉ sends.map Prod.fst) : sentBy t sends = [] := by
  rw [sentBy, List.map_eq_nil_iff, List.filter_eq_nil_iff]
  intro s hs same
  exact h (List.mem_map.mpr ⟨s, hs, beq_iff_eq.mp same⟩)

theorem sentBy_own (t : TaskId) (rs : List Report) : sentBy t (rs.map fun r => (t, r)) = rs := by
  rw [sentBy, List.filter_eq_self.mpr, List.map_map]
  · exact List.map_id rs
  · intro s hs
    obtain ⟨r, -, rfl⟩ := List.mem_map.mp hs
    exact beq_self_eq_true t

theorem sentBy_other {t u : TaskId} (other : t ≠ u) (rs : List Report) :
    sentBy t (rs.map fun r => (u, r)) = [] := by
  refine sentBy_eq_nil fun mem => ?_
  obtain ⟨s, hs, same⟩ := List.mem_map.mp mem
  obtain ⟨r, -, rfl⟩ := List.mem_map.mp hs
  exact other same.symm

/-- a task with one send at most has sent one report at most -/
theorem length_sentBy_le {t : TaskId} {sends : List (TaskId × Report)}
    (single : (sends.map Prod.fst).Nodup) : (sentBy t sends).length ≤ 1 := by
  have count : (sentBy t sends).length = (sends.map Prod.fst).count t := by
    rw [sentBy, List.length_map, List.count, List.countP_map, List.countP_eq_length_filter]
    rfl
  rw [count]
  exact List.nodup_iff_count.mp single t

namespace Ledger

def opened (p : Pipeline) : Ledger := ⟨p, [], [], [], []⟩

/-! ## steps -/

def send (t : TaskId) (r : Report) (l : Ledger) : Ledger :=
  match l.pipeline.offer t r with
  | .refused => { l with begun := l.begun ++ [(t, r)], refused := l.refused ++ [(t, r)] }
  | .accepted p =>
    { l with pipeline := p, begun := l.begun ++ [(t, r)], accepted := l.accepted ++ [(t, r)] }
  | .waits p =>
    { l with pipeline := p, begun := l.begun ++ [(t, r)], underway := l.underway ++ [(t, r)] }

/-- a task is told that its send went well -/
def tell (t : TaskId) (l : Ledger) : Ledger :=
  { l with
    accepted := l.accepted ++ l.underway.filter fun s => s.1 == t
    underway := l.underway.filter fun s => s.1 != t }

def withPipeline (l : Ledger) (p : Pipeline) : Ledger := { l with pipeline := p }

def step? (l : Ledger) : Operation → Option Ledger
  | .clone =>
    if 0 < l.pipeline.senders then some (l.withPipeline l.pipeline.addSender) else none
  | .drop =>
    if 1 < l.pipeline.senders ∨ (0 < l.pipeline.senders ∧ l.underway = []) then
      some (l.withPipeline l.pipeline.dropSender)
    else none
  | .send t r =>
    if 0 < l.pipeline.senders ∧ t ∉ l.underway.map Prod.fst then some (l.send t r) else none
  | .take => l.pipeline.take?.map fun (told, p) =>
    match told with
    | none => l.withPipeline p
    | some t => (l.withPipeline p).tell t
  | .store => l.pipeline.store?.map l.withPipeline
  | .finish => l.pipeline.finish?.map l.withPipeline
  | .lock => if l.pipeline.locked then none else some (l.withPipeline l.pipeline.lock)
  | .unlock => if l.pipeline.locked then some (l.withPipeline l.pipeline.unlock) else none
  | .queueReader t => some (l.withPipeline (l.pipeline.queueReader t))
  | .read => l.pipeline.read?.map fun (_, p) => l.withPipeline p

def run : List Operation → Ledger → Option Ledger := MockCollector.run step?

/-! ## balance -/

structure Balanced (capacity : Nat) (initial : ReportStore) (l : Ledger) : Prop where
  coupled : l.pipeline.Coupled
  capacity : l.pipeline.capacity = capacity
  passed : l.pipeline.accepted = initial.reports ++ l.accepted.map Prod.snd
  stored : ∃ new, l.pipeline.store.reports = initial.reports ++ new ∧ l.pipeline.stored = new.length
  waiting : l.pipeline.waiting = l.underway
  single : (l.underway.map Prod.fst).Nodup
  told : ∀ t, sentBy t l.begun = sentBy t l.accepted ++ sentBy t l.underway
  refused : l.refused = []

theorem balanced_opened {capacity : Nat} {initial : ReportStore} {p : Pipeline}
    (started : Pipeline.start capacity initial = .ok p) : (opened p).Balanced capacity initial := by
  obtain ⟨coupled, rfl⟩ := Pipeline.Coupled.start started
  refine ⟨coupled, rfl, ?_, ⟨[], ?_, rfl⟩, rfl, List.nodup_nil, fun _ => rfl, rfl⟩
  · show initial.reports ++ [] ++ [] = initial.reports ++ []
    rw [List.append_nil]
  · exact (List.append_nil _).symm

namespace Balanced

variable {capacity : Nat} {initial : ReportStore} {l m : Ledger}

/-- a step that neither stores nor lets in a report leaves the books as they are -/
theorem withPipeline {p : Pipeline} (h : l.Balanced capacity initial) (coupled : p.Coupled)
    (size : p.capacity = l.pipeline.capacity) (accepted : p.accepted = l.pipeline.accepted)
    (store : p.store = l.pipeline.store) (stored : p.stored = l.pipeline.stored)
    (waiting : p.waiting = l.pipeline.waiting) : (l.withPipeline p).Balanced capacity initial := by
  refine { h with coupled := coupled, capacity := ?_, passed := ?_, stored := ?_, waiting := ?_ }
  · exact size.trans h.capacity
  · exact accepted.trans h.passed
  · show ∃ new, p.store.reports = initial.reports ++ new ∧ p.stored = new.length
    rw [store, stored]
    exact h.stored
  · exact waiting.trans h.waiting

/-! ## sends -/

theorem send {t : TaskId} {r : Report} (h : l.Balanced capacity initial)
    (some : 0 < l.pipeline.senders) (other : t ∉ l.underway.map Prod.fst) :
    (l.send t r).Balanced capacity initial := by
  unfold Ledger.send
  cases ho : l.pipeline.offer t r with
  | refused => exact absurd ho (h.coupled.not_refused some)
  | accepted p =>
    have passed := Pipeline.accepted_of_offer ho
    have coupled := h.coupled.offer_accepted some ho
    simp only
    obtain ⟨-, -, rfl⟩ := Pipeline.offer_eq_accepted ho
    refine { h with coupled := coupled, passed := ?_, told := ?_ }
    · show Pipeline.accepted _ = initial.reports ++ (l.accepted ++ [(t, r)]).map Prod.snd
      rw [passed, h.passed, List.map_append, List.append_assoc]
      rfl
    · intro u
      show sentBy u (l.begun ++ [(t, r)]) = sentBy u (l.accepted ++ [(t, r)]) ++ sentBy u l.underway
      rw [sentBy_append, sentBy_append, h.told, List.append_assoc, List.append_assoc]
      -- the task that sends has nothing else under way, so for it the order does not matter
      by_cases same : u = t
      · rw [same, sentBy_eq_nil other, List.append_nil, List.nil_append]
      · have none : sentBy u [(t, r)] = [] := sentBy_other same [r]
        rw [none, List.append_nil, List.nil_append]
  | waits p =>
    have passed := Pipeline.accepted_of_offer_waits ho
    have coupled := h.coupled.offer_waits ho
    simp only
    obtain ⟨-, rfl⟩ := Pipeline.offer_eq_waits ho
    refine { h with
      coupled := coupled, passed := ?_, waiting := ?_, single := ?_, told := ?_ }
    · exact passed.trans h.passed
    · show l.pipeline.waiting ++ [(t, r)] = l.underway ++ [(t, r)]
      rw [h.waiting]
    · show ((l.underway ++ [(t, r)]).map Prod.fst).Nodup
      rw [List.map_append]
      refine List.nodup_append.mpr ⟨h.single, by simp, ?_⟩
      rintro u hu v new rfl
      have same : u = t := List.mem_singleton.mp new
      rw [same] at hu
      exact other hu
    · intro u
      show sentBy u (l.begun ++ [(t, r)]) = sentBy u l.accepted ++ sentBy u (l.underway ++ [(t, r)])
      rw [sentBy_append, sentBy_append, h.told, List.append_assoc]

/-- of the sends that are under way, the first and the others, told apart by their tasks -/
theorem filter_underway {t : TaskId} {r : Report} {rest : List (TaskId × Report)}
    (single : (((t, r) :: rest).map Prod.fst).Nodup) :
    ((t, r) :: rest).filter (fun s => s.1 == t) = [(t, r)] ∧
      ((t, r) :: rest).filter (fun s => s.1 != t) = rest := by
  obtain ⟨other, -⟩ := List.nodup_cons.mp single
  have apart : ∀ s ∈ rest, s.1 ≠ t := by
    intro s hs same
    exact other (List.mem_map.mpr ⟨s, hs, same⟩)
  constructor
  · rw [List.filter_cons, if_pos (beq_self_eq_true t)]
    refine congrArg _ (List.filter_eq_nil_iff.mpr ?_)
    intro s hs same
    exact apart s hs (beq_iff_eq.mp same)
  · rw [List.filter_cons, if_neg (by simp)]
    refine List.filter_eq_self.mpr ?_
    intro s hs
    exact bne_iff_ne.mpr (apart s hs)

/-! ## the consumer -/

theorem take (h : l.Balanced capacity initial) (ht : l.step? .take = some m) :
    m.Balanced capacity initial := by
  obtain ⟨⟨told, p⟩, hp, rfl⟩ := Option.map_eq_some_iff.mp ht
  have coupled := h.coupled.take? hp
  have passed := Pipeline.accepted_of_take? hp
  rw [h.waiting] at passed
  obtain ⟨r, rest, -, -, rfl, rfl⟩ := Pipeline.take?_eq_some hp
  have single := h.single
  have toldTo := h.told
  cases hu : l.underway with
  | nil =>
    rw [hu] at passed
    have none : (l.pipeline.waiting.map Prod.fst).head? = none := by
      rw [h.waiting, hu]
      rfl
    have noneLeft : l.pipeline.waiting.drop 1 = l.pipeline.waiting := by
      rw [h.waiting, hu]
      rfl
    simp only [none]
    exact h.withPipeline coupled rfl (passed.trans (List.append_nil _)) rfl rfl noneLeft
  | cons s others =>
    obtain ⟨t, first⟩ := s
    rw [hu] at passed single toldTo
    have head : (l.pipeline.waiting.map Prod.fst).head? = some t := by
      rw [h.waiting, hu]
      rfl
    obtain ⟨mine, theirs⟩ := filter_underway single
    simp only [head, tell, Ledger.withPipeline, hu, mine, theirs]
    refine { h with
      coupled := coupled, passed := ?_, waiting := ?_, single := ?_, told := ?_ }
    · rw [passed, h.passed, List.map_append, List.append_assoc]
      rfl
    · show l.pipeline.waiting.drop 1 = others
      rw [h.waiting, hu]
      rfl
    · exact (List.nodup_cons.mp single).2
    · intro u
      show sentBy u l.begun = sentBy u (l.accepted ++ [(t, first)]) ++ sentBy u others
      rw [toldTo, ← sentBy_append, ← sentBy_append, List.append_assoc]
      rfl

theorem store (h : l.Balanced capacity initial) (hs : l.step? .store = some m) :
    m.Balanced capacity initial := by
  obtain ⟨p, hp, rfl⟩ := Option.map_eq_some_iff.mp hs
  have coupled := h.coupled.store? hp
  have passed := Pipeline.accepted_of_store? hp
  obtain ⟨r, line, -, -, -, rfl⟩ := Pipeline.store?_eq_some hp
  obtain ⟨new, reports, count⟩ := h.stored
  refine { h with coupled := coupled, passed := passed.trans h.passed, stored := ⟨new ++ [r], ?_, ?_⟩ }
  · show l.pipeline.store.reports ++ [r] = _
    rw [reports, List.append_assoc]
  · show l.pipeline.stored + 1 = _
    rw [count, List.length_append]
    rfl

/-! ## every step -/

theorem step? {o : Operation} (h : l.Balanced capacity initial) (ho : l.step? o = some m) :
    m.Balanced capacity initial := by
  cases o with
  | clone =>
    obtain ⟨some, same⟩ := Option.ite_none_right_eq_some.mp ho
    cases same
    exact h.withPipeline (h.coupled.addSender some) rfl rfl rfl rfl rfl
  | drop =>
    obtain ⟨-, same⟩ := Option.ite_none_right_eq_some.mp ho
    cases same
    exact h.withPipeline h.coupled.dropSender rfl rfl rfl rfl rfl
  | send t r =>
    obtain ⟨⟨some, other⟩, same⟩ := Option.ite_none_right_eq_some.mp ho
    cases same
    exact h.send some other
  | take => exact h.take ho
  | store => exact h.store ho
  | finish =>
    obtain ⟨p, hp, rfl⟩ := Option.map_eq_some_iff.mp ho
    have coupled := h.coupled.finish? hp
    have accepted := Pipeline.accepted_of_finish? hp
    obtain ⟨-, -, -, rfl⟩ := Pipeline.finish?_eq_some hp
    exact h.withPipeline coupled rfl accepted rfl rfl rfl
  | lock =>
    obtain ⟨-, same⟩ := Option.ite_none_left_eq_some.mp ho
    cases same
    exact h.withPipeline h.coupled.lock rfl rfl rfl rfl rfl
  | unlock =>
    obtain ⟨-, same⟩ := Option.ite_none_right_eq_some.mp ho
    cases same
    exact h.withPipeline h.coupled.unlock rfl rfl rfl rfl rfl
  | queueReader t =>
    obtain rfl := Option.some.inj ho
    exact h.withPipeline h.coupled.queueReader rfl rfl rfl rfl rfl
  | read =>
    obtain ⟨⟨t, p⟩, hp, rfl⟩ := Option.map_eq_some_iff.mp ho
    have coupled := h.coupled.read? hp
    have accepted := Pipeline.accepted_of_read? hp
    obtain ⟨line, -, -, rfl⟩ := Pipeline.read?_eq_some hp
    exact h.withPipeline coupled rfl accepted rfl rfl rfl

theorem run {os : List Operation} (h : l.Balanced capacity initial)
    (ran : Ledger.run os l = some m) : m.Balanced capacity initial :=
  run_keeps (fun _ _ _ h ho => h.step? ho) h ran

end Balanced

end Ledger

/-- **Reports pass through a pipeline in order**, whatever order the steps are taken in: what was stored
to begin with is followed by what was accepted, of which the last is held or queued. -/
theorem reports_pass_in_order {capacity : Nat} {initial : ReportStore} {p : Pipeline}
    {os : List Operation} {l : Ledger} (started : Pipeline.start capacity initial = .ok p)
    (ran : Ledger.run os (.opened p) = some l) :
    (∃ new, l.pipeline.store.reports = initial.reports ++ new ∧
      new ++ l.pipeline.holding ++ l.pipeline.queue = l.accepted.map Prod.snd ∧
      l.pipeline.stored = new.length ∧ l.accepted.length ≤ new.length + (capacity + 1)) ∧
    l.pipeline.holding.length ≤ 1 ∧ l.pipeline.queue.length ≤ capacity ∧
    l.refused = [] ∧ l.pipeline.waiting = l.underway ∧
    ∀ t, sentBy t l.begun = sentBy t l.accepted ++ sentBy t l.underway ∧
      (sentBy t l.underway).length ≤ 1 := by
  have h := (Ledger.balanced_opened started).run ran
  obtain ⟨new, reports, count⟩ := h.stored
  have passed : new ++ l.pipeline.holding ++ l.pipeline.queue = l.accepted.map Prod.snd := by
    have passed := h.passed
    rw [Pipeline.accepted, reports, List.append_assoc, List.append_assoc] at passed
    rw [List.append_assoc]
    exact List.append_cancel_left passed
  have fits : l.pipeline.queue.length ≤ capacity := h.capacity ▸ h.coupled.fits
  have holds := Pipeline.length_holding_le l.pipeline
  refine ⟨⟨new, reports, passed, count, ?_⟩, holds, fits, h.refused, h.waiting, fun t => ?_⟩
  · have length := congrArg List.length passed
    rw [List.length_append, List.length_append, List.length_map] at length
    omega
  · exact ⟨h.told t, length_sentBy_le h.single⟩

def numbered (n : Int64) : Report := ⟨none, none, [], n, none⟩

/-- two tasks wait for a queue of one, in front of a store that was locked for a while -/
def crowd : List Operation :=
  [.clone, .lock, .send 0 (numbered 1), .take, .send 0 (numbered 2), .send 1 (numbered 3), .drop,
    .send 2 (numbered 4), .unlock, .store, .take]

/-- what comes of it: one report stored, one held, one in the queue and one that waits -/
def crowded : Ledger :=
  ⟨⟨1, 1, [numbered 3], [(2, numbered 4)], .holding (numbered 2), 1, ⟨[numbered 9, numbered 1]⟩, false,
      [.consumer]⟩,
    [(0, numbered 1), (0, numbered 2), (1, numbered 3), (2, numbered 4)], [(2, numbered 4)],
    [(0, numbered 1), (0, numbered 2), (1, numbered 3)], []⟩

theorem reports_pass_in_order_through_a_crowd :
    ∃ p, Pipeline.start 1 ⟨[numbered 9]⟩ = .ok p ∧ Ledger.run crowd (.opened p) = some crowded ∧
      ∃ new, crowded.pipeline.store.reports = [numbered 9] ++ new ∧
        new ++ [numbered 2] ++ [numbered 3] = [numbered 1, numbered 2, numbered 3] ∧
        1 = new.length := by
  let p : Pipeline := ⟨1, 1, [], [], .idle, 0, ⟨[numbered 9]⟩, false, []⟩
  have started : Pipeline.start 1 ⟨[numbered 9]⟩ = .ok p := rfl
  have ran : Ledger.run crowd (.opened p) = some crowded := by decide +kernel
  obtain ⟨⟨new, reports, passed, count, -⟩, -⟩ := reports_pass_in_order started ran
  exact ⟨p, started, ran, new, reports, passed, count⟩

end MockCollector
