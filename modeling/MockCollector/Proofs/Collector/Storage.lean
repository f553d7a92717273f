import MockCollector.Proofs.Collector.Streams
/-!
# What is stored of streamed requests

* `Pipeline.reports`      what was stored, is held, queued or waits, in this order: all that was handed over;
* `Pipeline.Passes p q rs`   from `p` to `q` the reports `rs` came in, and what came in first may have
                          been stored;
* `Course.Accounts`       so the reports in the store are those that were handed over first;
* `Course.stored`         each with the task that it came from;
* `Accounts.stored_of_drained`   all of them, once the queue is empty and none is held;
* `Serves.stored_isPrefix`, `Serves.stored_all`   of a request, a prefix of its own reports, and all of
                          them once it is `Through` with its body and the queue has drained.
-/

namespace MockCollector

namespace Pipeline

/-- every report that was handed to the pipeline, behind those that were stored to begin with -/
def reports (p : Pipeline) : List Report := p.store.reports ++ p.holding ++ p.incoming

/-- nothing was taken out of the queue, and nothing stored -/
structure Rests (p q : Pipeline) : Prop where
  store : q.store = p.store
  consumer : q.consumer = p.consumer
  stored : q.stored = p.stored

structure Passes (p q : Pipeline) (rs : List Report) : Prop where
  reports : q.reports = p.reports ++ rs
  stored : ∃ new, q.store.reports = p.store.reports ++ new ∧ q.stored = p.stored + new.length

variable {p q : Pipeline} {rs : List Report}

theorem Rests.passes (h : Rests p q) (incoming : q.incoming = p.incoming ++ rs) : Passes p q rs where
  reports := by
    rw [reports, holding, h.store, h.consumer, incoming, ← List.append_assoc]
    rfl
  stored := ⟨[], by rw [h.store, List.append_nil], by rw [h.stored]; rfl⟩

theorem passes_of_take? {told : Option TaskId} (h : p.take? = some (told, q)) : Passes p q [] := by
  obtain ⟨r, rest, idle, queue, -, rfl⟩ := take?_eq_some h
  refine ⟨?_, [], (List.append_nil _).symm, rfl⟩
  -- the report that has waited longest moves up into the queue
  have moved : (p.waiting.map Prod.snd).take 1 ++ (p.waiting.drop 1).map Prod.snd
      = p.waiting.map Prod.snd := by
    rw [List.map_drop, List.take_append_drop]
  show p.store.reports ++ [r] ++ (rest ++ _ ++ (p.waiting.drop 1).map Prod.snd) = _
  rw [List.append_nil, reports, holding, idle, incoming, queue, List.append_assoc rest, moved]
  simp only [List.append_assoc, List.nil_append, List.cons_append]

theorem passes_of_store? (h : p.store? = some q) : Passes p q [] := by
  obtain ⟨r, line, holds, -, -, rfl⟩ := store?_eq_some h
  refine ⟨?_, [r], rfl, rfl⟩
  show p.store.reports ++ [r] ++ [] ++ p.incoming = _
  rw [reports, holding, holds, List.append_nil, List.append_nil]

theorem passes_of_finish? (h : p.finish? = some q) : Passes p q [] := by
  obtain ⟨idle, -, -, rfl⟩ := finish?_eq_some h
  refine ⟨?_, [], (List.append_nil _).symm, rfl⟩
  show p.store.reports ++ [] ++ p.incoming = _
  rw [reports, holding, idle, List.append_nil (p.store.reports ++ [] ++ p.incoming)]

end Pipeline

namespace Collector

variable {c d : Collector} {t : Task}

/-- a request goes on to its answer, is held without one, or is over -/
def Through (c : Collector) (id : TaskId) : Prop :=
  c.At id (.underway (.ready .respond)) ∨ c.At id (.underway .held) ∨ ∃ o, c.At id (.ended o)

/-! ## one step -/

theorem rests_finish (c : Collector) (t : Task) (o : Outcome) :
    c.pipeline.Rests (c.finish t o).pipeline := by
  show c.pipeline.Rests (if t.ownsSender then c.pipeline.dropSender else c.pipeline)
  split <;> exact ⟨rfl, rfl, rfl⟩

theorem rests_respond (c : Collector) (t : Task) : c.pipeline.Rests (c.respond t).pipeline := by
  unfold respond
  split
  · exact rests_finish c t _
  · rename_i k _
    cases k with
    | prematureClose => exact rests_finish c t .dropped
    | timeout => exact ⟨rfl, rfl, rfl⟩
    | error => exact rests_finish c t (.answered .failed)

theorem rests_resume (c : Collector) (t : Task) (n : Next) :
    c.pipeline.Rests (c.resume t n).pipeline := by
  cases n with
  | offer r n =>
    simp only [resume]
    split
    · exact rests_finish c t _
    · rename_i p ho
      obtain ⟨-, -, rfl⟩ := Pipeline.offer_eq_accepted ho
      exact ⟨rfl, rfl, rfl⟩
    · rename_i p ho
      obtain ⟨-, rfl⟩ := Pipeline.offer_eq_waits ho
      exact ⟨rfl, rfl, rfl⟩
  | round s =>
    simp only [resume]
    split <;> exact ⟨rfl, rfl, rfl⟩
  | span s =>
    simp only [resume]
    split
    · exact ⟨rfl, rfl, rfl⟩
    · exact ⟨rfl, rfl, rfl⟩
    · exact rests_finish c t _
  | respond => exact rests_respond c t
  | fetch what => exact ⟨rfl, rfl, rfl⟩
  | sent => exact rests_finish c t _

theorem rests_taskStep? (h : c.taskStep? t = some d) : c.pipeline.Rests d.pipeline := by
  unfold taskStep? at h
  split at h
  · cases h
    exact rests_resume c t _
  · obtain ⟨-, same⟩ := Option.ite_none_right_eq_some.mp h
    cases same
    exact rests_resume c t _
  · obtain ⟨-, same⟩ := Option.ite_none_right_eq_some.mp h
    cases same
    exact rests_finish c t _
  · obtain ⟨result, -, rfl⟩ := Option.map_eq_some_iff.mp h
    cases result <;> exact rests_finish c t _
  · cases h
  · cases h

theorem rests_read? (h : c.read? = some d) :
    c.pipeline.Rests d.pipeline ∧ d.pipeline.incoming = c.pipeline.incoming := by
  obtain ⟨⟨id, p⟩, hp, rfl⟩ := Option.map_eq_some_iff.mp h
  obtain ⟨line, -, -, rfl⟩ := Pipeline.read?_eq_some hp
  simp only
  split
  · exact ⟨⟨rfl, rfl, rfl⟩, rfl⟩
  · rename_i t _
    split
    · have rests := rests_finish { c with pipeline := { c.pipeline with line := line } } t
      exact ⟨⟨(rests _).store, (rests _).consumer, (rests _).stored⟩, incoming_finish _ t _⟩
    · exact ⟨⟨rfl, rfl, rfl⟩, rfl⟩

theorem passes_take? (h : c.take? = some d) : c.pipeline.Passes d.pipeline [] := by
  obtain ⟨⟨told, p⟩, hp, rfl⟩ := Option.map_eq_some_iff.mp h
  cases told <;> exact Pipeline.passes_of_take? hp

theorem rests_perform (c : Collector) (a : Action) (r : Request) :
    c.pipeline.Rests (c.perform a r).pipeline ∧
      (c.perform a r).pipeline.incoming = c.pipeline.incoming := by
  have once (c : Collector) (o : Outcome) : c.pipeline.Rests (c.once o).pipeline ∧
      (c.once o).pipeline.incoming = c.pipeline.incoming := ⟨⟨rfl, rfl, rfl⟩, rfl⟩
  cases a with
  | report =>
    unfold perform
    cases Next.report? r with
    | ok n => exact ⟨⟨rfl, rfl, rfl⟩, rfl⟩
    | error v => exact once c _
  | reports => exact ⟨⟨rfl, rfl, rfl⟩, rfl⟩
  | spans => exact ⟨⟨rfl, rfl, rfl⟩, rfl⟩
  | arm k => exact once c (.answered .done)
  | throttle on => exact once c (.answered .done)

/-- nothing is taken out of the queue or stored but by the consumer, and nothing comes in but from tasks
that go on -/
theorem rests_happen? {e : Happening} (hd : c.happen? e = some d) (taking : e ≠ .take)
    (storing : e ≠ .store) (closing : e ≠ .close) :
    c.pipeline.Rests d.pipeline ∧
      ((∀ id, e ≠ .go id) → d.pipeline.incoming = c.pipeline.incoming) := by
  have rest (rests : c.pipeline.Rests d.pipeline)
      (incoming : d.pipeline.incoming = c.pipeline.incoming) :
      c.pipeline.Rests d.pipeline ∧
        ((∀ id, e ≠ .go id) → d.pipeline.incoming = c.pipeline.incoming) :=
    ⟨rests, fun _ => incoming⟩
  cases e with
  | go id =>
    obtain ⟨t, -, hg⟩ := Option.bind_eq_some_iff.mp hd
    exact ⟨rests_taskStep? hg, fun staying => absurd rfl (staying id)⟩
  | take => exact absurd rfl taking
  | store => exact absurd rfl storing
  | close => exact absurd rfl closing
  | read => exact rest (rests_read? hd).1 (rests_read? hd).2
  | perform a r =>
    obtain ⟨-, rfl⟩ := withRight_eq_some.mp hd
    exact rest (rests_perform c a r).1 (rests_perform c a r).2
  | send r | clone | release =>
    obtain ⟨-, rfl⟩ := withRight_eq_some.mp hd
    exact rest ⟨rfl, rfl, rfl⟩ rfl
  | lock =>
    obtain ⟨-, same⟩ := Option.ite_none_left_eq_some.mp hd
    cases same
    exact rest ⟨rfl, rfl, rfl⟩ rfl
  | unlock =>
    obtain ⟨-, same⟩ := Option.ite_none_right_eq_some.mp hd
    cases same
    exact rest ⟨rfl, rfl, rfl⟩ rfl
  | _ =>
    cases hd
    exact rest ⟨rfl, rfl, rfl⟩ rfl

/-- **Whatever happens**, the pipeline gets what is handed to it, and stores what it got first. -/
theorem Sound.passes {e : Happening} (h : c.Sound) (hd : c.happen? e = some d) :
    c.pipeline.Passes d.pipeline ((c.handed d e).map Prod.snd) := by
  cases e with
  | go id =>
    obtain ⟨t, ht, hg⟩ := Option.bind_eq_some_iff.mp hd
    obtain ⟨rs, s, -, -, incoming⟩ := h.taskStep? (List.mem_of_find?_eq_some ht) hg
    have same : (c.handed d (.go id)).map Prod.snd = rs := by
      rw [handed, arrived, incoming, List.drop_left, List.map_map]
      exact List.map_id rs
    rw [same]
    exact (rests_taskStep? hg).passes incoming
  | take => exact passes_take? hd
  | store =>
    obtain ⟨p, hp, rfl⟩ := Option.map_eq_some_iff.mp hd
    exact Pipeline.passes_of_store? hp
  | close =>
    obtain ⟨p, hp, rfl⟩ := Option.map_eq_some_iff.mp hd
    exact Pipeline.passes_of_finish? hp
  | _ =>
    obtain ⟨rests, incoming⟩ := rests_happen? hd Happening.noConfusion Happening.noConfusion
      Happening.noConfusion
    refine rests.passes ((incoming fun _ => Happening.noConfusion).trans ?_)
    exact (List.append_nil _).symm

end Collector

/-! ## runs -/

namespace Course

variable {initial : ReportStore} {k l : Course}

structure Accounts (initial : ReportStore) (k : Course) : Prop where
  course : k.Sound
  passed : k.collector.pipeline.reports = initial.reports ++ k.handed.map Prod.snd
  stored : ∃ new, k.collector.store.reports = initial.reports ++ new ∧
    k.collector.pipeline.stored = new.length

/-- the reports that were stored, each with the task that handed it over -/
def stored (k : Course) : List (TaskId × Report) := k.handed.take k.collector.pipeline.stored

theorem accounts_opened {capacity : Nat} {p : Pipeline} (throttleDelay : Nat)
    (started : Pipeline.start capacity initial = .ok p) :
    (opened p throttleDelay).Accounts initial := by
  refine ⟨sound_opened throttleDelay started, ?_, [], ?_, ?_⟩
  all_goals
    obtain ⟨-, rfl⟩ := Pipeline.Coupled.start started
  · exact List.append_nil (initial.reports ++ [])
  · exact (List.append_nil initial.reports).symm
  · rfl

namespace Accounts

theorem step? {e : Happening} (h : k.Accounts initial) (hl : k.step? e = some l) :
    l.Accounts initial := by
  have course := h.course.step? hl
  obtain ⟨d, hd, rfl⟩ := Option.map_eq_some_iff.mp hl
  have passes := h.course.collector.passes hd
  obtain ⟨old, reports, count⟩ := h.stored
  obtain ⟨new, more, counted⟩ := passes.stored
  refine ⟨course, ?_, old ++ new, ?_, ?_⟩
  · show d.pipeline.reports = _ ++ (k.handed ++ _).map Prod.snd
    rw [passes.reports, h.passed, List.map_append, List.append_assoc]
  · show d.pipeline.store.reports = _
    rw [more, ← List.append_assoc]
    exact congrArg (· ++ new) reports
  · rw [List.length_append, ← count]
    exact counted

theorem run {es : List Happening} (h : k.Accounts initial) (ran : run es k = some l) :
    l.Accounts initial :=
  run_keeps (P := Accounts initial) (fun _ _ _ h hl => h.step? hl) h ran

/-- what was stored, and what is still on the way -/
theorem handed_eq (h : k.Accounts initial) :
    k.collector.store.reports = initial.reports ++ k.stored.map Prod.snd ∧
      k.stored.map Prod.snd ++ k.collector.pipeline.holding ++ k.collector.pipeline.incoming
        = k.handed.map Prod.snd := by
  obtain ⟨new, reports, count⟩ := h.stored
  have passed := h.passed
  rw [Pipeline.reports, show k.collector.pipeline.store.reports = _ from reports, List.append_assoc,
    List.append_assoc] at passed
  have handed := List.append_cancel_left passed
  have same : k.stored.map Prod.snd = new := by
    rw [Course.stored, List.map_take, count, ← handed, List.take_left]
  rw [same, List.append_assoc]
  exact ⟨reports, handed⟩

/-- nothing waits for an empty queue, so once nothing is held either all has been stored -/
theorem stored_of_drained (h : k.Accounts initial) (queue : k.collector.pipeline.queue = [])
    (holding : k.collector.pipeline.holding = []) : k.stored = k.handed := by
  have coupled := h.course.collector.coupled
  have waiting := coupled.none_waits queue
  have lengths := congrArg List.length h.handed_eq.2
  rw [holding, Pipeline.incoming, queue, waiting] at lengths
  simp only [List.append_nil, List.map_nil, List.length_map] at lengths
  rw [Course.stored, List.length_take] at lengths
  exact List.take_of_length_le (by omega)

end Accounts

/-! ## requests -/

section
variable {id : TaskId} {items : List Report} {v : Option Violation}

/-- once a request is through with its body nothing of it is left to hand over -/
theorem Serves.handed_all (h : k.Serves id items v) (through : k.collector.Through id) :
    sentBy id k.handed = items := by
  rcases through with answers | held | ⟨o, ended⟩
  · obtain ⟨s, left, hs, serves, rfl⟩ := h.stage
    obtain rfl := h.sound.at_unique hs answers
    cases serves with
    | ready serves =>
      cases serves
      exact (List.append_nil _).symm
  · exact (h.told.2.2 held).1
  · exact (h.told.2.1 o ended).1

/-- what is stored of a request is what it handed over first -/
theorem Serves.stored_isPrefix (h : k.Serves id items v) : sentBy id k.stored <+: items := by
  refine List.IsPrefix.trans ?_ h.told.1
  rw [← List.take_append_drop k.collector.pipeline.stored k.handed, sentBy_append]
  exact List.prefix_append _ _

theorem Serves.stored_all (h : k.Serves id items v) (accounts : k.Accounts initial)
    (through : k.collector.Through id) (queue : k.collector.pipeline.queue = [])
    (holding : k.collector.pipeline.holding = []) : sentBy id k.stored = items := by
  rw [accounts.stored_of_drained queue holding]
  exact h.handed_all through

theorem Serves.stored_at_rest (h : k.Serves id items v) (accounts : k.Accounts initial)
    (rest : k.collector.AtRest) : sentBy id k.stored = items := by
  obtain ⟨-, noStore, noRead, noTake⟩ := Collector.move?_eq_none rest.still
  obtain ⟨-, holding, queue, -⟩ := h.sound.coupled.at_rest rest.free noStore noRead noTake
  refine h.stored_all accounts ?_ queue holding
  rcases h.at_rest rest with ended | held
  · exact Or.inr (Or.inr ended)
  · exact Or.inr (Or.inl held)

end

end Course

end MockCollector
