import MockCollector.Proofs.Collector.Steps
/-!
# Runs come to rest

* `Collector.AtRest`       nothing can happen by itself, now or later, and the store is free;
* `Sound.idle_at_rest`     then no task is ready, waits for room or pauses;
* `Course.Drifts k l`      from `k` to `l` nothing has happened but what happens by itself;
* `Course.drifts_to_rest`  from every state of a run a collector can drift to rest.
-/

namespace MockCollector

namespace Collector

structure AtRest (c : Collector) : Prop where
  still : c.move? = none
  awake : c.due? = none
  free : c.pipeline.locked = false

variable {c d : Collector} {t : Task}

theorem move?_eq_none_iff : c.move? = none ↔ (∀ t ∈ c.tasks, c.taskStep? t = none) ∧
    c.pipeline.store? = none ∧ c.pipeline.read? = none ∧ c.pipeline.take? = none ∧
    c.pipeline.finish? = none := by
  simp only [move?, pipelineStep?, read?, take?, Option.orElse_eq_orElse, Option.orElse_eq_or,
    Option.or_eq_none_iff, List.findSome?_eq_none_iff, Option.map_eq_none_iff]

theorem move?_eq_none (h : c.move? = none) :
    (∀ t ∈ c.tasks, c.taskStep? t = none) ∧ c.pipeline.store? = none ∧ c.pipeline.read? = none ∧
      c.pipeline.take? = none := by
  obtain ⟨tasks, store, read, take, -⟩ := move?_eq_none_iff.mp h
  exact ⟨tasks, store, read, take⟩

theorem mem_pauses {wake : Nat} {n : Next} (ht : t ∈ c.tasks) (hp : t.progress = .pausing wake n) :
    c.due? ≠ none := by
  unfold due?
  rw [ne_eq, List.min?_eq_none_iff, List.filterMap_eq_nil_iff]
  intro none
  have := none t ht
  rw [hp] at this
  cases this

theorem exists_of_due {wake : Nat} (due : c.due? = some wake) :
    ∃ t ∈ c.tasks, ∃ n, t.progress = .pausing wake n := by
  obtain ⟨t, ht, pauses⟩ := List.mem_filterMap.mp (List.min?_mem due)
  cases hp : t.progress with
  | pausing w n =>
    rw [hp] at pauses
    exact ⟨t, ht, n, by rw [hp, Option.some.inj pauses]⟩
  | _ =>
    rw [hp] at pauses
    cases pauses

namespace Sound

/-! ## at rest -/

theorem idle_at_rest (h : c.Sound) (rest : c.AtRest) (ht : t ∈ c.tasks) :
    (∀ n, t.progress ≠ .ready n) ∧ (∀ n, t.progress ≠ .queued n) ∧
      ∀ wake n, t.progress ≠ .pausing wake n := by
  obtain ⟨tasks, store, read, take⟩ := move?_eq_none rest.still
  obtain ⟨-, -, -, waiting⟩ := h.coupled.at_rest rest.free store read take
  refine ⟨fun n hn => ?_, fun n hn => ?_, fun wake n hn => mem_pauses ht hn rest.awake⟩
  · have none := tasks t ht
    rw [Collector.taskStep?, hn] at none
    cases none
  · have waits := h.queued t ht n hn
    rw [waiting] at waits
    exact absurd waits List.not_mem_nil

/-! ## on the way -/

theorem find?_tasks (h : c.Sound) (ht : t ∈ c.tasks) : (c.tasks.find? fun u => u.id == t.id) = some t := by
  cases hf : c.tasks.find? fun u => u.id == t.id with
  | none => exact absurd (beq_self_eq_true t.id) (List.find?_eq_none.mp hf t ht)
  | some u =>
    have same := List.find?_some (p := fun u : Task => u.id == t.id) hf
    rw [h.eq_of_id ht (List.mem_of_find?_eq_some hf) (beq_iff_eq.mp same)]

theorem happen?_go (h : c.Sound) (ht : t ∈ c.tasks) : c.happen? (.go t.id) = c.taskStep? t := by
  rw [Collector.happen?, h.find?_tasks ht]
  rfl

/-- a move is something that happens by itself, and takes work off -/
theorem happen?_of_move? (h : c.Sound) (hm : c.move? = some d) :
    ∃ e, e.isSpontaneous = true ∧ c.happen? e = some d ∧ d.work < c.work := by
  have less := work_lt_of_move? h.nodup hm
  simp only [move?, pipelineStep?, Option.orElse_eq_orElse, Option.orElse_eq_or, Option.or_eq_some_iff]
    at hm
  rcases hm with hm | ⟨-, hm | ⟨-, hm | ⟨-, hm | ⟨-, hm⟩⟩⟩⟩
  · obtain ⟨t, ht, hs⟩ := List.exists_of_findSome?_eq_some hm
    exact ⟨.go t.id, rfl, (h.happen?_go ht).trans hs, less⟩
  · exact ⟨.store, rfl, hm, less⟩
  · exact ⟨.read, rfl, hm, less⟩
  · exact ⟨.take, rfl, hm, less⟩
  · exact ⟨.close, rfl, hm, less⟩

theorem of_move? (h : c.Sound) (hm : c.move? = some d) : d.Sound := by
  obtain ⟨e, -, happens, -⟩ := h.happen?_of_move? hm
  exact h.of_happen? happens

/-- a pause that ends takes work off -/
theorem wake (h : c.Sound) {wake : Nat} {n : Next} (ht : t ∈ c.tasks)
    (hp : t.progress = .pausing wake n) (passed : wake ≤ c.now) :
    ∃ d, c.happen? (.go t.id) = some d ∧ d.work < c.work := by
  have step : c.taskStep? t = some (c.resume t n) := by
    rw [Collector.taskStep?, hp]
    exact if_pos passed
  exact ⟨_, (h.happen?_go ht).trans step,
    work_lt_of_taskStep? ht h.nodup step⟩

end Sound

end Collector

namespace Course

/-- what happens by itself, one run after the other -/
def Drifts (k l : Course) : Prop :=
  ∃ es, (∀ e ∈ es, e.isSpontaneous = true) ∧ run es k = some l

theorem Drifts.refl (k : Course) : Drifts k k := ⟨[], fun _ h => absurd h List.not_mem_nil, rfl⟩

theorem Drifts.trans {k l m : Course} (first : Drifts k l) (last : Drifts l m) : Drifts k m := by
  obtain ⟨es, hes, ran⟩ := first
  obtain ⟨fs, hfs, ran'⟩ := last
  refine ⟨es ++ fs, ?_, ?_⟩
  · intro e he
    exact (List.mem_append.mp he).elim (hes e) (hfs e)
  · rw [run, run_append]
    exact Option.bind_eq_some_iff.mpr ⟨l, ran, ran'⟩

theorem Drifts.step {k l : Course} {e : Happening} (spontaneous : e.isSpontaneous = true)
    (h : k.step? e = some l) : Drifts k l := by
  refine ⟨[e], fun f hf => List.mem_singleton.mp hf ▸ spontaneous, ?_⟩
  rw [run, MockCollector.run, h]
  rfl

theorem Drifts.one {k : Course} {e : Happening} {d : Collector} (spontaneous : e.isSpontaneous = true)
    (h : k.collector.happen? e = some d) : ∃ l, Drifts k l ∧ l.collector = d := by
  refine ⟨⟨d, k.handed ++ k.collector.handed d e⟩, .step spontaneous ?_, rfl⟩
  rw [step?, h]
  rfl

/-- a step in which nobody hands anything over -/
theorem step?_of_silent {k : Course} {e : Happening} {d : Collector}
    (hd : k.collector.happen? e = some d) (silent : k.collector.handed d e = []) :
    k.step? e = some ⟨d, k.handed⟩ := by
  rw [step?, hd, Option.map_some, silent, List.append_nil]

/-- whoever holds the store gives it back -/
theorem drifts_free {k : Course} (h : k.collector.Sound) :
    ∃ l, Drifts k l ∧ l.collector.Sound ∧ l.collector.pipeline.locked = false ∧
      l.collector.work = k.collector.work := by
  by_cases locked : k.collector.pipeline.locked = true
  · have happens : k.collector.happen? .unlock = some (k.collector.setPipeline .unlock) := if_pos locked
    obtain ⟨l, drifts, same⟩ := Drifts.one rfl happens
    refine ⟨l, drifts, ?_, ?_, ?_⟩
    · exact same ▸ (h.setPipeline .unlock h.coupled.unlock h.owners rfl).sound
    · rw [same]
      rfl
    · rw [same]
      rfl
  · exact ⟨k, .refl k, h, eq_false_of_ne_true locked, rfl⟩

/-- the first pause passes, and its task goes on -/
theorem drifts_awake {k : Course} (h : k.collector.Sound) {wake : Nat}
    (due : k.collector.due? = some wake) :
    ∃ l, Drifts k l ∧ l.collector.Sound ∧ l.collector.work < k.collector.work := by
  obtain ⟨t, ht, n, hp⟩ := Collector.exists_of_due due
  have passes : k.collector.happen? (.elapse wake)
      = some { k.collector with now := k.collector.now + wake } := rfl
  have sound := h.of_happen? passes
  obtain ⟨l, first, same⟩ := Drifts.one rfl passes
  obtain ⟨d, goes, less⟩ := sound.wake ht hp (Nat.le_add_left wake k.collector.now)
  have after := sound.of_happen? goes
  rw [← same] at goes
  obtain ⟨m, second, rfl⟩ := Drifts.one rfl goes
  exact ⟨m, first.trans second, after, less⟩

/-- **Every run comes to rest**, whatever state it has reached, if only what happens by itself does. -/
theorem drifts_to_rest {k : Course} (h : k.collector.Sound) :
    ∃ l, Drifts k l ∧ l.collector.Sound ∧ l.collector.AtRest := by
  -- every step on the way takes work off
  induction work : k.collector.work using Nat.strongRecOn generalizing k with
  | ind n ih =>
    obtain ⟨l, unlocks, sound, free, same⟩ := drifts_free h
    have goOn {m : Course} (drifts : Drifts l m) (sound : m.collector.Sound)
        (less : m.collector.work < l.collector.work) :
        ∃ l, Drifts k l ∧ l.collector.Sound ∧ l.collector.AtRest := by
      obtain ⟨rest, later, found⟩ := ih m.collector.work (by omega) sound rfl
      exact ⟨rest, (unlocks.trans drifts).trans later, found⟩
    cases hm : l.collector.move? with
    | some d =>
      obtain ⟨e, spontaneous, happens, less⟩ := sound.happen?_of_move? hm
      have after := sound.of_happen? happens
      obtain ⟨m, moves, rfl⟩ := Drifts.one spontaneous happens
      exact goOn moves after less
    | none =>
      cases hd : l.collector.due? with
      | some wake =>
        obtain ⟨m, wakes, after, less⟩ := drifts_awake sound hd
        exact goOn wakes after less
      | none => exact ⟨l, unlocks, sound, hm, hd, free⟩

end Course

end MockCollector
