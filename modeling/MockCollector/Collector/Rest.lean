import MockCollector.Collector.Actions
import MockCollector.Pipeline.Lemmas
import MockCollector.Stream.Consumption
/-!
# Coming to rest

Every move of a collector makes its work less (`work_lt_of_move?`), so `settle` goes on until nothing can
happen any more (`move?_settle`).  This needs that tasks have numbers of their own (`Distinct`), as they
have from the start (`distinct_start`), when one more begins (`distinct_begin`) and after every move
(`distinct_of_move?`).
-/

namespace MockCollector

theorem OpenStream.length_events_next {s rest : OpenStream} {r : Report}
    (h : s.next = .span r rest) : rest.body.events.length < s.body.events.length := by
  unfold OpenStream.next at h
  split at h
  · simp at h
  · simp at h
  · rename_i span last hs
    obtain ⟨-, rfl⟩ := OpenStream.Step.span.inj h
    exact Decoder.length_events_span? hs

namespace Collector

/-- no two tasks have one number, and the next number is still free -/
def Distinct (c : Collector) : Prop :=
  (c.tasks.map Task.id).Nodup ∧ ∀ t ∈ c.tasks, t.id < c.nextId

/-! ## the work of tasks -/

private theorem tasksWork_update (tasks : List Task) (t : Task) (p : Progress) (h : t ∈ tasks)
    (nodup : (tasks.map Task.id).Nodup) :
    tasksWork (tasks.map fun u => if u.id = t.id then { u with progress := p } else u) + t.work
      = tasksWork tasks + (p.work + 1) := by
  induction tasks with
  | nil => simp at h
  | cons u us ih =>
    simp only [List.map_cons, List.nodup_cons] at nodup
    rcases List.mem_cons.mp h with rfl | h
    · have same : (us.map fun u => if u.id = t.id then { u with progress := p } else u) = us := by
        refine (List.map_congr_left fun v hv => ?_).trans (List.map_id us)
        have : v.id ≠ t.id := fun e => nodup.1 (e ▸ List.mem_map_of_mem hv)
        simp [this]
      simp only [List.map_cons, same, tasksWork, if_true]
      simp only [Task.work]
      omega
    · have ne : u.id ≠ t.id := fun e => nodup.1 (e ▸ List.mem_map_of_mem h)
      have := ih h nodup.2
      simp only [List.map_cons, tasksWork, if_neg ne]
      omega

private theorem tasksWork_remove (tasks : List Task) (t : Task) (h : t ∈ tasks)
    (nodup : (tasks.map Task.id).Nodup) :
    tasksWork (tasks.filter fun u => u.id != t.id) + t.work = tasksWork tasks := by
  induction tasks with
  | nil => simp at h
  | cons u us ih =>
    simp only [List.map_cons, List.nodup_cons] at nodup
    rcases List.mem_cons.mp h with rfl | h
    · have same : (us.filter fun u => u.id != t.id) = us := by
        refine List.filter_eq_self.mpr fun v hv => ?_
        have : v.id ≠ t.id := fun e => nodup.1 (e ▸ List.mem_map_of_mem hv)
        simp [this]
      simp [same, tasksWork]
      omega
    · have ne : u.id ≠ t.id := fun e => nodup.1 (e ▸ List.mem_map_of_mem h)
      have := ih h nodup.2
      simp only [List.filter_cons, bne_iff_ne, ne_eq, ne, not_false_eq_true, if_true,
        tasksWork]
      omega

theorem work_setProgress {c : Collector} {t : Task} (p : Progress) (h : t ∈ c.tasks)
    (nodup : (c.tasks.map Task.id).Nodup) :
    (c.setProgress t.id p).work + t.work = c.work + (p.work + 1) := by
  have := tasksWork_update c.tasks t p h nodup
  simp only [work, setProgress]
  omega

theorem work_finish {c : Collector} {t : Task} (outcome : Outcome) (h : t ∈ c.tasks)
    (nodup : (c.tasks.map Task.id).Nodup) : (c.finish t outcome).work + t.work = c.work := by
  have := tasksWork_remove c.tasks t h nodup
  have pw : (if t.ownsSender then c.pipeline.dropSender else c.pipeline).work = c.pipeline.work := by
    split <;> rfl
  simp only [work, finish, pw]
  omega

/-! ## tasks -/

theorem work_respond_lt {c : Collector} {t : Task} (h : t ∈ c.tasks)
    (nodup : (c.tasks.map Task.id).Nodup) (enough : 3 < t.work) :
    (c.respond t).work < c.work := by
  unfold respond
  split
  · have := work_finish (.answered (.report (c.received t))) h nodup
    omega
  · rename_i k hk
    have same : ({ c with faults := (c.faults.consume k).2 } : Collector).work = c.work := rfl
    cases k with
    | error =>
      have := work_finish (c := { c with faults := (c.faults.consume .error).2 })
        (.answered .failed) h nodup
      simp only at this ⊢
      omega
    | timeout =>
      have := work_setProgress (c := { c with faults := (c.faults.consume .timeout).2 }) .held h nodup
      simp only [Progress.work] at this ⊢
      omega
    | prematureClose =>
      have := work_finish
        (c := { c with faults := (c.faults.consume .prematureClose).2, stopped := true })
        .dropped h nodup
      have same : ({ c with
        faults := (c.faults.consume .prematureClose).2, stopped := true } : Collector).work
          = c.work := rfl
      simp only at this ⊢
      omega

theorem work_resume_lt {c : Collector} {t : Task} {next : Next} (h : t ∈ c.tasks)
    (nodup : (c.tasks.map Task.id).Nodup) (enough : next.work < t.work) :
    (c.resume t next).work < c.work := by
  cases next with
  | offer r next =>
    simp only [Next.work] at enough
    simp only [resume]
    split
    · have := work_finish next.refusal h nodup
      omega
    · rename_i p hp
      have hw := Pipeline.work_of_offer (Or.inl hp)
      have := work_setProgress (c := { c with pipeline := p }) (.ready next) h nodup
      simp only [work, Progress.work] at this ⊢
      omega
    · rename_i p hp
      have hw := Pipeline.work_of_offer (Or.inr hp)
      have := work_setProgress (c := { c with pipeline := p }) (.queued next) h nodup
      simp only [work, Progress.work] at this ⊢
      omega
  | round s =>
    simp only [Next.work] at enough
    simp only [resume]
    split
    · have := work_setProgress (.pausing (c.now + c.throttleDelay) (.span s)) h nodup
      simp only [Progress.work, Next.work] at this ⊢
      omega
    · have := work_setProgress (.ready (.span s)) h nodup
      simp only [Progress.work, Next.work] at this ⊢
      omega
  | span s =>
    simp only [Next.work] at enough
    simp only [resume]
    split
    · have := work_setProgress (.ready .respond) h nodup
      simp only [Progress.work, Next.work] at this ⊢
      omega
    · rename_i r rest hs
      have shorter := OpenStream.length_events_next hs
      have := work_setProgress (.ready (.offer r (.round rest))) h nodup
      simp only [Progress.work, Next.work] at this ⊢
      omega
    · rename_i v hs
      have := work_finish (.violated v) h nodup
      omega
  | respond => exact work_respond_lt h nodup (by simpa [Next.work] using enough)
  | fetch what =>
    simp only [Next.work] at enough
    have := work_setProgress (c := { c with pipeline := c.pipeline.queueReader t.id })
      (.fetching what) h nodup
    simp only [resume, work, Progress.work, Pipeline.queueReader, Pipeline.work,
      List.length_append, List.length_cons, List.length_nil] at this ⊢
    omega
  | sent =>
    have := work_finish .sent h nodup
    simp only [resume]
    omega

theorem work_lt_of_taskStep? {c d : Collector} {t : Task} (ht : t ∈ c.tasks)
    (nodup : (c.tasks.map Task.id).Nodup) (h : c.taskStep? t = some d) : d.work < c.work := by
  have ended (outcome : Outcome) : (c.finish t outcome).work < c.work := by
    have := work_finish outcome ht nodup
    have : 0 < t.work := Nat.succ_pos _
    omega
  unfold taskStep? at h
  split at h
  · rename_i next hp
    obtain rfl := Option.some.inj h
    refine work_resume_lt ht nodup ?_
    rw [Task.work, hp, Progress.work]
    exact Nat.lt_succ_self _
  · rename_i wake next hp
    split at h
    · obtain rfl := Option.some.inj h
      refine work_resume_lt ht nodup ?_
      rw [Task.work, hp, Progress.work]
      omega
    · simp at h
  · split at h
    · obtain rfl := Option.some.inj h
      exact ended _
    · simp at h
  · obtain ⟨result, -, rfl⟩ := Option.map_eq_some_iff.mp h
    cases result <;> exact ended _
  · simp at h
  · simp at h

/-! ## the pipeline -/

theorem work_giveRoom_le (c : Collector) (id : TaskId) : (c.giveRoom id).work ≤ c.work := by
  have : tasksWork (c.giveRoom id).tasks ≤ tasksWork c.tasks := by
    simp only [giveRoom]
    induction c.tasks with
    | nil => exact Nat.le_refl _
    | cons t ts ih =>
      simp only [List.map_cons, tasksWork]
      refine Nat.add_le_add ?_ ih
      split
      · rename_i next hp
        split
        · simp [Task.work, hp, Progress.work]
        · exact Nat.le_refl _
      · exact Nat.le_refl _
  simp only [work]
  exact Nat.add_le_add_right this _

theorem work_lt_of_pipelineStep? {c d : Collector} (nodup : (c.tasks.map Task.id).Nodup)
    (h : c.pipelineStep? = some d) : d.work < c.work := by
  simp only [pipelineStep?, Option.orElse_eq_orElse, Option.orElse_eq_or, Option.or_eq_some_iff,
    Option.map_eq_some_iff, Option.map_eq_none_iff] at h
  rcases h with ⟨p, hp, rfl⟩ | ⟨-, h | ⟨-, h | ⟨-, p, hp, rfl⟩⟩⟩
  · have := Pipeline.work_of_store? hp
    simp only [work]
    omega
  · obtain ⟨⟨id, p⟩, hp, rfl⟩ := Option.map_eq_some_iff.mp h
    have less := Pipeline.work_of_read? hp
    simp only
    split
    · simp only [work]
      omega
    · rename_i t ht
      split
      · rename_i what _
        have := work_finish (c := { c with pipeline := p })
          (.answered (listing ({ c with pipeline := p } : Collector).store what))
          (List.mem_of_find?_eq_some ht) nodup
        simp only [work] at this ⊢
        omega
      · simp only [work]
        omega
  · obtain ⟨⟨roomFor, p⟩, hp, rfl⟩ := Option.map_eq_some_iff.mp h
    have less := Pipeline.work_of_take? hp
    simp only
    split
    · simp only [work]
      omega
    · rename_i id
      have := work_giveRoom_le { c with pipeline := p } id
      simp only [work] at this ⊢
      omega
  · have := Pipeline.work_of_finish? hp
    simp only [work]
    omega

theorem work_lt_of_move? {c d : Collector} (nodup : (c.tasks.map Task.id).Nodup)
    (h : c.move? = some d) : d.work < c.work := by
  simp only [move?, Option.orElse_eq_orElse, Option.orElse_eq_or, Option.or_eq_some_iff] at h
  rcases h with h | ⟨-, h⟩
  · obtain ⟨t, ht, hs⟩ := List.exists_of_findSome?_eq_some h
    exact work_lt_of_taskStep? ht nodup hs
  · exact work_lt_of_pipelineStep? nodup h

/-! ## numbers -/

theorem ids_setProgress (c : Collector) (id : TaskId) (p : Progress) :
    (c.setProgress id p).tasks.map Task.id = c.tasks.map Task.id := by
  simp only [setProgress, List.map_map]
  refine List.map_congr_left fun t _ => ?_
  simp only [Function.comp_apply]
  split <;> rfl

theorem ids_giveRoom (c : Collector) (id : TaskId) :
    (c.giveRoom id).tasks.map Task.id = c.tasks.map Task.id := by
  simp only [giveRoom, List.map_map]
  refine List.map_congr_left fun t _ => ?_
  simp only [Function.comp_apply]
  split
  · split <;> rfl
  · rfl

/-- tasks may have ended between `c` and `d`, but none has begun and none has got another number -/
def Fewer (c d : Collector) : Prop :=
  (d.tasks.map Task.id).Sublist (c.tasks.map Task.id) ∧ d.nextId = c.nextId

namespace Fewer

theorem refl {c d : Collector} (ids : d.tasks.map Task.id = c.tasks.map Task.id)
    (next : d.nextId = c.nextId) : Fewer c d :=
  ⟨ids ▸ List.Sublist.refl _, next⟩

theorem finish (c : Collector) (t : Task) (outcome : Outcome) : Fewer c (c.finish t outcome) :=
  ⟨(List.filter_sublist).map _, rfl⟩

theorem setProgress (c : Collector) (id : TaskId) (p : Progress) : Fewer c (c.setProgress id p) :=
  refl (ids_setProgress c id p) rfl

theorem respond (c : Collector) (t : Task) : Fewer c (c.respond t) := by
  unfold Collector.respond
  split
  · exact finish ..
  · rename_i k _
    cases k with
    | prematureClose => exact finish { c with faults := _, stopped := true } ..
    | timeout => exact setProgress { c with faults := _ } ..
    | error => exact finish { c with faults := _ } ..

theorem resume (c : Collector) (t : Task) (next : Next) : Fewer c (c.resume t next) := by
  cases next with
  | offer r next =>
    simp only [Collector.resume]
    split
    · exact finish ..
    · exact setProgress { c with pipeline := _ } ..
    · exact setProgress { c with pipeline := _ } ..
  | round s =>
    simp only [Collector.resume]
    split <;> exact setProgress ..
  | span s =>
    simp only [Collector.resume]
    split
    · exact setProgress ..
    · exact setProgress ..
    · exact finish ..
  | respond => exact respond c t
  | fetch what => exact setProgress { c with pipeline := _ } ..
  | sent => exact finish ..

theorem of_taskStep? {c d : Collector} {t : Task} (h : c.taskStep? t = some d) : Fewer c d := by
  unfold taskStep? at h
  split at h
  · exact Option.some.inj h ▸ resume ..
  · split at h
    · exact Option.some.inj h ▸ resume ..
    · simp at h
  · split at h
    · exact Option.some.inj h ▸ finish ..
    · simp at h
  · obtain ⟨result, -, rfl⟩ := Option.map_eq_some_iff.mp h
    cases result <;> exact finish ..
  · simp at h
  · simp at h

theorem of_read? {c d : Collector} (h : c.read? = some d) : Fewer c d := by
  obtain ⟨⟨id, p⟩, -, rfl⟩ := Option.map_eq_some_iff.mp h
  simp only
  split
  · exact refl rfl rfl
  · split
    · exact finish { c with pipeline := p } ..
    · exact refl rfl rfl

theorem of_take? {c d : Collector} (h : c.take? = some d) : Fewer c d := by
  obtain ⟨⟨roomFor, p⟩, -, rfl⟩ := Option.map_eq_some_iff.mp h
  simp only
  split
  · exact refl rfl rfl
  · exact refl (ids_giveRoom { c with pipeline := p } _) rfl

theorem of_pipelineStep? {c d : Collector} (h : c.pipelineStep? = some d) : Fewer c d := by
  simp only [pipelineStep?, Option.orElse_eq_orElse, Option.orElse_eq_or, Option.or_eq_some_iff] at h
  rcases h with h | ⟨-, h | ⟨-, h | ⟨-, h⟩⟩⟩
  · obtain ⟨p, -, rfl⟩ := Option.map_eq_some_iff.mp h
    exact refl rfl rfl
  · exact of_read? h
  · exact of_take? h
  · obtain ⟨p, -, rfl⟩ := Option.map_eq_some_iff.mp h
    exact refl rfl rfl

theorem of_move? {c d : Collector} (h : c.move? = some d) : Fewer c d := by
  simp only [move?, Option.orElse_eq_orElse, Option.orElse_eq_or, Option.or_eq_some_iff] at h
  rcases h with h | ⟨-, h⟩
  · obtain ⟨t, -, hs⟩ := List.exists_of_findSome?_eq_some h
    exact of_taskStep? hs
  · exact of_pipelineStep? h

end Fewer

theorem distinct_iff (c : Collector) :
    c.Distinct ↔ (c.tasks.map Task.id).Nodup ∧ ∀ id ∈ c.tasks.map Task.id, id < c.nextId := by
  simp [Distinct]

theorem Distinct.of_fewer {c d : Collector} (h : Fewer c d) (distinct : c.Distinct) :
    d.Distinct := by
  rw [distinct_iff] at distinct ⊢
  exact ⟨distinct.1.sublist h.1, fun id hid => h.2 ▸ distinct.2 id (h.1.subset hid)⟩

theorem distinct_start (p : Pipeline) (throttleDelay : Nat) : (start p throttleDelay).Distinct :=
  ⟨List.nodup_nil, fun _ h => absurd h List.not_mem_nil⟩

theorem distinct_begin {c : Collector} (p : Progress) (distinct : c.Distinct) :
    (c.begin p).2.Distinct := by
  rw [distinct_iff] at distinct ⊢
  have new : c.nextId ∉ c.tasks.map Task.id := fun h => Nat.lt_irrefl _ (distinct.2 _ h)
  simp only [begin, List.map_append, List.map_cons, List.map_nil]
  refine ⟨List.nodup_append.mpr ⟨distinct.1, by simp, ?_⟩, fun id hid => ?_⟩
  · rintro a ha b hb rfl
    exact new (List.mem_singleton.mp hb ▸ ha)
  · rcases List.mem_append.mp hid with h | h
    · exact Nat.lt_succ_of_lt (distinct.2 id h)
    · exact List.mem_singleton.mp h ▸ Nat.lt_succ_self _

theorem distinct_of_move? {c d : Collector} (distinct : c.Distinct) (h : c.move? = some d) :
    d.Distinct :=
  distinct.of_fewer (Fewer.of_move? h)

/-! ## rest -/

private theorem move?_settleWithin {n : Nat} {c : Collector} (distinct : c.Distinct)
    (enough : c.work ≤ n) : (settleWithin n c).move? = none := by
  induction n generalizing c with
  | zero =>
    cases h : c.move? with
    | none => exact h
    | some d => exact absurd (work_lt_of_move? distinct.1 h) (by omega)
  | succ n ih =>
    rw [settleWithin]
    split
    · assumption
    · rename_i d h
      have := work_lt_of_move? distinct.1 h
      exact ih (distinct_of_move? distinct h) (by omega)

theorem move?_settle {c : Collector} (distinct : c.Distinct) : c.settle.move? = none :=
  move?_settleWithin distinct (Nat.le_refl _)

private theorem distinct_settleWithin {n : Nat} {c : Collector} (distinct : c.Distinct) :
    (settleWithin n c).Distinct := by
  induction n generalizing c with
  | zero => exact distinct
  | succ n ih =>
    rw [settleWithin]
    split
    · exact distinct
    · rename_i h
      exact ih (distinct_of_move? distinct h)

theorem distinct_settle {c : Collector} (distinct : c.Distinct) : c.settle.Distinct :=
  distinct_settleWithin distinct

/-- a collector at rest has nothing more to settle -/
theorem settle_of_move?_eq_none {c : Collector} (h : c.move? = none) : c.settle = c := by
  unfold settle
  cases c.work with
  | zero => rfl
  | succ n => rw [settleWithin, h]

theorem settle_settle {c : Collector} (distinct : c.Distinct) : c.settle.settle = c.settle :=
  settle_of_move?_eq_none (move?_settle distinct)

end Collector

end MockCollector
