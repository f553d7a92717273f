import Mathlib.Data.List.Nodup
import MockCollector.Proofs.Collector.Runs
/-!
# Soundness of a collector

* `Collector.Sound`        what holds in every state of a run: tasks have numbers of their own, own no more
                           rights to send than there are, and wait for room only if the pipeline knows;
* `Collector.Kept c d`     from `c` to `d` no task has done anything;
* `Collector.Moved c d id s`   from `c` to `d` the task `id` alone has come to the stage `s`.

What steps do to the rights of tasks is counted (`owners_setProgress`, `owners_finish`, `owners_begin`).
The changes that steps are made of keep a collector sound: of the pipeline (`Kept.withPipeline`), of one
task (`Moved.setProgress`, `Moved.finish`), and a task that begins (`Kept.begin`, `Kept.once`).
-/

namespace MockCollector

theorem Task.ownsSender_iff {t : Task} : t.ownsSender = true ↔ t.progress ≠ .draining := bne_iff_ne

/-- whether a task waits neither for room nor for the drain -/
def Progress.isFree : Progress → Bool
  | .queued _ => false
  | .draining => false
  | _ => true

namespace Collector

structure Sound (c : Collector) : Prop where
  ids : (c.tasks.map Task.id ++ c.ended.map Ended.id).Nodup
  fresh : ∀ id ∈ c.tasks.map Task.id ++ c.ended.map Ended.id, id < c.nextId
  owners : c.owners ≤ c.pipeline.senders
  coupled : c.pipeline.Coupled
  queued : ∀ t ∈ c.tasks, ∀ n, t.progress = .queued n → t.id ∈ c.pipeline.waiting.map Prod.fst

structure Kept (c d : Collector) : Prop where
  sound : d.Sound
  stages : ∀ id s, c.At id s → d.At id s

structure Moved (c d : Collector) (id : TaskId) (s : Stage) : Prop where
  sound : d.Sound
  reached : d.At id s
  others : ∀ i s, i ≠ id → c.At i s → d.At i s

variable {c : Collector} {t u : Task}

namespace Sound

theorem start {capacity : Nat} {store : ReportStore} {p : Pipeline} (throttleDelay : Nat)
    (started : Pipeline.start capacity store = .ok p) : (Collector.start p throttleDelay).Sound where
  ids := List.nodup_nil
  fresh _ h := absurd h List.not_mem_nil
  owners := Nat.zero_le _
  coupled := (Pipeline.Coupled.start started).1
  queued _ h := absurd h List.not_mem_nil

/-! ## numbers -/

theorem nodup (h : c.Sound) : (c.tasks.map Task.id).Nodup := (List.nodup_append.mp h.ids).1

theorem eq_of_id (h : c.Sound) (ht : t ∈ c.tasks) (hu : u ∈ c.tasks) (same : u.id = t.id) : u = t :=
  List.inj_on_of_nodup_map h.nodup hu ht same

/-- a task is in one stage at a time -/
theorem at_unique (h : c.Sound) {id : TaskId} {s s' : Stage} (hs : c.At id s) (hs' : c.At id s') :
    s = s' := by
  obtain ⟨-, ended, apart⟩ := List.nodup_append.mp h.ids
  have differ : ∀ t ∈ c.tasks, ∀ e ∈ c.ended, t.id ≠ e.id := fun t ht e he =>
    apart _ (List.mem_map_of_mem ht) _ (List.mem_map_of_mem he)
  cases s with
  | underway p =>
    obtain ⟨t, ht, rfl, rfl⟩ := hs
    cases s' with
    | underway q =>
      obtain ⟨u, hu, same, rfl⟩ := hs'
      rw [h.eq_of_id ht hu same]
    | ended o =>
      obtain ⟨e, he, same, -⟩ := hs'
      exact absurd same.symm (differ t ht e he)
  | ended o =>
    obtain ⟨e, he, rfl, rfl⟩ := hs
    cases s' with
    | underway q =>
      obtain ⟨u, hu, same, -⟩ := hs'
      exact absurd same (differ u hu e he)
    | ended o =>
      obtain ⟨f, hf, same, rfl⟩ := hs'
      rw [List.inj_on_of_nodup_map ended hf he same]

theorem lt_nextId (h : c.Sound) {id : TaskId} {s : Stage} (hs : c.At id s) : id < c.nextId := by
  refine h.fresh id (List.mem_append.mpr ?_)
  cases s with
  | underway p =>
    obtain ⟨t, ht, rfl, -⟩ := hs
    exact Or.inl (List.mem_map_of_mem ht)
  | ended o =>
    obtain ⟨e, he, rfl, -⟩ := hs
    exact Or.inr (List.mem_map_of_mem he)

end Sound

/-! ## rights to send -/

section
variable (nodup : (c.tasks.map Task.id).Nodup) (ht : t ∈ c.tasks)
include nodup ht

/-- one task and the others -/
theorem perm_tasks : c.tasks.Perm (t :: c.tasks.filter fun u => u.id != t.id) := by
  obtain ⟨before, after, split⟩ := List.append_of_mem ht
  have others : ∀ u ∈ before ++ after, (u.id != t.id) = true := by
    intro u hu
    rw [split, List.map_append, List.map_cons, List.nodup_middle, ← List.map_append] at nodup
    refine bne_iff_ne.mpr fun same => ?_
    exact (List.nodup_cons.mp nodup).1 (same ▸ List.mem_map_of_mem hu)
  have left : (c.tasks.filter fun u => u.id != t.id) = before ++ after := by
    rw [split, List.filter_append, List.filter_cons_of_neg (by simp), ← List.filter_append]
    exact List.filter_eq_self.mpr others
  rw [left, split]
  exact List.perm_middle

theorem owners_setProgress {p : Progress} (was : t.progress ≠ .draining) (is : p ≠ .draining) :
    (c.setProgress t.id p).owners = c.owners := by
  unfold Collector.owners Collector.setProgress
  rw [List.filter_map, List.length_map]
  refine congrArg List.length (List.filter_congr fun u hu => ?_)
  show Task.ownsSender (if u.id = t.id then _ else u) = u.ownsSender
  by_cases same : u.id = t.id
  · rw [if_pos same, List.inj_on_of_nodup_map nodup hu ht same]
    exact (Task.ownsSender_iff.mpr is).trans (Task.ownsSender_iff.mpr was).symm
  · rw [if_neg same]

theorem owners_finish (o : Outcome) :
    (c.finish t o).owners + (if t.ownsSender then 1 else 0) = c.owners := by
  unfold Collector.owners
  rw [((perm_tasks nodup ht).filter _).length_eq, List.filter_cons]
  split <;> rfl

end

theorem owners_begin (c : Collector) (p : Progress) :
    (c.begin p).2.owners = c.owners + if p ≠ .draining then 1 else 0 := by
  show ((c.tasks ++ [_]).filter Task.ownsSender).length = _
  rw [List.filter_append, List.length_append]
  refine congrArg (c.owners + ·) ?_
  rw [List.filter_cons]
  by_cases drains : p = .draining
  · rw [if_neg fun owns => Task.ownsSender_iff.mp owns drains, if_neg fun h => h drains]
    rfl
  · rw [if_pos (Task.ownsSender_iff.mpr drains), if_pos drains]
    rfl

theorem pipeline_begin (c : Collector) (p : Progress) :
    (c.begin p).2.pipeline = if p ≠ .draining then c.pipeline.addSender else c.pipeline :=
  if_congr Task.ownsSender_iff rfl rfl

/-! ## the pipeline -/

theorem Kept.withPipeline (h : c.Sound) {p : Pipeline} (coupled : p.Coupled)
    (senders : c.owners ≤ p.senders)
    (queued : ∀ t ∈ c.tasks, ∀ n, t.progress = .queued n → t.id ∈ p.waiting.map Prod.fst) :
    Kept c { c with pipeline := p } where
  sound := { h with owners := senders, coupled := coupled, queued := queued }
  stages _ _ hs := hs

/-! ## one task -/

theorem Moved.after {d e : Collector} {id : TaskId} {s : Stage} (first : Kept c d)
    (m : Moved d e id s) : Moved c e id s :=
  ⟨m.sound, m.reached, fun i s other hs => m.others i s other (first.stages i s hs)⟩

theorem Moved.before {d e : Collector} {id : TaskId} {s : Stage} (m : Moved c d id s)
    (last : Kept d e) : Moved c e id s :=
  ⟨last.sound, last.stages _ _ m.reached, fun i s other hs => last.stages _ _ (m.others i s other hs)⟩

theorem Moved.setProgress (h : c.Sound) (ht : t ∈ c.tasks) {p : Progress} (was : t.progress ≠ .draining)
    (is : p ≠ .draining) (waits : ∀ n, p = .queued n → t.id ∈ c.pipeline.waiting.map Prod.fst) :
    Moved c (c.setProgress t.id p) t.id (.underway p) := by
  have owners : (c.setProgress t.id p).owners = c.owners :=
    owners_setProgress h.nodup ht was is
  constructor
  · refine { h with ids := ?_, fresh := ?_, owners := ?_, queued := ?_ }
    · rw [ids_setProgress]
      exact h.ids
    · rw [ids_setProgress]
      exact h.fresh
    · rw [owners]
      exact h.owners
    · intro u hu n hn
      obtain ⟨v, hv, rfl⟩ := List.mem_map.mp hu
      by_cases same : v.id = t.id
      · rw [if_pos same] at hn ⊢
        exact same ▸ waits n hn
      · rw [if_neg same] at hn ⊢
        exact h.queued v hv n hn
  · refine ⟨_, List.mem_map_of_mem ht, ?_⟩
    rw [if_pos rfl]
    exact ⟨rfl, rfl⟩
  · intro i s other hs
    cases s with
    | underway q =>
      obtain ⟨u, hu, rfl, hq⟩ := hs
      refine ⟨_, List.mem_map_of_mem hu, ?_⟩
      rw [if_neg other]
      exact ⟨rfl, hq⟩
    | ended o => exact hs

theorem Moved.finish (h : c.Sound) (ht : t ∈ c.tasks) (o : Outcome) :
    Moved c (c.finish t o) t.id (.ended o) := by
  have nodup := h.nodup
  have perm := perm_tasks nodup ht
  have ids : ((c.finish t o).tasks.map Task.id ++ (c.finish t o).ended.map Ended.id).Perm
      (c.tasks.map Task.id ++ c.ended.map Ended.id) := by
    refine List.Perm.symm (((perm.map Task.id).append_right _).trans ?_)
    show (t.id :: (_ ++ _)).Perm (_ ++ (c.ended ++ [_]).map Ended.id)
    rw [List.map_append, ← List.append_assoc]
    exact (List.perm_append_singleton _ _).symm
  have owners := owners_finish nodup ht o
  constructor
  · refine { ids := ?_, fresh := ?_, owners := ?_, coupled := ?_, queued := ?_ }
    · exact ids.nodup_iff.mpr h.ids
    · intro id hid
      exact h.fresh id (ids.mem_iff.mp hid)
    · have enough := h.owners
      show _ ≤ (if t.ownsSender then c.pipeline.dropSender else c.pipeline).senders
      split
      · rename_i owns
        rw [if_pos owns] at owners
        show _ ≤ c.pipeline.senders - 1
        omega
      · omega
    · show (if t.ownsSender then c.pipeline.dropSender else c.pipeline).Coupled
      split
      · exact h.coupled.dropSender
      · exact h.coupled
    · intro u hu n hn
      have waiting : (c.finish t o).pipeline.waiting = c.pipeline.waiting := by
        show (if t.ownsSender then c.pipeline.dropSender else c.pipeline).waiting = _
        split <;> rfl
      rw [waiting]
      exact h.queued u (List.mem_of_mem_filter hu) n hn
  · exact ⟨_, List.mem_append_right _ (List.mem_singleton.mpr rfl), rfl, rfl⟩
  · intro i s other hs
    cases s with
    | underway q =>
      obtain ⟨u, hu, rfl, hq⟩ := hs
      exact ⟨u, List.mem_filter.mpr ⟨hu, bne_iff_ne.mpr other⟩, rfl, hq⟩
    | ended o =>
      obtain ⟨e, he, same⟩ := hs
      exact ⟨e, List.mem_append_left _ he, same⟩

/-! ## beginnings -/

theorem Kept.begin (h : c.Sound) (p : Progress) (fresh : ∀ n, p ≠ .queued n)
    (right : p ≠ .draining → c.owners < c.pipeline.senders) : Kept c (c.begin p).2 := by
  have new : c.nextId ∉ c.tasks.map Task.id ++ c.ended.map Ended.id := fun mem =>
    Nat.lt_irrefl _ (h.fresh _ mem)
  have ids : ((c.begin p).2.tasks.map Task.id ++ (c.begin p).2.ended.map Ended.id).Perm
      (c.nextId :: (c.tasks.map Task.id ++ c.ended.map Ended.id)) := by
    show ((c.tasks ++ [_]).map Task.id ++ c.ended.map Ended.id).Perm _
    rw [List.map_append, List.append_assoc]
    exact List.perm_middle
  have owned := owners_begin c p
  have pipeline := pipeline_begin c p
  constructor
  · refine { ids := ?_, fresh := ?_, owners := ?_, coupled := ?_, queued := ?_ }
    · exact ids.nodup_iff.mpr (List.nodup_cons.mpr ⟨new, h.ids⟩)
    · intro id hid
      rcases List.mem_cons.mp (ids.mem_iff.mp hid) with rfl | old
      · exact Nat.lt_succ_self _
      · exact Nat.lt_succ_of_lt (h.fresh id old)
    · have enough := h.owners
      rw [owned, pipeline]
      split
      · exact Nat.succ_le_succ enough
      · exact enough
    · rw [pipeline]
      split
      · rename_i sends
        exact h.coupled.addSender (Nat.zero_lt_of_lt (right sends))
      · exact h.coupled
    · intro t ht n hn
      have waiting : (c.begin p).2.pipeline.waiting = c.pipeline.waiting := by
        rw [pipeline]
        split <;> rfl
      rw [waiting]
      rcases List.mem_append.mp ht with old | new
      · exact h.queued t old n hn
      · rw [List.mem_singleton.mp new] at hn
        exact absurd hn (fresh n)
  · intro id s hs
    cases s with
    | underway q =>
      obtain ⟨t, ht, same⟩ := hs
      exact ⟨t, List.mem_append_left _ ht, same⟩
    | ended o => exact hs

theorem Kept.launch (h : c.Sound) (n : Next) (right : c.owners < c.pipeline.senders) :
    Kept c (c.launch n) :=
  Kept.begin h (.ready n) (fun _ => Progress.noConfusion) (fun _ => right)

theorem Kept.once (h : c.Sound) (o : Outcome) (right : c.owners < c.pipeline.senders) :
    Kept c (c.once o) ∧ (c.once o).At c.nextId (.ended o) := by
  have first := Kept.launch h .respond right
  have mem : ⟨c.nextId, c.now, .ready .respond⟩ ∈ (c.launch .respond).tasks :=
    List.mem_append_right _ (List.mem_singleton.mpr rfl)
  have m := Moved.after first (Moved.finish first.sound mem o)
  refine ⟨⟨m.sound, fun id s hs => ?_⟩, m.reached⟩
  -- the tasks of `c` have smaller numbers than the one that came and went
  exact m.others id s (Nat.ne_of_lt (h.lt_nextId hs)) hs

end Collector

end MockCollector
