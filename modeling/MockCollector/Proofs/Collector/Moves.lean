import MockCollector.Proofs.Collector.Faults
/-!
# What moves leave as it is

* `Collector.spare`        how many rights to send belong to no task;
* `Collector.Goes c d`     from `c` to `d` they are as many, the clock stands still, the store is locked if it
                           was, and a pause that begins is as long as pauses are;
* `Sound.goes`             every move goes so.

The changes that moves are made of go so: of the pipeline (`Goes.withPipeline`) and of one task
(`Goes.finish`, `Goes.setProgress`), one after the other (`Goes.trans`).
-/

namespace MockCollector.Collector

def spare (c : Collector) : Nat := c.pipeline.senders - c.owners

structure Goes (c d : Collector) : Prop where
  now : d.now = c.now
  delay : d.throttleDelay = c.throttleDelay
  locked : d.pipeline.locked = c.pipeline.locked
  spare : d.spare = c.spare
  pauses : ∀ u ∈ d.tasks, ∀ wake n, u.progress = .pausing wake n →
    u ∈ c.tasks ∨ wake = c.now + c.throttleDelay

variable {c d e : Collector} {t : Task}

namespace Goes

theorem refl (c : Collector) : Goes c c := ⟨rfl, rfl, rfl, rfl, fun _ hu _ _ _ => Or.inl hu⟩

theorem trans (first : Goes c d) (last : Goes d e) : Goes c e where
  now := last.now.trans first.now
  delay := last.delay.trans first.delay
  locked := last.locked.trans first.locked
  spare := last.spare.trans first.spare
  pauses u hu wake n hn := by
    rcases last.pauses u hu wake n hn with old | new
    · exact first.pauses u old wake n hn
    · rw [first.now, first.delay] at new
      exact Or.inr new

theorem withPipeline {p : Pipeline} (senders : p.senders = c.pipeline.senders)
    (locked : p.locked = c.pipeline.locked) : Goes c { c with pipeline := p } where
  now := rfl
  delay := rfl
  locked := locked
  spare := congrArg (· - c.owners) senders
  pauses _ hu _ _ _ := Or.inl hu

theorem withFaults (c : Collector) (faults : Faults) (stopped : Bool) :
    Goes c { c with faults := faults, stopped := stopped } := { refl c with }

/-! ## one task -/

section
variable (nodup : (c.tasks.map Task.id).Nodup) (ht : t ∈ c.tasks)
include nodup ht

theorem finish (o : Outcome) : Goes c (c.finish t o) where
  now := rfl
  delay := rfl
  locked := by
    show (if t.ownsSender then c.pipeline.dropSender else c.pipeline).locked = _
    split <;> rfl
  spare := by
    have owners := owners_finish nodup ht o
    show (if t.ownsSender then c.pipeline.dropSender else c.pipeline).senders - _
      = c.pipeline.senders - c.owners
    split at owners
    · rename_i owns
      rw [if_pos owns]
      show c.pipeline.senders - 1 - _ = _
      omega
    · rename_i other
      rw [if_neg other]
      omega
  pauses _ hu _ _ _ := Or.inl (List.mem_of_mem_filter hu)

theorem setProgress {p : Progress} (was : t.progress ≠ .draining) (is : p ≠ .draining)
    (long : ∀ wake n, p = .pausing wake n → wake = c.now + c.throttleDelay) :
    Goes c (c.setProgress t.id p) where
  now := rfl
  delay := rfl
  locked := rfl
  spare := congrArg (c.pipeline.senders - ·) (owners_setProgress nodup ht was is)
  pauses u hu wake n hn := by
    obtain ⟨v, hv, rfl⟩ := List.mem_map.mp hu
    by_cases same : v.id = t.id
    · rw [if_pos same] at hn
      exact Or.inr (long wake n hn)
    · rw [if_neg same]
      exact Or.inl hv

theorem respond (was : t.progress ≠ .draining) : Goes c (c.respond t) := by
  unfold Collector.respond
  split
  · exact finish nodup ht _
  · rename_i k _
    let spent : Collector := { c with faults := (c.faults.consume k).2 }
    have spends : Goes c spent := withFaults c _ _
    cases k with
    | prematureClose =>
      have closes : Goes c { spent with stopped := true } := withFaults c _ _
      exact closes.trans (finish (c := { spent with stopped := true }) nodup ht _)
    | timeout => exact spends.trans (setProgress (c := spent) nodup ht was nofun nofun)
    | error => exact spends.trans (finish (c := spent) nodup ht _)

theorem resume (was : t.progress ≠ .draining) (n : Next) : Goes c (c.resume t n) := by
  have goesOn (p : Pipeline) (pipeline : Goes c { c with pipeline := p }) (q : Progress)
      (is : q ≠ .draining) (awake : ∀ wake n, q ≠ .pausing wake n) :
      Goes c (({ c with pipeline := p } : Collector).setProgress t.id q) :=
    pipeline.trans (setProgress (c := { c with pipeline := p }) nodup ht was is
      fun wake n pauses => absurd pauses (awake wake n))
  cases n with
  | offer r n =>
    simp only [Collector.resume]
    split
    · exact finish nodup ht _
    · rename_i p ho
      obtain ⟨-, -, same⟩ := Pipeline.offer_eq_accepted ho
      exact goesOn p (withPipeline (same ▸ rfl) (same ▸ rfl)) (.ready n) Progress.noConfusion
        fun _ _ => Progress.noConfusion
    · rename_i p ho
      obtain ⟨-, same⟩ := Pipeline.offer_eq_waits ho
      exact goesOn p (withPipeline (same ▸ rfl) (same ▸ rfl)) (.queued n) Progress.noConfusion
        fun _ _ => Progress.noConfusion
  | round s =>
    simp only [Collector.resume]
    split
    · refine setProgress nodup ht was Progress.noConfusion ?_
      rintro _ _ ⟨⟩
      rfl
    · exact setProgress nodup ht was Progress.noConfusion fun _ _ => Progress.noConfusion
  | span s =>
    simp only [Collector.resume]
    split
    · exact setProgress nodup ht was Progress.noConfusion fun _ _ => Progress.noConfusion
    · exact setProgress nodup ht was Progress.noConfusion fun _ _ => Progress.noConfusion
    · exact finish nodup ht _
  | respond => exact respond nodup ht was
  | fetch what =>
    exact goesOn (c.pipeline.queueReader t.id) (withPipeline rfl rfl) (.fetching what)
      Progress.noConfusion fun _ _ => Progress.noConfusion
  | sent => exact finish nodup ht _

theorem taskStep? (hd : c.taskStep? t = some d) : Goes c d := by
  cases hn : t.progress.next? with
  | none =>
    obtain ⟨o, rfl, -⟩ := taskStep?_of_waiting hd hn
    exact finish nodup ht o
  | some n =>
    obtain rfl := taskStep?_of_next? hd hn
    refine resume nodup ht ?_ n
    intro drains
    rw [drains] at hn
    cases hn

end

/-! ## the pipeline -/

theorem giveRoom (c : Collector) (id : TaskId) : Goes c (c.giveRoom id) where
  now := rfl
  delay := rfl
  locked := rfl
  spare := by
    have owners : (c.giveRoom id).owners = c.owners := by
      unfold Collector.owners Collector.giveRoom
      rw [List.filter_map, List.length_map]
      refine congrArg List.length (List.filter_congr fun u _ => ?_)
      rw [Function.comp_apply, Bool.eq_iff_iff, Task.ownsSender_iff, Task.ownsSender_iff]
      split
      · rename_i n hn
        rw [hn]
        split
        · exact ⟨fun _ => Progress.noConfusion, fun _ => Progress.noConfusion⟩
        · rw [hn]
      · rfl
    exact congrArg (c.pipeline.senders - ·) owners
  pauses u hu wake n hn := by
    obtain ⟨v, hv, rfl⟩ := List.mem_map.mp hu
    split at hn
    · rename_i next hq
      split at hn
      · cases hn
      · rw [hq] at hn
        cases hn
    · exact Or.inl hv

theorem take? (hd : c.take? = some d) : Goes c d := by
  obtain ⟨⟨told, p⟩, hp, rfl⟩ := Option.map_eq_some_iff.mp hd
  obtain ⟨r, rest, -, -, -, rfl⟩ := Pipeline.take?_eq_some hp
  have takes : Goes c { c with pipeline := { c.pipeline with
      consumer := .holding r, line := c.pipeline.line ++ [Waiter.consumer]
      queue := rest ++ (c.pipeline.waiting.map Prod.snd).take 1
      waiting := c.pipeline.waiting.drop 1 } } := withPipeline rfl rfl
  cases told with
  | none => exact takes
  | some id => exact takes.trans (giveRoom _ id)

theorem read? (nodup : (c.tasks.map Task.id).Nodup) (hd : c.read? = some d) : Goes c d := by
  obtain ⟨⟨id, p⟩, hp, rfl⟩ := Option.map_eq_some_iff.mp hd
  obtain ⟨line, -, -, rfl⟩ := Pipeline.read?_eq_some hp
  have reads : Goes c { c with pipeline := { c.pipeline with line := line } } := withPipeline rfl rfl
  simp only
  split
  · exact reads
  · rename_i t ht
    split
    · exact reads.trans (finish (c := { c with pipeline := { c.pipeline with line := line } }) nodup
        (List.mem_of_find?_eq_some ht) _)
    · exact reads

end Goes

/-- **A move leaves the clock, the lock and the rights of the owner as they are.** -/
theorem Sound.goes (h : c.Sound) (hm : c.move? = some d) : Goes c d := by
  have nodup := h.nodup
  simp only [move?, pipelineStep?, Option.orElse_eq_orElse, Option.orElse_eq_or, Option.or_eq_some_iff]
    at hm
  rcases hm with hm | ⟨-, hm | ⟨-, hm | ⟨-, hm | ⟨-, hm⟩⟩⟩⟩
  · obtain ⟨t, ht, hs⟩ := List.exists_of_findSome?_eq_some hm
    exact Goes.taskStep? nodup ht hs
  · obtain ⟨p, hp, rfl⟩ := Option.map_eq_some_iff.mp hm
    obtain ⟨r, line, -, -, -, rfl⟩ := Pipeline.store?_eq_some hp
    exact Goes.withPipeline rfl rfl
  · exact Goes.read? nodup hm
  · exact Goes.take? hm
  · obtain ⟨p, hp, rfl⟩ := Option.map_eq_some_iff.mp hm
    obtain ⟨-, -, -, rfl⟩ := Pipeline.finish?_eq_some hp
    exact Goes.withPipeline rfl rfl

end MockCollector.Collector
