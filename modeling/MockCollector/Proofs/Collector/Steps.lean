import MockCollector.Proofs.Collector.Soundness
/-!
# What a collector does in one step

* `Sound.resume`, `Sound.taskStep?`   a task that goes on comes to a stage that it may come to, and the
                          pipeline gets what it hands over, behind all that is incoming already;
* `Sound.take?`, `Sound.read?`        the pipeline tells one task at most;
* `Sound.happen?`         so whatever happens leaves all tasks alone or moves one of them, as it may;
* `Sound.stays_or_leads`   what that means for one task;
* `Fares c d id e s`       and for one in the stage `s` when `e` happens (`Sound.fares`).
-/

namespace MockCollector.Collector

variable {c d : Collector} {t : Task}

theorem incoming_finish (c : Collector) (t : Task) (o : Outcome) :
    (c.finish t o).pipeline.incoming = c.pipeline.incoming := by
  show (if t.ownsSender then c.pipeline.dropSender else c.pipeline).incoming = _
  split <;> rfl

/-- the collector with other faults, or stopped: its tasks and its pipeline are what they were -/
theorem Kept.withFaults (h : c.Sound) (faults : Faults) (stopped : Bool) :
    Kept c { c with faults := faults, stopped := stopped } where
  sound := { h with }
  stages _ _ hs := hs

/-- how a task fares in its stage when `e` leads from `c` to `d` -/
inductive Fares (c d : Collector) (id : TaskId) : Happening → Stage → Prop where
  /-- it is left alone -/
  | stays {e : Happening} {s : Stage} (other : e ≠ .go id) (still : d.At id s) : Fares c d id e s
  | goes {t : Task} (ht : t ∈ c.tasks) (same : t.id = id) (hd : c.taskStep? t = some d) :
    Fares c d id (.go id) (.underway t.progress)
  | hasRoom {n : Next} (ready : d.At id (.underway (.ready n))) :
    Fares c d id .take (.underway (.queued n))
  | served {what : Listing} {a : Answer} (answered : d.At id (.ended (.answered a))) :
    Fares c d id .read (.underway (.fetching what))

theorem Moved.proceed (h : c.Sound) (ht : t ∈ c.tasks) (was : t.progress ≠ .draining) (p : Progress)
    (free : p.isFree = true) : Moved c (c.setProgress t.id p) t.id (.underway p) := by
  refine Moved.setProgress h ht was ?_ ?_
  · rintro rfl
    cases free
  · rintro n rfl
    cases free

namespace Sound

/-! ## tasks that go on -/

theorem senders_pos (h : c.Sound) (ht : t ∈ c.tasks) (was : t.progress ≠ .draining) :
    0 < c.pipeline.senders := by
  have mem : t ∈ c.tasks.filter Task.ownsSender :=
    List.mem_filter.mpr ⟨ht, Task.ownsSender_iff.mpr was⟩
  have owned : 0 < c.owners := List.length_pos_of_mem mem
  exact Nat.lt_of_lt_of_le owned h.owners

theorem respond (h : c.Sound) (ht : t ∈ c.tasks) (was : t.progress ≠ .draining) :
    ∃ s, Next.respond.Leads [] s ∧ Moved c (c.respond t) t.id s ∧
      (c.respond t).pipeline.incoming = c.pipeline.incoming := by
  cases hf : c.faults.first? with
  | none =>
    simp only [Collector.respond, hf]
    exact ⟨_, .answered _, Moved.finish h ht _, incoming_finish c t _⟩
  | some k =>
    cases k with
    | prematureClose =>
      simp only [Collector.respond, hf]
      have kept := Kept.withFaults h (c.faults.consume .prematureClose).2 true
      exact ⟨_, .dropped, Moved.after kept (Moved.finish kept.sound ht _), incoming_finish _ t _⟩
    | timeout =>
      simp only [Collector.respond, hf]
      have kept := Kept.withFaults h (c.faults.consume .timeout).2 c.stopped
      have m := Moved.proceed kept.sound ht was .held rfl
      exact ⟨_, .held, Moved.after kept m, rfl⟩
    | error =>
      simp only [Collector.respond, hf]
      have kept := Kept.withFaults h (c.faults.consume .error).2 c.stopped
      exact ⟨_, .answered _, Moved.after kept (Moved.finish kept.sound ht _), incoming_finish _ t _⟩

/-- a report that is handed over is queued, or it waits: nobody who sends is refused -/
theorem offer (h : c.Sound) (ht : t ∈ c.tasks) (was : t.progress ≠ .draining) (r : Report) (n : Next) :
    ∃ s, (Next.offer r n).Leads [r] s ∧ Moved c (c.resume t (.offer r n)) t.id s ∧
      (c.resume t (.offer r n)).pipeline.incoming = c.pipeline.incoming ++ [r] := by
  have sends := h.senders_pos ht was
  cases ho : c.pipeline.offer t.id r with
  | refused => exact absurd ho (h.coupled.not_refused sends)
  | accepted p =>
    simp only [Collector.resume, ho]
    have coupled := h.coupled.offer_accepted sends ho
    have incoming := Pipeline.incoming_of_offer (Or.inl ho)
    obtain ⟨-, -, rfl⟩ := Pipeline.offer_eq_accepted ho
    have kept := Kept.withPipeline h coupled h.owners h.queued
    have m := Moved.proceed kept.sound ht was (.ready n) rfl
    exact ⟨_, .accepted r n, Moved.after kept m, incoming⟩
  | waits p =>
    simp only [Collector.resume, ho]
    have coupled := h.coupled.offer_waits ho
    have incoming := Pipeline.incoming_of_offer (Or.inr ho)
    obtain ⟨-, rfl⟩ := Pipeline.offer_eq_waits ho
    have known : ∀ id ∈ t.id :: c.pipeline.waiting.map Prod.fst,
        id ∈ (c.pipeline.waiting ++ [(t.id, r)]).map Prod.fst := by
      intro id hid
      rw [List.map_append]
      exact (List.perm_append_singleton t.id _).mem_iff.mpr hid
    have kept := Kept.withPipeline h coupled h.owners
      (fun u hu n hn => known u.id (List.mem_cons_of_mem _ (h.queued u hu n hn)))
    have m := Moved.setProgress kept.sound ht was (p := .queued n) Progress.noConfusion
      (fun _ _ => known t.id List.mem_cons_self)
    exact ⟨_, .waits r n, Moved.after kept m, incoming⟩

theorem resume (h : c.Sound) (ht : t ∈ c.tasks) (was : t.progress ≠ .draining) (n : Next) :
    ∃ rs s, n.Leads rs s ∧ Moved c (c.resume t n) t.id s ∧
      (c.resume t n).pipeline.incoming = c.pipeline.incoming ++ rs := by
  have same := (List.append_nil c.pipeline.incoming).symm
  have goes := Moved.proceed h ht was
  cases n with
  | offer r n => exact ⟨[r], h.offer ht was r n⟩
  | round s =>
    simp only [Collector.resume]
    by_cases throttled : c.faults.throttle = true
    · rw [if_pos throttled]
      exact ⟨_, _, .pauses s _, goes (.pausing _ (.span s)) rfl, same⟩
    · rw [if_neg throttled]
      exact ⟨_, _, .reads s, goes (.ready (.span s)) rfl, same⟩
  | span s =>
    cases hs : s.next with
    | ended =>
      simp only [Collector.resume, hs]
      exact ⟨_, _, .ended hs, goes (.ready .respond) rfl, same⟩
    | span r rest =>
      simp only [Collector.resume, hs]
      exact ⟨_, _, .item hs, goes (.ready (.offer r (.round rest))) rfl, same⟩
    | violated v =>
      simp only [Collector.resume, hs]
      exact ⟨_, _, .violated hs, Moved.finish h ht _, (incoming_finish c t _).trans same⟩
  | respond =>
    obtain ⟨s, leads, m, incoming⟩ := h.respond ht was
    exact ⟨_, s, leads, m, incoming.trans same⟩
  | fetch what =>
    have kept := Kept.withPipeline h (h.coupled.queueReader (t := t.id)) h.owners h.queued
    have m := Moved.proceed kept.sound ht was (.fetching what) rfl
    exact ⟨_, _, .fetches what, Moved.after kept m, same⟩
  | sent => exact ⟨_, _, .sent, Moved.finish h ht _, (incoming_finish c t _).trans same⟩

theorem taskStep? (h : c.Sound) (ht : t ∈ c.tasks) (hd : c.taskStep? t = some d) :
    ∃ rs s, t.progress.Leads rs s ∧ Moved c d t.id s ∧
      d.pipeline.incoming = c.pipeline.incoming ++ rs := by
  unfold Collector.taskStep? at hd
  cases hp : t.progress with
  | ready n =>
    rw [hp] at hd
    cases hd
    obtain ⟨rs, s, leads, m, incoming⟩ := h.resume ht (hp ▸ Progress.noConfusion) n
    exact ⟨rs, s, .goes leads, m, incoming⟩
  | queued n =>
    rw [hp] at hd
    cases hd
  | pausing wake n =>
    rw [hp] at hd
    obtain ⟨-, same⟩ := Option.ite_none_right_eq_some.mp hd
    cases same
    obtain ⟨rs, s, leads, m, incoming⟩ := h.resume ht (hp ▸ Progress.noConfusion) n
    exact ⟨rs, s, .wakes wake leads, m, incoming⟩
  | fetching what =>
    rw [hp] at hd
    cases hd
  | held =>
    rw [hp] at hd
    obtain ⟨-, same⟩ := Option.ite_none_right_eq_some.mp hd
    cases same
    refine ⟨_, _, .released, Moved.finish h ht _, ?_⟩
    rw [incoming_finish, List.append_nil]
  | draining =>
    rw [hp] at hd
    obtain ⟨result, drained, rfl⟩ := Option.map_eq_some_iff.mp hd
    cases result with
    | ok n =>
      refine ⟨_, _, .drained n, Moved.finish h ht _, ?_⟩
      rw [incoming_finish, List.append_nil]
    | error e =>
      -- only a consumer that was done away with has lost count
      unfold Pipeline.drained? at drained
      cases hc : c.pipeline.consumer with
      | killed => exact absurd hc h.coupled.alive
      | idle => simp [hc] at drained
      | holding r => simp [hc] at drained
      | finished => simp [hc] at drained

/-! ## what the pipeline tells -/

theorem giveRoom_of_queued (h : c.Sound) (ht : t ∈ c.tasks) {n : Next} (hn : t.progress = .queued n) :
    c.giveRoom t.id = c.setProgress t.id (.ready n) := by
  unfold Collector.giveRoom Collector.setProgress
  refine congrArg (fun tasks => { c with tasks := tasks }) (List.map_congr_left fun u hu => ?_)
  by_cases same : u.id = t.id
  · rw [h.eq_of_id ht hu same, hn]
  · rw [if_neg same]
    split
    · exact if_neg same
    · rfl

theorem giveRoom_of_none {id : TaskId} (none : ∀ t ∈ c.tasks, t.id = id → ∀ n, t.progress ≠ .queued n) :
    c.giveRoom id = c := by
  unfold Collector.giveRoom
  refine (congrArg (fun tasks => { c with tasks := tasks }) ?_ : _ = { c with tasks := c.tasks })
  refine (List.map_congr_left fun t ht => ?_).trans (List.map_id c.tasks)
  split
  · rename_i n hn
    exact if_neg fun same => none t ht same n hn
  · rfl

/-- of the tasks, only the one that is given room may go on -/
theorem giveRoom (h : c.Sound) {p : Pipeline} {id : TaskId} (coupled : p.Coupled)
    (senders : p.senders = c.pipeline.senders)
    (waiting : ∀ i ∈ c.pipeline.waiting.map Prod.fst, i = id ∨ i ∈ p.waiting.map Prod.fst) :
    Kept c { c.giveRoom id with pipeline := p } ∨ ∃ t ∈ c.tasks, ∃ n, t.progress = .queued n ∧
      Moved c { c.giveRoom id with pipeline := p } t.id (.underway (.ready n)) := by
  by_cases waits : ∃ t ∈ c.tasks, t.id = id ∧ ∃ n, t.progress = .queued n
  · right
    obtain ⟨t, ht, rfl, n, hn⟩ := waits
    have m := Moved.proceed h ht (hn ▸ Progress.noConfusion) (.ready n) rfl
    rw [h.giveRoom_of_queued ht hn]
    refine ⟨t, ht, n, hn, m.before ?_⟩
    refine Kept.withPipeline m.sound coupled (senders ▸ m.sound.owners) fun u hu k hk => ?_
    obtain ⟨v, hv, rfl⟩ := List.mem_map.mp hu
    by_cases same : v.id = t.id
    · rw [if_pos same] at hk
      cases hk
    · rw [if_neg same] at hk ⊢
      exact (waiting _ (h.queued v hv k hk)).resolve_left same
  · left
    have none : ∀ t ∈ c.tasks, t.id = id → ∀ n, t.progress ≠ .queued n := fun t ht same n hn =>
      waits ⟨t, ht, same, n, hn⟩
    rw [giveRoom_of_none none]
    refine Kept.withPipeline h coupled (senders ▸ h.owners) fun t ht n hn => ?_
    exact (waiting _ (h.queued t ht n hn)).resolve_left fun same => none t ht same n hn

theorem take? (h : c.Sound) (hd : c.take? = some d) :
    Kept c d ∨ ∃ t ∈ c.tasks, ∃ n, t.progress = .queued n ∧
      Moved c d t.id (.underway (.ready n)) := by
  obtain ⟨⟨told, p⟩, hp, rfl⟩ := Option.map_eq_some_iff.mp hd
  have coupled := h.coupled.take? hp
  obtain ⟨r, rest, -, -, rfl, rfl⟩ := Pipeline.take?_eq_some hp
  have waiting := h.queued
  cases hw : c.pipeline.waiting with
  | nil =>
    rw [hw] at waiting coupled
    left
    refine Kept.withPipeline h coupled h.owners fun t ht n hn => ?_
    exact absurd (waiting t ht n hn) List.not_mem_nil
  | cons w others =>
    rw [hw] at coupled
    refine h.giveRoom coupled rfl fun i hi => ?_
    rw [hw] at hi
    exact List.mem_cons.mp hi

theorem read? (h : c.Sound) (hd : c.read? = some d) :
    Kept c d ∨ ∃ t ∈ c.tasks, ∃ what a, t.progress = .fetching what ∧
      Moved c d t.id (.ended (.answered a)) := by
  obtain ⟨⟨id, p⟩, hp, rfl⟩ := Option.map_eq_some_iff.mp hd
  have coupled := h.coupled.read? hp
  obtain ⟨line, -, -, rfl⟩ := Pipeline.read?_eq_some hp
  have kept := Kept.withPipeline h coupled h.owners h.queued
  simp only
  split
  · exact Or.inl kept
  · rename_i t ht
    have mem : t ∈ c.tasks := List.mem_of_find?_eq_some ht
    split
    · rename_i what hp
      exact Or.inr ⟨t, mem, what, _, hp, Moved.after kept (Moved.finish kept.sound mem _)⟩
    · exact Or.inl kept

/-! ## whatever happens -/

theorem perform (h : c.Sound) (right : c.owners < c.pipeline.senders) (a : Action) (r : Request) :
    Kept c (c.perform a r) := by
  cases a with
  | report =>
    unfold Collector.perform
    cases Next.report? r with
    | ok n => exact Kept.launch h n right
    | error v => exact (Kept.once h _ right).1
  | reports => exact Kept.launch h _ right
  | spans => exact Kept.launch h _ right
  | arm k =>
    have kept := Kept.withFaults h (c.faults.arm k) c.stopped
    have once := (Kept.once kept.sound (.answered .done) right).1
    exact ⟨once.sound, fun id s hs => once.stages id s (kept.stages id s hs)⟩
  | throttle on =>
    have kept := Kept.withFaults h (c.faults.setThrottle on) c.stopped
    have once := (Kept.once kept.sound (.answered .done) right).1
    exact ⟨once.sound, fun id s hs => once.stages id s (kept.stages id s hs)⟩

theorem setPipeline (h : c.Sound) (f : Pipeline → Pipeline) (coupled : (f c.pipeline).Coupled)
    (senders : c.owners ≤ (f c.pipeline).senders)
    (waiting : (f c.pipeline).waiting = c.pipeline.waiting) : Kept c (c.setPipeline f) :=
  Kept.withPipeline h coupled senders (waiting ▸ h.queued)

/-- no task does anything but where one goes on, or is told something by the pipeline -/
theorem kept_of_happen? {e : Happening} (h : c.Sound) (going : ∀ id, e ≠ .go id) (taking : e ≠ .take)
    (reading : e ≠ .read) (hd : c.happen? e = some d) : Kept c d := by
  cases e with
  | go id => exact absurd rfl (going id)
  | take => exact absurd rfl taking
  | read => exact absurd rfl reading
  | store =>
    obtain ⟨p, hp, rfl⟩ := Option.map_eq_some_iff.mp hd
    have coupled := h.coupled.store? hp
    obtain ⟨r, line, -, -, -, rfl⟩ := Pipeline.store?_eq_some hp
    exact Kept.withPipeline h coupled h.owners h.queued
  | close =>
    obtain ⟨p, hp, rfl⟩ := Option.map_eq_some_iff.mp hd
    have coupled := h.coupled.finish? hp
    obtain ⟨-, -, -, rfl⟩ := Pipeline.finish?_eq_some hp
    exact Kept.withPipeline h coupled h.owners h.queued
  | elapse ms =>
    cases hd
    exact ⟨{ h with }, fun _ _ hs => hs⟩
  | perform a r =>
    obtain ⟨right, rfl⟩ := withRight_eq_some.mp hd
    exact h.perform right a r
  | send r =>
    obtain ⟨right, rfl⟩ := withRight_eq_some.mp hd
    exact Kept.launch h _ right
  | awaitDrain =>
    cases hd
    exact Kept.begin h .draining (fun _ => Progress.noConfusion) (fun other => absurd rfl other)
  | arm k =>
    cases hd
    exact Kept.withFaults h _ c.stopped
  | consume k =>
    cases hd
    exact Kept.withFaults h _ c.stopped
  | throttle on =>
    cases hd
    exact Kept.withFaults h _ c.stopped
  | lock =>
    obtain ⟨-, same⟩ := Option.ite_none_left_eq_some.mp hd
    cases same
    exact h.setPipeline .lock h.coupled.lock h.owners rfl
  | unlock =>
    obtain ⟨-, same⟩ := Option.ite_none_right_eq_some.mp hd
    cases same
    exact h.setPipeline .unlock h.coupled.unlock h.owners rfl
  | stop =>
    cases hd
    exact Kept.withFaults h c.faults true
  | clone =>
    obtain ⟨right, rfl⟩ := withRight_eq_some.mp hd
    have some : 0 < c.pipeline.senders := Nat.zero_lt_of_lt right
    exact h.setPipeline .addSender (h.coupled.addSender some) (Nat.le_succ_of_le h.owners) rfl
  | release =>
    obtain ⟨right, rfl⟩ := withRight_eq_some.mp hd
    exact h.setPipeline .dropSender h.coupled.dropSender (Nat.le_sub_one_of_lt right) rfl

/-- **Whatever happens**, tasks take their steps one at a time, and hand over what those steps are for. -/
theorem happen? {e : Happening} (h : c.Sound) (hd : c.happen? e = some d) :
    (Kept c d ∧ c.handed d e = []) ∨ ∃ t ∈ c.tasks, ∃ rs s,
      t.progress.Leads rs s ∧ Moved c d t.id s ∧ c.handed d e = rs.map fun r => (t.id, r) := by
  cases e with
  | go id =>
    right
    obtain ⟨t, ht, hd⟩ := Option.bind_eq_some_iff.mp hd
    have mem : t ∈ c.tasks := List.mem_of_find?_eq_some ht
    have same : t.id = id := beq_iff_eq.mp (List.find?_some (p := fun t : Task => t.id == id) ht)
    obtain ⟨rs, s, leads, m, incoming⟩ := h.taskStep? mem hd
    refine ⟨t, mem, rs, s, leads, m, ?_⟩
    rw [Collector.handed, Collector.arrived, incoming, List.drop_left, same]
  | take =>
    rcases h.take? hd with kept | ⟨t, ht, n, hn, m⟩
    · exact Or.inl ⟨kept, rfl⟩
    · exact Or.inr ⟨t, ht, [], _, hn ▸ .hasRoom n, m, rfl⟩
  | read =>
    rcases h.read? hd with kept | ⟨t, ht, what, a, hp, m⟩
    · exact Or.inl ⟨kept, rfl⟩
    · exact Or.inr ⟨t, ht, [], _, hp ▸ .served what a, m, rfl⟩
  | _ =>
    left
    exact ⟨h.kept_of_happen? (fun _ => Happening.noConfusion) Happening.noConfusion
      Happening.noConfusion hd, rfl⟩

theorem of_happen? {e : Happening} (h : c.Sound) (hd : c.happen? e = some d) : d.Sound := by
  rcases h.happen? hd with ⟨kept, -⟩ | ⟨t, -, rs, s, -, m, -⟩
  · exact kept.sound
  · exact m.sound

theorem fares {e : Happening} {id : TaskId} {s : Stage} (h : c.Sound) (hd : c.happen? e = some d)
    (hs : c.At id s) : Fares c d id e s := by
  cases e with
  | go i =>
    obtain ⟨t, ht, hg⟩ := Option.bind_eq_some_iff.mp hd
    have mem : t ∈ c.tasks := List.mem_of_find?_eq_some ht
    obtain rfl : t.id = i := beq_iff_eq.mp (List.find?_some (p := fun t : Task => t.id == i) ht)
    by_cases same : t.id = id
    · subst same
      obtain rfl : s = .underway t.progress := h.at_unique hs ⟨t, mem, rfl, rfl⟩
      exact .goes mem rfl hg
    · obtain ⟨rs, s', -, m, -⟩ := h.taskStep? mem hg
      exact .stays (fun e => same (Happening.go.inj e)) (m.others id s (fun e => same e.symm) hs)
  | take =>
    rcases h.take? hd with kept | ⟨t, mem, n, hn, m⟩
    · exact .stays Happening.noConfusion (kept.stages id s hs)
    · by_cases same : t.id = id
      · subst same
        obtain rfl : s = .underway (.queued n) := h.at_unique hs ⟨t, mem, rfl, hn⟩
        exact .hasRoom m.reached
      · exact .stays Happening.noConfusion (m.others id s (fun e => same e.symm) hs)
  | read =>
    rcases h.read? hd with kept | ⟨t, mem, what, a, hp, m⟩
    · exact .stays Happening.noConfusion (kept.stages id s hs)
    · by_cases same : t.id = id
      · subst same
        obtain rfl : s = .underway (.fetching what) := h.at_unique hs ⟨t, mem, rfl, hp⟩
        exact .served m.reached
      · exact .stays Happening.noConfusion (m.others id s (fun e => same e.symm) hs)
  | _ =>
    exact .stays Happening.noConfusion ((h.kept_of_happen? (fun _ => Happening.noConfusion)
      Happening.noConfusion Happening.noConfusion hd).stages id s hs)

/-- a task stays where it is, or takes a step and hands over what that is for -/
theorem stays_or_leads {e : Happening} {id : TaskId} {s : Stage} (h : c.Sound)
    (hd : c.happen? e = some d) (hs : c.At id s) :
    (d.At id s ∧ sentBy id (c.handed d e) = []) ∨ ∃ p rs s', s = .underway p ∧ p.Leads rs s' ∧
      d.At id s' ∧ sentBy id (c.handed d e) = rs := by
  rcases h.happen? hd with ⟨kept, none⟩ | ⟨t, ht, rs, s', leads, m, handed⟩
  · rw [none]
    exact Or.inl ⟨kept.stages id s hs, rfl⟩
  · rw [handed]
    by_cases same : id = t.id
    · subst same
      obtain rfl : s = .underway t.progress := h.at_unique hs ⟨t, ht, rfl, rfl⟩
      exact Or.inr ⟨t.progress, rs, s', rfl, leads, m.reached, sentBy_own t.id rs⟩
    · exact Or.inl ⟨m.others id s same hs, sentBy_other same rs⟩

/-- a task that has begun is not forgotten -/
theorem stays_known {e : Happening} {id : TaskId} {s : Stage} (h : c.Sound)
    (hd : c.happen? e = some d) (hs : c.At id s) : ∃ s', d.At id s' := by
  rcases h.stays_or_leads hd hs with ⟨still, -⟩ | ⟨p, rs, s', -, -, reached, -⟩
  · exact ⟨s, still⟩
  · exact ⟨s', reached⟩

end Sound

end MockCollector.Collector
