import MockCollector.Proofs.Collector.Streams
import MockCollector.Proofs.Fault.History
/-!
# Faults in a run of a collector

* `Collector.faultEvents e`   what `e` does to the faults, as the collector finds them;
* `happen?_faults`            and nothing else is done to them;
* `Stage.Shows`               the stage of a report, and the answers that it came to;
* `Sound.shows`               which go together whatever happens;
* `Sound.none_held_settle`, `Sound.dropped_settle`   a collector that has stopped drops whom it held.
-/

namespace MockCollector

/-- what a task does when it goes on -/
def Progress.next? : Progress → Option Next
  | .ready n => some n
  | .pausing _ n => some n
  | _ => none

namespace Collector

/-- whether the task comes to its answer when it goes on -/
def answers (c : Collector) (id : TaskId) : Bool :=
  ((c.tasks.find? fun t => t.id == id).bind fun t => t.progress.next?) == some .respond

def faultEvents (c : Collector) : Happening → List Faults.Event
  | .go id => if c.answers id then [.answered id c.faults.first?] else []
  | .perform .report _ => [.came c.nextId]
  | .perform (.arm k) _ => [.armed k (c.faults.isArmed k)]
  | .perform (.throttle on) _ => [.throttled on]
  | .arm k => [.armed k (c.faults.isArmed k)]
  | .consume k => [.consumed k (c.faults.consume k).1]
  | .throttle on => [.throttled on]
  | _ => []

variable {c d : Collector} {t : Task} {e : Happening} {id : TaskId}

theorem answersTo_faultEvents (staying : ∀ i, e ≠ .go i) :
    Faults.answersTo id (c.faultEvents e) = [] := by
  cases e with
  | go i => exact absurd rfl (staying i)
  | perform a r => cases a <;> rfl
  | _ => rfl

theorem faultEvents_go (ht : (c.tasks.find? fun u => u.id == id) = some t) :
    c.faultEvents (.go id)
      = if t.progress.next? = some .respond then [.answered id c.faults.first?] else [] := by
  rw [faultEvents, Collector.answers, ht]
  exact if_congr beq_iff_eq rfl rfl

theorem eq_perform_of_came (h : .came id ∈ c.faultEvents e) :
    ∃ r, e = .perform .report r ∧ id = c.nextId := by
  cases e with
  | go i =>
    rw [faultEvents] at h
    split at h
    · cases List.mem_singleton.mp h
    · cases h
  | perform a r =>
    cases a with
    | report => exact ⟨r, rfl, Faults.Event.came.inj (List.mem_singleton.mp h)⟩
    | reports | spans => cases h
    | arm k => cases List.mem_singleton.mp h
    | throttle on => cases List.mem_singleton.mp h
  | arm k => cases List.mem_singleton.mp h
  | consume k => cases List.mem_singleton.mp h
  | throttle on => cases List.mem_singleton.mp h
  | _ => cases h

theorem eq_go_of_answered {met : Option OneShot} (h : .answered id met ∈ c.faultEvents e) :
    e = .go id := by
  cases e with
  | go i =>
    rw [faultEvents] at h
    split at h
    · cases List.mem_singleton.mp h
      rfl
    · cases h
  | _ =>
    rw [← Faults.mem_answersTo, answersTo_faultEvents fun _ => Happening.noConfusion] at h
    cases h

theorem answersTo_others (other : e ≠ .go id) : Faults.answersTo id (c.faultEvents e) = [] :=
  List.eq_nil_iff_forall_not_mem.mpr fun _ mem =>
    other (eq_go_of_answered (Faults.mem_answersTo.mp mem))

/-! ## one step -/

theorem taskStep?_of_next? {n : Next} (h : c.taskStep? t = some d) (hn : t.progress.next? = some n) :
    d = c.resume t n := by
  unfold taskStep? at h
  cases hp : t.progress with
  | ready m =>
    rw [hp] at h hn
    cases hn
    exact (Option.some.inj h).symm
  | pausing wake m =>
    rw [hp] at h hn
    cases hn
    exact (Option.some.inj (Option.ite_none_right_eq_some.mp h).2).symm
  | _ =>
    rw [hp] at hn
    cases hn

/-- a task that waited for something ends -/
theorem taskStep?_of_waiting (h : c.taskStep? t = some d) (hn : t.progress.next? = none) :
    ∃ o, d = c.finish t o ∧ (t.progress = .held → o = .dropped ∧ c.stopped = true) := by
  unfold taskStep? at h
  cases hp : t.progress with
  | held =>
    rw [hp] at h
    obtain ⟨stopped, same⟩ := Option.ite_none_right_eq_some.mp h
    exact ⟨_, (Option.some.inj same).symm, fun _ => ⟨rfl, stopped⟩⟩
  | draining =>
    rw [hp] at h
    obtain ⟨result, -, rfl⟩ := Option.map_eq_some_iff.mp h
    cases result with
    | ok n => exact ⟨_, rfl, Progress.noConfusion⟩
    | error e => exact ⟨_, rfl, Progress.noConfusion⟩
  | ready n | pausing wake n =>
    rw [hp] at hn
    cases hn
  | queued n | fetching what =>
    rw [hp] at h
    cases h

theorem resume_leaves_faults {n : Next} (other : n ≠ .respond) :
    (c.resume t n).faults = c.faults ∧ (c.resume t n).stopped = c.stopped := by
  cases n with
  | offer r n =>
    simp only [resume]
    split <;> exact ⟨rfl, rfl⟩
  | round s =>
    simp only [resume]
    split <;> exact ⟨rfl, rfl⟩
  | span s =>
    simp only [resume]
    split <;> exact ⟨rfl, rfl⟩
  | respond => exact absurd rfl other
  | fetch what => exact ⟨rfl, rfl⟩
  | sent => exact ⟨rfl, rfl⟩

theorem respond_spends (c : Collector) (t : Task) : (c.respond t).faults = c.faults.spent ∧
    (c.respond t).stopped = (c.stopped || c.faults.first? == some .prematureClose) := by
  unfold respond Faults.spent
  cases c.faults.first? with
  | none => exact ⟨rfl, (Bool.or_false _).symm⟩
  | some k =>
    cases k with
    | prematureClose => exact ⟨rfl, (Bool.or_true _).symm⟩
    | timeout => exact ⟨rfl, (Bool.or_false _).symm⟩
    | error => exact ⟨rfl, (Bool.or_false _).symm⟩

/-- a task spends a fault when it answers, and does nothing to them otherwise -/
theorem taskStep?_faults (h : c.taskStep? t = some d) :
    d.faults = (if t.progress.next? = some .respond then c.faults.spent else c.faults) ∧
      d.stopped = (c.stopped ||
        (t.progress.next? == some .respond && c.faults.first? == some .prematureClose)) := by
  cases hn : t.progress.next? with
  | none =>
    obtain ⟨o, rfl, -⟩ := taskStep?_of_waiting h hn
    exact ⟨rfl, (Bool.or_false _).symm⟩
  | some n =>
    obtain rfl := taskStep?_of_next? h hn
    by_cases answer : n = .respond
    · subst answer
      obtain ⟨faults, stopped⟩ := respond_spends c t
      exact ⟨faults, stopped⟩
    · obtain ⟨faults, stopped⟩ := resume_leaves_faults (c := c) (t := t) answer
      have other : some n ≠ some .respond := fun same => answer (Option.some.inj same)
      rw [if_neg other, beq_eq_false_iff_ne.mpr other, Bool.false_and, Bool.or_false]
      exact ⟨faults, stopped⟩

theorem read?_leaves_faults (h : c.read? = some d) : d.faults = c.faults ∧ d.stopped = c.stopped := by
  obtain ⟨⟨id, p⟩, -, rfl⟩ := Option.map_eq_some_iff.mp h
  simp only
  split
  · exact ⟨rfl, rfl⟩
  · split <;> exact ⟨rfl, rfl⟩

theorem take?_leaves_faults (h : c.take? = some d) : d.faults = c.faults ∧ d.stopped = c.stopped := by
  obtain ⟨⟨told, p⟩, -, rfl⟩ := Option.map_eq_some_iff.mp h
  cases told <;> exact ⟨rfl, rfl⟩

/-- **Nothing else touches the faults**, and a collector that has stopped has stopped for good. -/
theorem happen?_faults (h : c.happen? e = some d) :
    run Faults.after? (c.faultEvents e) c.faults = some d.faults ∧
      (c.stopped = true → d.stopped = true) := by
  have one {event : Faults.Event} {f : Faults} (after : c.faults.after? event = some f) :
      run Faults.after? [event] c.faults = some f := by
    rw [run, after]
    rfl
  cases e with
  | go id =>
    obtain ⟨t, ht, hd⟩ := Option.bind_eq_some_iff.mp h
    obtain ⟨faults, stopped⟩ := taskStep?_faults hd
    refine ⟨?_, fun before => by rw [stopped, before, Bool.true_or]⟩
    rw [faultEvents_go ht, faults]
    by_cases answer : t.progress.next? = some .respond
    · rw [if_pos answer, if_pos answer]
      exact one (if_pos rfl)
    · rw [if_neg answer, if_neg answer]
      rfl
  | take =>
    obtain ⟨faults, stopped⟩ := take?_leaves_faults h
    exact ⟨congrArg some faults.symm, fun before => stopped.trans before⟩
  | read =>
    obtain ⟨faults, stopped⟩ := read?_leaves_faults h
    exact ⟨congrArg some faults.symm, fun before => stopped.trans before⟩
  | store | close =>
    obtain ⟨p, -, rfl⟩ := Option.map_eq_some_iff.mp h
    exact ⟨rfl, id⟩
  | perform a r =>
    obtain ⟨-, rfl⟩ := withRight_eq_some.mp h
    cases a with
    | report =>
      unfold perform
      cases Next.report? r with
      | ok n => exact ⟨rfl, id⟩
      | error v => exact ⟨rfl, id⟩
    | reports => exact ⟨rfl, id⟩
    | spans => exact ⟨rfl, id⟩
    | arm k => exact ⟨one (if_pos rfl), id⟩
    | throttle on => exact ⟨rfl, id⟩
  | send r | clone | release =>
    obtain ⟨-, rfl⟩ := withRight_eq_some.mp h
    exact ⟨rfl, id⟩
  | arm k =>
    cases h
    exact ⟨one (if_pos rfl), id⟩
  | consume k =>
    cases h
    exact ⟨one (if_pos rfl), id⟩
  | lock =>
    obtain ⟨-, same⟩ := Option.ite_none_left_eq_some.mp h
    cases same
    exact ⟨rfl, id⟩
  | unlock =>
    obtain ⟨-, same⟩ := Option.ite_none_right_eq_some.mp h
    cases same
    exact ⟨rfl, id⟩
  | stop =>
    cases h
    exact ⟨rfl, fun _ => rfl⟩
  | _ =>
    cases h
    exact ⟨rfl, id⟩

end Collector

/-! ## one report -/

/-- what is left to do of a report, or how it ended, goes with the answers that it came to; only who
has stopped lets go of it without an answer -/
inductive Stage.Shows : Stage → List (Option OneShot) → Bool → Prop where
  | waiting {p : Progress} {left : List Report} {v : Option Violation} {stopped : Bool}
    (serves : (Stage.underway p).Serves left v) (free : p ≠ .held) : Shows (.underway p) [] stopped
  | violated (v : Violation) (stopped : Bool) : Shows (.ended (.violated v)) [] stopped
  | received (r : ReportResponse) (stopped : Bool) : Shows (.ended (.answered (.report r))) [none] stopped
  | failed (stopped : Bool) : Shows (.ended (.answered .failed)) [some .error] stopped
  | held (stopped : Bool) : Shows (.underway .held) [some .timeout] stopped
  | released : Shows (.ended .dropped) [some .timeout] true
  | closed : Shows (.ended .dropped) [some .prematureClose] true

theorem Stage.Shows.mono {s : Stage} {answers : List (Option OneShot)} {before after : Bool}
    (h : s.Shows answers before) (le : before = true → after = true) : s.Shows answers after := by
  cases h with
  | waiting serves free => exact .waiting serves free
  | violated v => exact .violated v after
  | received r => exact .received r after
  | failed => exact .failed after
  | held => exact .held after
  | released =>
    obtain rfl := le rfl
    exact .released
  | closed =>
    obtain rfl := le rfl
    exact .closed

/-- short of its answer a report is broken off or goes on -/
theorem Next.Serves.shows {n : Next} {left rs : List Report} {v : Option Violation} {s : Stage}
    (h : n.Serves left v) (other : n ≠ .respond) (leads : n.Leads rs s) (stopped : Bool) :
    s.Shows [] stopped := by
  cases leads with
  | accepted r n =>
    cases h with
    | offer h => exact .waiting (.ready h) Progress.noConfusion
  | waits r n =>
    cases h with
    | offer h => exact .waiting (.queued h) Progress.noConfusion
  | pauses s wake => exact .waiting (.pausing wake (.span s)) Progress.noConfusion
  | reads s => exact .waiting (.ready (.span s)) Progress.noConfusion
  | ended hs => exact .waiting (.ready .respond) Progress.noConfusion
  | item hs => exact .waiting (.ready (.offer (.round _))) Progress.noConfusion
  | violated hs => exact .violated _ stopped
  | answered | held | dropped => exact absurd rfl other
  | fetches what => cases h
  | sent => cases h

namespace Collector

variable {c d : Collector} {t : Task} {e : Happening} {id : TaskId} {s : Stage}
  {answers : List (Option OneShot)}

/-- nobody is held by a collector that has stopped, once everything has happened that can -/
theorem none_held (still : c.move? = none) (stopped : c.stopped = true) :
    ¬ c.At id (.underway .held) := by
  rintro ⟨t, ht, -, held⟩
  have none := (move?_eq_none still).1 t ht
  rw [taskStep?, held] at none
  simp only [stopped, if_true, reduceCtorEq] at none

namespace Sound

/-- an answer is what the first fault makes of it -/
theorem respond_shows (h : c.Sound) (ht : t ∈ c.tasks) (was : t.progress ≠ .draining) :
    ∃ s, (c.respond t).At t.id s ∧ s.Shows [c.faults.first?] (c.respond t).stopped := by
  cases hf : c.faults.first? with
  | none =>
    simp only [Collector.respond, hf]
    exact ⟨_, (Moved.finish h ht _).reached, .received _ _⟩
  | some k =>
    cases k with
    | prematureClose =>
      simp only [Collector.respond, hf]
      have kept := Kept.withFaults h (c.faults.consume .prematureClose).2 true
      exact ⟨_, (Moved.finish kept.sound ht _).reached, .closed⟩
    | timeout =>
      simp only [Collector.respond, hf]
      have kept := Kept.withFaults h (c.faults.consume .timeout).2 c.stopped
      exact ⟨_, (Moved.proceed kept.sound ht was .held rfl).reached, .held _⟩
    | error =>
      simp only [Collector.respond, hf]
      have kept := Kept.withFaults h (c.faults.consume .error).2 c.stopped
      exact ⟨_, (Moved.finish kept.sound ht _).reached, .failed _⟩

theorem go_shows (h : c.Sound) (ht : t ∈ c.tasks) (hd : c.taskStep? t = some d)
    (shows : (Stage.underway t.progress).Shows answers c.stopped) :
    ∃ s, d.At t.id s ∧ s.Shows (answers ++
      if t.progress.next? = some .respond then [c.faults.first?] else []) d.stopped := by
  cases hn : t.progress.next? with
  | none =>
    -- a report that waits for room is not its own to go on, so this one is held
    obtain ⟨o, rfl, held⟩ := taskStep?_of_waiting hd hn
    have reached := (Moved.finish h ht o).reached
    cases hp : t.progress with
    | held =>
      rw [hp] at shows
      obtain ⟨rfl, stopped⟩ := held hp
      cases shows with
      | waiting serves free => exact absurd rfl free
      | held =>
        refine ⟨_, reached, ?_⟩
        rw [show (c.finish t .dropped).stopped = true from stopped]
        exact .released
    | queued n =>
      rw [Collector.taskStep?, hp] at hd
      cases hd
    | ready n | pausing wake n =>
      rw [hp] at hn
      cases hn
    | fetching what | draining =>
      rw [hp] at shows
      cases shows with
      | waiting serves free => cases serves
  | some n =>
    obtain ⟨rs, s, leads, m, -⟩ := h.taskStep? ht hd
    have goes : n.Leads rs s ∧ answers = [] ∧ ∃ left v, n.Serves left v := by
      cases hp : t.progress with
      | ready k | pausing wake k =>
        rw [hp] at hn shows leads
        cases hn
        cases leads
        rename_i leads
        cases shows with
        | waiting serves free =>
          cases serves
          exact ⟨leads, rfl, _, _, ‹_›⟩
      | _ =>
        rw [hp] at hn
        cases hn
    obtain ⟨leads, rfl, left, v, serves⟩ := goes
    by_cases answer : n = .respond
    · subst answer
      obtain rfl := taskStep?_of_next? hd hn
      have was : t.progress ≠ .draining := by
        intro drains
        rw [drains] at hn
        cases hn
      rw [if_pos rfl]
      exact h.respond_shows ht was
    · rw [if_neg fun same => answer (Option.some.inj same)]
      exact ⟨s, m.reached, serves.shows answer leads d.stopped⟩

/-- whatever happens, a report goes on to what its answers call for -/
theorem shows (h : c.Sound) (hd : c.happen? e = some d) (hs : c.At id s)
    (shows : s.Shows answers c.stopped) :
    ∃ s', d.At id s' ∧ s'.Shows (answers ++ Faults.answersTo id (c.faultEvents e)) d.stopped := by
  have later := (happen?_faults hd).2
  cases h.fares hd hs with
  | stays other still =>
    rw [answersTo_others other, List.append_nil]
    exact ⟨s, still, shows.mono later⟩
  | goes ht same hg =>
    subst same
    obtain ⟨s', reached, shows⟩ := h.go_shows ht hg shows
    refine ⟨s', reached, ?_⟩
    rw [faultEvents_go (h.find?_tasks ht)]
    split
    · rename_i answer
      rw [if_pos answer] at shows
      rw [show Faults.answersTo _ [.answered _ c.faults.first?] = [c.faults.first?] from
        List.filterMap_cons_some (if_pos rfl)]
      exact shows
    · rename_i other
      rw [if_neg other] at shows
      exact shows
  | hasRoom ready =>
    cases shows with
    | waiting serves free =>
      cases serves with
      | queued serves => exact ⟨_, ready, .waiting (.ready serves) Progress.noConfusion⟩
  | served answered =>
    cases shows with
    | waiting serves free => cases serves

/-- a report begins with everything left to do, or is broken off at once -/
theorem perform_shows (h : c.Sound) (right : c.owners < c.pipeline.senders) (r : Request)
    (stopped : Bool) : ∃ s, (c.perform .report r).At c.nextId s ∧ s.Shows [] stopped := by
  rcases h.perform_report right r with ⟨n, hn, ready⟩ | ⟨v, -, ended⟩
  · exact ⟨_, ready, .waiting (.ready (Next.serves_of_report? hn)) Progress.noConfusion⟩
  · exact ⟨_, ended, .violated v stopped⟩

theorem distinct (h : c.Sound) : c.Distinct :=
  ⟨h.nodup, fun _ ht =>
    h.fresh _ (List.mem_append_left _ (List.mem_map_of_mem ht))⟩

/-- what every move keeps is kept until nothing can happen any more -/
theorem settleWithin_keeps {P : Collector → Prop}
    (keeps : ∀ c d, c.Sound → P c → c.move? = some d → P d) (n : Nat) (h : c.Sound) (hP : P c) :
    (settleWithin n c).Sound ∧ P (settleWithin n c) := by
  induction n generalizing c with
  | zero => exact ⟨h, hP⟩
  | succ n ih =>
    rw [settleWithin]
    split
    · exact ⟨h, hP⟩
    · rename_i d hm
      exact ih (h.of_move? hm) (keeps c d h hP hm)

theorem settle_keeps {P : Collector → Prop}
    (keeps : ∀ c d, c.Sound → P c → c.move? = some d → P d) (h : c.Sound) (hP : P c) :
    c.settle.Sound ∧ P c.settle :=
  settleWithin_keeps keeps c.work h hP

theorem stopped_settle (h : c.Sound) (stopped : c.stopped = true) : c.settle.stopped = true :=
  (h.settle_keeps (P := fun c => c.stopped = true) (fun _ _ h stopped hm => by
    obtain ⟨e, -, hd, -⟩ := h.happen?_of_move? hm
    exact (happen?_faults hd).2 stopped) stopped).2

theorem none_held_settle (h : c.Sound) (stopped : c.stopped = true) :
    ¬ c.settle.At id (.underway .held) :=
  none_held (move?_settle h.distinct) (h.stopped_settle stopped)

/-- whoever is held by a collector that has stopped is dropped -/
theorem dropped_settle (h : c.Sound) (stopped : c.stopped = true) (held : c.At id (.underway .held)) :
    c.settle.At id (.ended .dropped) := by
  -- whatever has happened, it is held still or was released
  obtain ⟨-, s, answers, hs, shows⟩ := h.settle_keeps
    (P := fun c => ∃ s answers, c.At id s ∧ s.Shows (some .timeout :: answers) c.stopped)
    (fun c d h ⟨s, answers, hs, shows⟩ hm => by
      obtain ⟨e, -, hd, -⟩ := h.happen?_of_move? hm
      obtain ⟨s', hs', shows⟩ := h.shows hd hs shows
      exact ⟨s', _, hs', shows⟩)
    ⟨_, [], held, .held _⟩
  generalize c.settle.stopped = b at shows
  cases shows with
  | held => exact absurd hs (h.none_held_settle stopped)
  | released => exact hs

end Sound

end Collector

end MockCollector
