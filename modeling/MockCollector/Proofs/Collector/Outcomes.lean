import MockCollector.Proofs.Collector.Chronicles
import MockCollector.Proofs.Collector.Storage
/-!
# How tasks may end

* `Pipeline.Allows p o`    a task may end with `o` where the pipeline is `p`: nobody is refused, and whoever
                           has waited for the drain is told how much was stored;
* `Pipeline.Coupled.of_drained`   then nobody can send any more, and nothing is on the way to the store;
* `Collector.MayEnd c o`   a task may end with `o` in a step from `c`, as `Leaves.happen?` shows it does;
* `Sound.allows`           if `c` is sound the pipeline allows it;
* `Collector.Honest`       all tasks ended as the pipeline allows;
* `Sound.honest`           and so they do whatever happens;
* `Incident`               what happens, or the consumer is killed;
* `nobody_is_refused`      and only then can anybody be refused.
-/

namespace MockCollector

namespace Pipeline

def Allows (p : Pipeline) : Outcome → Prop
  | .drained n => p.drained? = some (.ok n)
  | .refused _ => False
  | .answered (.unavailable _) => False
  | _ => True

variable {p q : Pipeline} {n : Nat} {o : Outcome}

theorem drained?_eq_ok : p.drained? = some (.ok n) ↔ p.consumer = .finished ∧ p.stored = n := by
  unfold drained?
  split <;> simp_all

/-- what was known of the drain is known still where nothing was taken out and nothing stored -/
theorem Rests.drained? (h : Rests p q) : q.drained? = p.drained? := by
  rw [Pipeline.drained?, h.consumer, h.stored]
  rfl

theorem Allows.rests (h : p.Allows o) (rests : Rests p q) : q.Allows o := by
  cases o with
  | drained n => exact rests.drained?.trans h
  | answered a => cases a <;> exact h
  | _ => exact h

/-- when the consumer has ended nobody is left who could send, and nothing on the way -/
theorem Coupled.of_drained (h : p.Coupled) (drained : p.drained? = some (.ok n)) :
    p.senders = 0 ∧ p.queue = [] ∧ p.holding = [] ∧ p.waiting = [] := by
  obtain ⟨finished, -⟩ := drained?_eq_ok.mp drained
  obtain ⟨senders, queue⟩ := h.ended finished
  refine ⟨senders, queue, ?_, h.none_waits queue⟩
  rw [holding, finished]

/-- the drain is not lost as long as the consumer is not done away with -/
theorem Coupled.drained?_ne_error (h : p.Coupled) (e : CollectorError) :
    p.drained? ≠ some (.error e) := by
  intro lost
  unfold Pipeline.drained? at lost
  split at lost
  · cases lost
  · rename_i killed
    exact h.alive killed
  · cases lost

end Pipeline

namespace Collector

variable {c d : Collector} {t : Task} {e : Happening}

/-- how a task may end in a step from `c` -/
inductive MayEnd (c : Collector) : Outcome → Prop where
  | sent : MayEnd c .sent
  | dropped : MayEnd c .dropped
  | violated (v : Violation) : MayEnd c (.violated v)
  | reported (r : ReportResponse) : MayEnd c (.answered (.report r))
  | failed : MayEnd c (.answered .failed)
  | done : MayEnd c (.answered .done)
  | listed (what : Listing) : MayEnd c (.answered (listing c.store what))
  | drained {n : Nat} (h : c.pipeline.drained? = some (.ok n)) : MayEnd c (.drained n)
  | lost {e : CollectorError} (h : c.pipeline.drained? = some (.error e)) : MayEnd c (.refused e)
  | refused {t : Task} {r : Report} (ht : t ∈ c.tasks) (was : t.progress ≠ .draining)
    (h : c.pipeline.offer t.id r = .refused) (n : Next) : MayEnd c n.refusal

/-- whoever has ended since `c` has ended as it may -/
def Leaves (c d : Collector) : Prop := ∀ x ∈ d.ended, x ∈ c.ended ∨ c.MayEnd x.outcome

namespace Leaves

theorem of_eq (same : d.ended = c.ended) : Leaves c d := fun _ hx => Or.inl (same ▸ hx)

theorem finish (same : d.ended = c.ended) (t : Task) {o : Outcome} (may : c.MayEnd o) :
    Leaves c (d.finish t o) := by
  intro x hx
  rcases List.mem_append.mp hx with old | new
  · exact Or.inl (same ▸ old)
  · obtain rfl := List.mem_singleton.mp new
    exact Or.inr may

theorem respond (c : Collector) (t : Task) : Leaves c (c.respond t) := by
  unfold Collector.respond
  split
  · exact .finish rfl t (.reported _)
  · rename_i k _
    cases k with
    | prematureClose =>
      exact .finish (c := c) (d := { c with faults := _, stopped := true }) rfl t .dropped
    | timeout => exact .of_eq rfl
    | error => exact .finish (c := c) (d := { c with faults := _ }) rfl t .failed

theorem resume (ht : t ∈ c.tasks) (was : t.progress ≠ .draining) (n : Next) :
    Leaves c (c.resume t n) := by
  cases n with
  | offer r n =>
    cases ho : c.pipeline.offer t.id r with
    | refused =>
      simp only [Collector.resume, ho]
      exact .finish rfl t (.refused ht was ho n)
    | accepted p =>
      simp only [Collector.resume, ho]
      exact .of_eq rfl
    | waits p =>
      simp only [Collector.resume, ho]
      exact .of_eq rfl
  | round s =>
    simp only [Collector.resume]
    split <;> exact .of_eq rfl
  | span s =>
    simp only [Collector.resume]
    split
    · exact .of_eq rfl
    · exact .of_eq rfl
    · exact .finish rfl t (.violated _)
  | respond => exact .respond c t
  | fetch what => exact .of_eq rfl
  | sent => exact .finish rfl t .sent

theorem taskStep? (ht : t ∈ c.tasks) (hd : c.taskStep? t = some d) : Leaves c d := by
  unfold Collector.taskStep? at hd
  cases hp : t.progress with
  | ready n =>
    rw [hp] at hd
    cases hd
    exact .resume ht (hp ▸ Progress.noConfusion) n
  | pausing wake n =>
    rw [hp] at hd
    obtain ⟨-, same⟩ := Option.ite_none_right_eq_some.mp hd
    cases same
    exact .resume ht (hp ▸ Progress.noConfusion) n
  | held =>
    rw [hp] at hd
    obtain ⟨-, same⟩ := Option.ite_none_right_eq_some.mp hd
    cases same
    exact .finish rfl t .dropped
  | draining =>
    rw [hp] at hd
    obtain ⟨result, drained, rfl⟩ := Option.map_eq_some_iff.mp hd
    cases result with
    | ok n => exact .finish rfl t (.drained drained)
    | error e => exact .finish rfl t (.lost drained)
  | queued n | fetching what =>
    rw [hp] at hd
    cases hd

theorem read? (hd : c.read? = some d) : Leaves c d := by
  obtain ⟨⟨id, p⟩, hp, rfl⟩ := Option.map_eq_some_iff.mp hd
  obtain ⟨line, -, -, rfl⟩ := Pipeline.read?_eq_some hp
  simp only
  split
  · exact .of_eq rfl
  · rename_i t _
    split
    · rename_i what _
      exact .finish (c := c) (d := { c with pipeline := _ }) rfl t (.listed what)
    · exact .of_eq rfl

theorem perform (c : Collector) (a : Action) (r : Request) : Leaves c (c.perform a r) := by
  have once {d : Collector} (same : d.ended = c.ended) {o : Outcome} (may : c.MayEnd o) :
      Leaves c (d.once o) := .finish (d := (d.begin (.ready .respond)).2) same _ may
  cases a with
  | report =>
    unfold Collector.perform
    cases Next.report? r with
    | ok n => exact .of_eq rfl
    | error v => exact once rfl (.violated v)
  | reports | spans => exact .of_eq rfl
  | arm k => exact once (d := c.setFaults (c.faults.arm k)) rfl .done
  | throttle on => exact once (d := c.setFaults (c.faults.setThrottle on)) rfl .done

theorem happen? (hd : c.happen? e = some d) : Leaves c d := by
  cases e with
  | go id =>
    obtain ⟨t, ht, hg⟩ := Option.bind_eq_some_iff.mp hd
    exact taskStep? (List.mem_of_find?_eq_some ht) hg
  | take =>
    obtain ⟨⟨told, p⟩, -, rfl⟩ := Option.map_eq_some_iff.mp hd
    cases told <;> exact .of_eq rfl
  | store | close =>
    obtain ⟨p, -, rfl⟩ := Option.map_eq_some_iff.mp hd
    exact .of_eq rfl
  | read => exact read? hd
  | perform a r =>
    obtain ⟨-, rfl⟩ := withRight_eq_some.mp hd
    exact perform c a r
  | send r | clone | release =>
    obtain ⟨-, rfl⟩ := withRight_eq_some.mp hd
    exact .of_eq rfl
  | lock =>
    obtain ⟨-, same⟩ := Option.ite_none_left_eq_some.mp hd
    cases same
    exact .of_eq rfl
  | unlock =>
    obtain ⟨-, same⟩ := Option.ite_none_right_eq_some.mp hd
    cases same
    exact .of_eq rfl
  | _ =>
    cases hd
    exact .of_eq rfl

end Leaves

/-- where the pipeline is coupled to the tasks nobody is refused, and no drain is lost -/
theorem Sound.allows (h : c.Sound) {o : Outcome} (may : c.MayEnd o) : c.pipeline.Allows o := by
  cases may with
  | listed what => cases what <;> exact trivial
  | drained told => exact told
  | lost told => exact absurd told (h.coupled.drained?_ne_error _)
  | refused ht was refused => exact absurd refused (h.coupled.not_refused (h.senders_pos ht was))
  | _ => exact trivial

/-! ## whatever happens -/

/-- a consumer that has ended takes nothing and stores nothing -/
theorem rests_of_finished (finished : c.pipeline.consumer = .finished) (hd : c.happen? e = some d) :
    c.pipeline.Rests d.pipeline := by
  refine (rests_happen? hd ?_ ?_ ?_).1 <;> rintro rfl
  · obtain ⟨⟨told, p⟩, hp, -⟩ := Option.map_eq_some_iff.mp hd
    obtain ⟨r, rest, idle, -⟩ := Pipeline.take?_eq_some hp
    exact absurd (finished.symm.trans idle) Consumer.noConfusion
  · obtain ⟨p, hp, -⟩ := Option.map_eq_some_iff.mp hd
    obtain ⟨r, line, holds, -⟩ := Pipeline.store?_eq_some hp
    exact absurd (finished.symm.trans holds) Consumer.noConfusion
  · obtain ⟨p, hp, -⟩ := Option.map_eq_some_iff.mp hd
    obtain ⟨idle, -⟩ := Pipeline.finish?_eq_some hp
    exact absurd (finished.symm.trans idle) Consumer.noConfusion

/-- what the pipeline allowed once it allows ever after -/
theorem allows_happen? {o : Outcome} (allowed : c.pipeline.Allows o) (hd : c.happen? e = some d) :
    d.pipeline.Allows o := by
  cases o with
  | drained n =>
    have finished := (Pipeline.drained?_eq_ok.mp allowed).1
    exact allowed.rests (rests_of_finished finished hd)
  | answered a => cases a <;> exact allowed
  | _ => exact allowed

def Honest (c : Collector) : Prop := ∀ x ∈ c.ended, c.pipeline.Allows x.outcome

theorem Sound.honest (h : c.Sound) (honest : c.Honest) (hd : c.happen? e = some d) : d.Honest := by
  intro x hx
  rcases Leaves.happen? hd x hx with old | may
  · exact allows_happen? (honest x old) hd
  · exact allows_happen? (h.allows may) hd

end Collector

/-! ## the consumer is killed -/

inductive Incident where
  | happens (e : Happening)
  /-- the consumer is killed, and all tasks with it -/
  | kill
  deriving DecidableEq

namespace Collector

def undergo? (c : Collector) : Incident → Option Collector
  | .happens e => c.happen? e
  | .kill => some c.kill

/-- a run in which nobody kills the consumer -/
theorem sound_of_spared {capacity throttleDelay : Nat} {store : ReportStore} {p : Pipeline}
    {is : List Incident} {c : Collector} (started : Pipeline.start capacity store = .ok p)
    (spared : .kill ∉ is) (ran : run undergo? is (start p throttleDelay) = some c) :
    c.Sound ∧ c.Honest := by
  refine run_keeps_of (P := fun c => c.Sound ∧ c.Honest) ?_ ⟨.start throttleDelay started, ?_⟩ ran
  · rintro i mem c d ⟨sound, honest⟩ hd
    cases i with
    | happens e => exact ⟨sound.of_happen? hd, sound.honest honest hd⟩
    | kill => exact absurd mem spared
  · exact fun x hx => absurd hx List.not_mem_nil

end Collector

/-- **Nobody is refused** as long as the consumer is not killed: no send and no wait for the drain ends with
an error, no report is answered 503, and whoever is under way can still send. -/
theorem nobody_is_refused {capacity throttleDelay : Nat} {store : ReportStore} {p : Pipeline}
    {is : List Incident} {c : Collector} (started : Pipeline.start capacity store = .ok p)
    (spared : .kill ∉ is) (ran : run Collector.undergo? is (.start p throttleDelay) = some c) :
    (∀ x ∈ c.ended, (∀ e, x.outcome ≠ .refused e) ∧
      ∀ a, x.outcome = .answered a → a.status ≠ 503) ∧
    (∀ t ∈ c.tasks, t.progress ≠ .draining → ∀ r, c.pipeline.offer t.id r ≠ .refused) ∧
    ∀ e, c.pipeline.drained? ≠ some (.error e) := by
  obtain ⟨sound, honest⟩ := Collector.sound_of_spared started spared ran
  refine ⟨fun x hx => ⟨fun e refused => ?_, fun a answered => ?_⟩, fun t ht was r => ?_,
    sound.coupled.drained?_ne_error⟩
  · have allowed := honest x hx
    rw [refused] at allowed
    exact allowed
  · have allowed := honest x hx
    rw [answered] at allowed
    cases a with
    | unavailable e => exact absurd allowed id
    | _ => exact ne_of_beq_false rfl
  · exact sound.coupled.not_refused (sound.senders_pos ht was)

/-- two sends and a report share a queue of one; the owner gives up its right to send while they wait -/
def crowding : List Incident :=
  List.map .happens [.arm .error, .lock, .send (numbered 1), .go 0, .go 0, .take,
    .send (numbered 2), .go 1, .perform .report whole, .go 2, .release, .awaitDrain, .unlock,
    .store, .take, .go 1]

def emptying : List Incident :=
  List.map .happens [.go 2, .store, .take, .store, .close, .go 3]

theorem nobody_is_refused_in_a_crowd : ∃ p c d, Pipeline.start 1 .empty = .ok p ∧
    run Collector.undergo? crowding (.start p 100) = some c ∧
    run Collector.undergo? (crowding ++ emptying) (.start p 100) = some d ∧
    c.tasks = [⟨2, 0, .ready .respond⟩, ⟨3, 0, .draining⟩] ∧
    c.pipeline.offer 2 (numbered 4) ≠ .refused ∧
    d.ended.map Ended.outcome = [.sent, .sent, .answered .failed, .drained 3] ∧
    ∀ x ∈ d.ended, ∀ e, x.outcome ≠ .refused e := by
  let p : Pipeline := ⟨1, 1, [], [], .idle, 0, .empty, false, []⟩
  have started : Pipeline.start 1 .empty = .ok p := rfl
  obtain ⟨c, crowds⟩ := Option.isSome_iff_exists.mp
    (by decide +kernel : (run Collector.undergo? crowding (.start p 100)).isSome = true)
  obtain ⟨d, empties⟩ := Option.isSome_iff_exists.mp
    (by decide +kernel :
      (run Collector.undergo? (crowding ++ emptying) (.start p 100)).isSome = true)
  have tasks : (run Collector.undergo? crowding (.start p 100)).map Collector.tasks
      = some [⟨2, 0, .ready .respond⟩, ⟨3, 0, .draining⟩] := by decide +kernel
  have ended : (run Collector.undergo? (crowding ++ emptying) (.start p 100)).map
      (fun d => d.ended.map Ended.outcome)
        = some [.sent, .sent, .answered .failed, .drained 3] := by decide +kernel
  rw [crowds] at tasks
  rw [empties] at ended
  have underway : c.tasks = [⟨2, 0, .ready .respond⟩, ⟨3, 0, .draining⟩] := Option.some.inj tasks
  obtain ⟨-, open', -⟩ := nobody_is_refused started (by decide) crowds
  obtain ⟨outcomes, -⟩ := nobody_is_refused started (by decide) empties
  have answers : (⟨2, 0, .ready .respond⟩ : Task) ∈ c.tasks := by
    rw [underway]
    exact List.mem_cons_self
  exact ⟨p, c, d, started, crowds, empties, underway, open' _ answers Progress.noConfusion _,
    Option.some.inj ended, fun x hx => (outcomes x hx).1⟩

/-- once the consumer is killed all three errors come about -/
example : (run Collector.undergo? [.kill, .happens (.send (numbered 1)), .happens (.go 0),
      .happens .awaitDrain, .happens (.go 1), .happens (.perform .report whole), .happens (.go 2)]
      (.start ⟨1, 1, [], [], .idle, 0, .empty, false, []⟩ 100)).map
        (fun c => c.ended.map Ended.outcome)
    = some [.refused .pipelineClosed, .refused .drainLost,
        .answered (.unavailable .pipelineClosed)] := by
  decide +kernel

end MockCollector
