import Mathlib.Data.List.Forall2
import Mathlib.Data.List.Infix
import MockCollector.Proofs.Collector.Moves
/-!
# Rounds and delays

* `Course.noted note es k`   what is noted of the steps that `es` take from `k`, one after the other;
* `Collector.rounds id`, `Collector.rests id`   notes of the rounds that a task opens and of the delays that
                           it has sat out;
* `Request.rounds`, `Stage.roundsLeft`   how many rounds a request has, and how many are left;
* `Stage.Paces`            from one stage to the other a task opens rounds, and a delay follows each that finds
                           its stream throttled: so it is for one step (`Collector.Sound.paces`), for one step
                           after the other (`Paces.trans`) and so in a run (`Course.paces`);
* `one_delay_per_throttled_round`   so the rounds of a request are counted, and its delays with them.
-/

namespace MockCollector

/-! ## what is noted of a run -/

namespace Course

variable {α : Type} {note : Collector → Happening → List α}

def noted (note : Collector → Happening → List α) : List Happening → Course → List α
  | [], _ => []
  | e :: es, k =>
    match k.step? e with
    | none => []
    | some l => note k.collector e ++ noted note es l

theorem noted_cons {k l : Course} {e : Happening} (es : List Happening) (hl : k.step? e = some l) :
    noted note (e :: es) k = note k.collector e ++ noted note es l := by
  rw [noted, hl]

/-- what is noted was noted at one of the steps -/
theorem exists_of_mem_noted {es : List Happening} {k : Course} {x : α} (h : x ∈ noted note es k) :
    ∃ xs e ys l, es = xs ++ e :: ys ∧ run xs k = some l ∧ x ∈ note l.collector e := by
  induction es generalizing k with
  | nil => cases h
  | cons e es ih =>
    rw [noted] at h
    split at h
    · cases h
    · rename_i l hl
      rcases List.mem_append.mp h with now | later
      · exact ⟨[], e, es, k, rfl, rfl, now⟩
      · obtain ⟨xs, f, ys, m, rfl, ran, mem⟩ := ih later
        refine ⟨e :: xs, f, ys, m, rfl, ?_, mem⟩
        rw [run, MockCollector.run, hl]
        exact ran

/-- as long as `id` is under way, streams are throttled or not, as `on` says -/
def Throttles (id : TaskId) (on : Bool) (es : List Happening) (k : Course) : Prop :=
  ∀ xs ys l p, es = xs ++ ys → run xs k = some l → l.collector.At id (.underway p) →
    l.collector.faults.throttle = on

theorem throttles_of_inits {id : TaskId} {on : Bool} {es : List Happening} {k : Course}
    (h : ∀ xs ∈ es.inits, ∀ l ∈ run xs k, l.collector.faults.throttle = on) : Throttles id on es k := by
  intro xs ys l _ split ran _
  exact h xs ((List.mem_inits xs es).mpr ⟨ys, split.symm⟩) l ran

end Course

/-! ## rounds and delays -/

/-- when a round was opened, and whether streams were throttled then -/
structure Round where
  time : Nat
  throttled : Bool
  deriving DecidableEq

def Next.opensRound : Next → Bool
  | .round _ => true
  | _ => false

def Progress.opensRound (p : Progress) : Bool := p.next?.any Next.opensRound

def Progress.pauses : Progress → Bool
  | .pausing _ _ => true
  | _ => false

namespace Collector

/-- the round that the task `id` opens when `e` happens -/
def rounds (id : TaskId) (c : Collector) (e : Happening) : List Round :=
  if e = .go id ∧ ∃ t ∈ c.tasks, t.id = id ∧ t.progress.opensRound then
    [⟨c.now, c.faults.throttle⟩]
  else []

/-- the time at which the task `id` goes on after a delay when `e` happens -/
def rests (id : TaskId) (c : Collector) (e : Happening) : List Nat :=
  if e = .go id ∧ ∃ t ∈ c.tasks, t.id = id ∧ t.progress.pauses then [c.now] else []

variable {c : Collector} {e : Happening} {id : TaskId} {t : Task}

theorem rounds_others (other : e ≠ .go id) : c.rounds id e = [] := if_neg fun h => other h.1

theorem rests_others (other : e ≠ .go id) : c.rests id e = [] := if_neg fun h => other h.1

theorem of_mem_rounds {r : Round} (h : r ∈ c.rounds id e) :
    r.throttled = c.faults.throttle ∧ ∃ p, c.At id (.underway p) := by
  unfold rounds at h
  split at h
  · rename_i opens
    obtain ⟨-, t, ht, same, -⟩ := opens
    rw [List.mem_singleton.mp h]
    exact ⟨rfl, t.progress, t, ht, same, rfl⟩
  · cases h

/-- a task is the only one with its number -/
theorem Sound.exists_task_iff (h : c.Sound) (ht : t ∈ c.tasks) {P : Progress → Prop} :
    (.go t.id = Happening.go t.id ∧ ∃ u ∈ c.tasks, u.id = t.id ∧ P u.progress) ↔ P t.progress := by
  constructor
  · rintro ⟨-, u, hu, same, holds⟩
    rw [← h.eq_of_id ht hu same]
    exact holds
  · intro holds
    exact ⟨rfl, t, ht, rfl, holds⟩

theorem Sound.rounds_own (h : c.Sound) (ht : t ∈ c.tasks) : c.rounds t.id (.go t.id)
    = if t.progress.opensRound then [⟨c.now, c.faults.throttle⟩] else [] :=
  if_congr (h.exists_task_iff ht (P := fun p => p.opensRound = true)) rfl rfl

theorem Sound.rests_own (h : c.Sound) (ht : t ∈ c.tasks) :
    c.rests t.id (.go t.id) = if t.progress.pauses then [c.now] else [] :=
  if_congr (h.exists_task_iff ht (P := fun p => p.pauses = true)) rfl rfl

end Collector

/-! ## stages -/

def Next.roundsLeft : Next → Nat
  | .offer _ next => next.roundsLeft
  | .round s => s.items.1.length + 1
  | .span s => s.items.1.length
  | _ => 0

def Progress.roundsLeft : Progress → Nat
  | .ready next => next.roundsLeft
  | .queued next => next.roundsLeft
  | .pausing _ next => next.roundsLeft
  | _ => 0

namespace Stage

def roundsLeft : Stage → Nat
  | .underway p => p.roundsLeft
  | .ended _ => 0

/-- the end of the delay that a task sits out -/
def wakes : Stage → List Nat
  | .underway (.pausing wake _) => [wake]
  | _ => []

/-- on the way from `s` to `s'` a task opens `rounds` and goes on after delays at the times `rests`: each
delay begins with a round that finds its stream throttled, and is no shorter than it should be -/
structure Paces (delay : Nat) (s s' : Stage) (rounds : List Round) (rests : List Nat) : Prop where
  counted : rounds.length + s'.roundsLeft = s.roundsLeft
  delayed : ∃ past, s.wakes ++ (rounds.filter Round.throttled).map (·.time + delay) = past ++ s'.wakes ∧
    List.Forall₂ (· ≤ ·) past rests

variable {delay : Nat} {s s' s'' : Stage} {rounds rounds' : List Round} {rests rests' : List Nat}

theorem wakes_eq_nil (awake : ∀ wake n, s ≠ .underway (.pausing wake n)) : s.wakes = [] := by
  unfold wakes
  split
  · exact absurd rfl (awake _ _)
  · rfl

/-- a step without a round or a delay -/
theorem Paces.idle (left : s'.roundsLeft = s.roundsLeft) (wakes : s'.wakes = s.wakes) :
    Paces delay s s' [] [] :=
  ⟨(Nat.zero_add _).trans left, [], (List.append_nil _).trans wakes.symm, .nil⟩

theorem Paces.refl (delay : Nat) (s : Stage) : Paces delay s s [] [] := .idle rfl rfl

theorem Paces.trans (first : Paces delay s s' rounds rests)
    (last : Paces delay s' s'' rounds' rests') :
    Paces delay s s'' (rounds ++ rounds') (rests ++ rests') := by
  obtain ⟨past, begun, slept⟩ := first.delayed
  obtain ⟨past', begun', slept'⟩ := last.delayed
  constructor
  · have before := first.counted
    have behind := last.counted
    rw [List.length_append]
    omega
  · refine ⟨past ++ past', ?_, List.rel_append slept slept'⟩
    rw [List.filter_append, List.map_append, ← List.append_assoc, begun, List.append_assoc, begun',
      List.append_assoc]

/-- every round whose stream was throttled has its delay, once no delay lasts -/
theorem Paces.delays (h : Paces delay s s' rounds rests) (begins : s.wakes = []) (awake : s'.wakes = []) :
    List.Forall₂ (fun r time => r.time + delay ≤ time) (rounds.filter Round.throttled) rests := by
  obtain ⟨past, begun, slept⟩ := h.delayed
  rw [begins, awake, List.nil_append, List.append_nil] at begun
  rw [← begun, List.forall₂_map_left_iff] at slept
  exact slept

theorem Paces.length_rests (h : Paces delay s s' rounds rests) (begins : s.wakes = []) :
    rests.length + s'.wakes.length = rounds.countP Round.throttled := by
  obtain ⟨past, begun, slept⟩ := h.delayed
  have lengths := congrArg List.length begun
  rw [begins, List.nil_append, List.length_map, List.length_append, slept.length_eq] at lengths
  rw [List.countP_eq_length_filter, lengths]

end Stage

/-! ## one step -/

theorem Next.Leads.roundsLeft {n : Next} {rs : List Report} {s : Stage} (leads : n.Leads rs s) :
    n.opensRound.toNat + s.roundsLeft = n.roundsLeft := by
  cases leads with
  | pauses s wake | reads s => exact Nat.add_comm 1 _
  | ended hs =>
    show 0 + 0 = List.length _
    rw [OpenStream.items_of_ended hs]
    rfl
  | @item s rest r hs =>
    show 0 + (rest.items.1.length + 1) = s.items.1.length
    rw [OpenStream.items_of_span hs, Nat.zero_add]
    rfl
  | violated hs =>
    show 0 + 0 = List.length _
    rw [OpenStream.items_of_violated hs]
    rfl
  | accepted r n | waits r n => exact Nat.zero_add _
  | _ => rfl

/-- only a round is followed by a delay -/
theorem Next.Leads.wakes {n : Next} {rs : List Report} {s : Stage} (leads : n.Leads rs s)
    (other : n.opensRound = false) : s.wakes = [] := by
  cases leads with
  | pauses s wake | reads s => cases other
  | _ => rfl

namespace Collector

variable {c d : Collector} {e : Happening} {id : TaskId} {t : Task} {s : Stage}

namespace Sound

/-- where streams are throttled a round begins with a delay -/
theorem round_paces (h : c.Sound) (ht : t ∈ c.tasks) (was : t.progress ≠ .draining) (s : OpenStream) :
    ∃ s', (c.resume t (.round s)).At t.id s' ∧ Stage.Paces c.throttleDelay
      (.underway (.ready (.round s))) s' [⟨c.now, c.faults.throttle⟩] [] := by
  let r : Round := ⟨c.now, c.faults.throttle⟩
  have counts : [r].length + s.items.1.length = s.items.1.length + 1 := Nat.add_comm 1 _
  rw [Collector.resume]
  by_cases throttled : c.faults.throttle = true
  · rw [if_pos throttled]
    refine ⟨_, (Moved.proceed h ht was (.pausing (c.now + c.throttleDelay) (.span s)) rfl).reached, ?_⟩
    refine ⟨counts, [], ?_, .nil⟩
    rw [show [r].filter Round.throttled = [r] from List.filter_cons_of_pos throttled]
    rfl
  · rw [if_neg throttled]
    refine ⟨_, (Moved.proceed h ht was (.ready (.span s)) rfl).reached, ?_⟩
    refine ⟨counts, [], ?_, .nil⟩
    rw [show [r].filter Round.throttled = [] from List.filter_cons_of_neg throttled]
    rfl

theorem resume_paces (h : c.Sound) (ht : t ∈ c.tasks) (was : t.progress ≠ .draining) (n : Next) :
    ∃ s', (c.resume t n).At t.id s' ∧ Stage.Paces c.throttleDelay (.underway (.ready n)) s'
      (if n.opensRound then [⟨c.now, c.faults.throttle⟩] else []) [] := by
  cases n with
  | round s => exact h.round_paces ht was s
  | _ =>
    obtain ⟨rs, s', leads, m, -⟩ := h.resume ht was _
    refine ⟨s', m.reached, .idle ?_ (leads.wakes rfl)⟩
    exact (Nat.zero_add _).symm.trans leads.roundsLeft

/-- a task that goes on has sat out its delay -/
theorem taskStep?_paces (h : c.Sound) (ht : t ∈ c.tasks) (hd : c.taskStep? t = some d) :
    ∃ s', d.At t.id s' ∧ Stage.Paces c.throttleDelay (.underway t.progress) s'
      (c.rounds t.id (.go t.id)) (c.rests t.id (.go t.id)) := by
  rw [h.rounds_own ht, h.rests_own ht]
  cases hp : t.progress with
  | ready n =>
    rw [taskStep?_of_next? hd (n := n) (by rw [hp]; rfl)]
    exact h.resume_paces ht (hp ▸ Progress.noConfusion) n
  | pausing wake n =>
    rw [taskStep?_of_next? hd (n := n) (by rw [hp]; rfl)]
    obtain ⟨s', reached, paces⟩ := h.resume_paces ht (hp ▸ Progress.noConfusion) n
    have slept : wake ≤ c.now := by
      rw [Collector.taskStep?, hp] at hd
      exact (Option.ite_none_right_eq_some.mp hd).1
    have wakes : Stage.Paces c.throttleDelay (.underway (.pausing wake n)) (.underway (.ready n)) []
        [c.now] := ⟨Nat.zero_add _, [wake], rfl, .cons slept .nil⟩
    exact ⟨s', reached, wakes.trans paces⟩
  | queued n =>
    rw [Collector.taskStep?, hp] at hd
    cases hd
  | fetching what | held | draining =>
    obtain ⟨o, rfl, -⟩ := taskStep?_of_waiting hd (by rw [hp]; rfl)
    exact ⟨_, (Moved.finish h ht o).reached, .idle rfl rfl⟩

/-- whatever happens, a task opens its rounds and sits out its delays -/
theorem paces (h : c.Sound) (hd : c.happen? e = some d) (hs : c.At id s) :
    ∃ s', d.At id s' ∧ Stage.Paces c.throttleDelay s s' (c.rounds id e) (c.rests id e) := by
  cases h.fares hd hs with
  | stays other still =>
    rw [rounds_others other, rests_others other]
    exact ⟨s, still, .refl _ s⟩
  | goes ht same hg =>
    subst same
    exact h.taskStep?_paces ht hg
  | hasRoom ready =>
    rw [rounds_others Happening.noConfusion, rests_others Happening.noConfusion]
    exact ⟨_, ready, .idle rfl rfl⟩
  | served answered =>
    rw [rounds_others Happening.noConfusion, rests_others Happening.noConfusion]
    exact ⟨_, answered, .idle rfl rfl⟩

end Sound

theorem happen?_leaves_throttleDelay (h : c.Sound) (hd : c.happen? e = some d) :
    d.throttleDelay = c.throttleDelay := by
  cases e with
  | go id =>
    obtain ⟨t, ht, hg⟩ := Option.bind_eq_some_iff.mp hd
    exact (Goes.taskStep? h.nodup (List.mem_of_find?_eq_some ht) hg).delay
  | take => exact (Goes.take? hd).delay
  | read => exact (Goes.read? h.nodup hd).delay
  | store | close =>
    obtain ⟨p, -, rfl⟩ := Option.map_eq_some_iff.mp hd
    rfl
  | perform a r =>
    obtain ⟨-, rfl⟩ := withRight_eq_some.mp hd
    cases a with
    | report =>
      rw [perform]
      cases Next.report? r <;> rfl
    | _ => rfl
  | send r | clone | release =>
    obtain ⟨-, rfl⟩ := withRight_eq_some.mp hd
    rfl
  | lock =>
    obtain ⟨-, same⟩ := Option.ite_none_left_eq_some.mp hd
    cases same
    rfl
  | unlock =>
    obtain ⟨-, same⟩ := Option.ite_none_right_eq_some.mp hd
    cases same
    rfl
  | _ =>
    cases hd
    rfl

end Collector

/-! ## requests -/

/-- a streamed request has a round for each span and one for its end: as many as it stands for reports -/
def Request.rounds (r : Request) : Nat :=
  if isStreamed r.path r.headers then r.items.1.length else 0

namespace Request

variable {r : Request}

theorem rounds_of_whole (whole : isStreamed r.path r.headers = false) : r.rounds = 0 := by
  rw [rounds, whole]
  rfl

theorem rounds_of_not_opened {v : Violation} (refused : OpenStream.open? r.body = .error v)
    (streamed : isStreamed r.path r.headers = true) : r.rounds = 0 := by
  rw [rounds, if_pos streamed, items, if_pos streamed, OpenStream.items_of_not_opened refused]
  rfl

theorem rounds_of_opened {header : Report} {s : OpenStream}
    (opens : OpenStream.open? r.body = .ok (header, s)) (streamed : isStreamed r.path r.headers = true) :
    r.rounds = s.items.1.length + 1 := by
  rw [rounds, if_pos streamed, items_of_opened opens streamed]
  rfl

end Request

theorem Next.roundsLeft_of_report? {r : Request} {n : Next} (h : Next.report? r = .ok n) :
    n.roundsLeft = r.rounds := by
  rcases Next.report?_eq_ok h with ⟨streamed, header, s, opens, rfl⟩ | ⟨whole, report, -, rfl⟩
  · exact (Request.rounds_of_opened opens streamed).symm
  · exact (Request.rounds_of_whole whole).symm

theorem Collector.Sound.perform_paces {c : Collector} (h : c.Sound)
    (right : c.owners < c.pipeline.senders) (r : Request) :
    ∃ s, (c.perform .report r).At c.nextId s ∧ s.roundsLeft = r.rounds ∧ s.wakes = [] := by
  rcases h.perform_report right r with ⟨n, hn, ready⟩ | ⟨v, hv, ended⟩
  · exact ⟨_, ready, Next.roundsLeft_of_report? hn, rfl⟩
  · refine ⟨_, ended, ?_, rfl⟩
    rw [Request.rounds, Request.items_of_error hv]
    exact (ite_self 0).symm

/-! ## runs -/

namespace Course

variable {k l : Course} {es : List Happening} {id : TaskId} {s : Stage} {request : Request}

theorem paces (h : k.collector.Sound) (ran : run es k = some l) (hs : k.collector.At id s) :
    ∃ s', l.collector.At id s' ∧ s.Paces k.collector.throttleDelay s' (noted (Collector.rounds id) es k)
      (noted (Collector.rests id) es k) := by
  induction es generalizing k s with
  | nil =>
    cases ran
    exact ⟨s, hs, .refl _ s⟩
  | cons e es ih =>
    obtain ⟨m, hm, ran⟩ := Option.bind_eq_some_iff.mp ran
    rw [noted_cons es hm, noted_cons es hm]
    obtain ⟨d, hd, rfl⟩ := Option.map_eq_some_iff.mp hm
    obtain ⟨s', hs', first⟩ := h.paces hd hs
    obtain ⟨s'', reached, last⟩ := ih (h.of_happen? hd) ran hs'
    rw [Collector.happen?_leaves_throttleDelay h hd] at last
    exact ⟨s'', reached, first.trans last⟩

theorem run_leaves_throttleDelay (h : k.collector.Sound) (ran : run es k = some l) :
    l.collector.throttleDelay = k.collector.throttleDelay := by
  refine (run_keeps (P := fun l => l.collector.Sound ∧
    l.collector.throttleDelay = k.collector.throttleDelay) ?_ ⟨h, rfl⟩ ran).2
  intro e l m ⟨sound, same⟩ hm
  obtain ⟨d, hd, rfl⟩ := Option.map_eq_some_iff.mp hm
  exact ⟨sound.of_happen? hd, (Collector.happen?_leaves_throttleDelay sound hd).trans same⟩

/-- where streams are throttled all the time or never, so are all rounds -/
theorem Throttles.rounds {on : Bool} (h : Throttles id on es k) :
    ∀ r ∈ noted (Collector.rounds id) es k, r.throttled = on := by
  intro r hr
  obtain ⟨xs, e, ys, l, split, ran, mem⟩ := exists_of_mem_noted hr
  obtain ⟨same, p, underway⟩ := Collector.of_mem_rounds mem
  exact same.trans (h xs (e :: ys) l p split ran underway)

/-- of its rounds a request has opened some and the others are left, and of the delays that begin with
them all are over but one that may last -/
theorem request_paces (h : k.collector.Sound)
    (went : run (.perform .report request :: es) k = some l) :
    let rounds := noted (Collector.rounds k.collector.nextId) (.perform .report request :: es) k
    let delays := noted (Collector.rests k.collector.nextId) (.perform .report request :: es) k
    ∃ s : Stage, l.collector.At k.collector.nextId s ∧ rounds.length + s.roundsLeft = request.rounds ∧
      delays.length + s.wakes.length = rounds.countP Round.throttled ∧
      (s.wakes = [] → List.Forall₂ (fun r time => r.time + k.collector.throttleDelay ≤ time)
        (rounds.filter Round.throttled) delays) := by
  obtain ⟨m, hm, ran⟩ := Option.bind_eq_some_iff.mp went
  rw [noted_cons es hm, noted_cons es hm, Collector.rounds_others Happening.noConfusion,
    Collector.rests_others Happening.noConfusion, List.nil_append, List.nil_append]
  obtain ⟨d, hd, rfl⟩ := Option.map_eq_some_iff.mp hm
  rw [← Collector.happen?_leaves_throttleDelay h hd]
  have sound := h.of_happen? hd
  obtain ⟨right, rfl⟩ := Collector.withRight_eq_some.mp hd
  obtain ⟨s, hs, total, awake⟩ := h.perform_paces right request
  obtain ⟨s', reached, paces⟩ := paces sound ran hs
  exact ⟨s', reached, paces.counted.trans total, paces.length_rests awake, paces.delays awake⟩

end Course

/-- **A streamed request is delayed once for each of its rounds that finds it throttled**, however often
that is switched on and off meanwhile and whatever else goes on.  It has a round for each span that it
hands over and one more, which finds the end or a violation; a request that comes whole, or whose stream
cannot be opened, has none. -/
theorem one_delay_per_throttled_round {capacity throttleDelay : Nat} {store : ReportStore} {p : Pipeline}
    {request : Request} {before after : List Happening} {c d : Course}
    (started : Pipeline.start capacity store = .ok p)
    (came : Course.run before (.opened p throttleDelay) = some c)
    (went : Course.run (.perform .report request :: after) c = some d) :
    let id := c.collector.nextId
    let es := Happening.perform .report request :: after
    let rounds := Course.noted (Collector.rounds id) es c
    let delays := Course.noted (Collector.rests id) es c
    let through := (∃ o, d.collector.At id (.ended o)) ∨ d.collector.At id (.underway .held)
    (∀ wake n, d.collector.At id (.underway (.pausing wake n)) →
      delays.length + 1 = rounds.countP Round.throttled) ∧
    ((∀ wake n, ¬ d.collector.At id (.underway (.pausing wake n))) →
      delays.length = rounds.countP Round.throttled ∧
      List.Forall₂ (fun r time => r.time + throttleDelay ≤ time) (rounds.filter Round.throttled) delays) ∧
    (isStreamed request.path request.headers = true →
      (∀ v, OpenStream.open? request.body = .error v → rounds = [] ∧ delays = []) ∧
      ∀ header s, OpenStream.open? request.body = .ok (header, s) → through →
        ∃ spans, sentBy id d.handed = header :: spans ∧ rounds.length = spans.length + 1 ∧
          delays.length = rounds.countP Round.throttled ∧
          (Course.Throttles id true es c → delays.length = spans.length + 1)) ∧
    (isStreamed request.path request.headers = false → rounds = [] ∧ delays = []) ∧
    (Course.Throttles id false es c → delays = []) ∧
    (d.collector.AtRest → through) ∧ ∃ e, Course.Drifts d e ∧ e.collector.AtRest := by
  intro id es rounds delays through
  have sound := (Course.sound_opened throttleDelay started).run came
  have delay : c.collector.throttleDelay = throttleDelay :=
    Course.run_leaves_throttleDelay (Course.sound_opened throttleDelay started).collector came
  obtain ⟨q, reached, (opened : rounds.length + q.roundsLeft = request.rounds),
    (accounts : delays.length + q.wakes.length = rounds.countP Round.throttled), slept⟩ :=
    Course.request_paces sound.collector went
  rw [delay] at slept
  obtain ⟨k, begins, goesOn⟩ := Option.bind_eq_some_iff.mp went
  have serves := (sound.begins_to_serve begins).run goesOn
  have stage {q' : Stage} (hq : d.collector.At id q') : q = q' := serves.sound.at_unique reached hq
  have none (zero : request.rounds = 0) : rounds = [] ∧ delays = [] := by
    have noRound : rounds = [] := List.eq_nil_of_length_eq_zero (by omega)
    rw [noRound, List.countP_nil] at accounts
    exact ⟨noRound, List.eq_nil_of_length_eq_zero (by omega)⟩
  refine ⟨?_, ?_, ?_, ?_, ?_, serves.at_rest, ?_⟩
  · intro wake n pauses
    rw [stage pauses] at accounts
    exact accounts
  · intro goes
    have awake : q.wakes = [] := Stage.wakes_eq_nil fun wake n same => goes wake n (same ▸ reached)
    rw [awake] at accounts
    exact ⟨accounts, slept awake⟩
  · intro streamed
    refine ⟨fun v refused => none (Request.rounds_of_not_opened refused streamed), ?_⟩
    intro header s opens isThrough
    obtain ⟨-, finished, held⟩ := serves.told
    -- whether it has ended or is held, it has handed everything over and opened all its rounds
    have all : sentBy id d.handed = request.items.1 ∧ q.roundsLeft = 0 ∧ q.wakes = [] := by
      rcases isThrough with ⟨o, ended⟩ | waits
      · rw [stage ended]
        exact ⟨(finished o ended).1, rfl, rfl⟩
      · rw [stage waits]
        exact ⟨(held waits).1, rfl, rfl⟩
    obtain ⟨handed, left, awake⟩ := all
    rw [Request.items_of_opened opens streamed] at handed
    rw [left, Request.rounds_of_opened opens streamed] at opened
    rw [awake] at accounts
    refine ⟨s.items.1, handed, opened, accounts, ?_⟩
    intro always
    have each : rounds.countP Round.throttled = rounds.length := List.countP_eq_length.mpr always.rounds
    exact (accounts.trans each).trans opened
  · exact fun whole => none (Request.rounds_of_whole whole)
  · intro never
    have noDelay : rounds.countP Round.throttled = 0 :=
      List.countP_eq_zero.mpr fun r hr => Bool.eq_false_iff.mp (never.rounds r hr)
    exact List.eq_nil_of_length_eq_zero (by omega)
  · obtain ⟨e, drifts, -, rest⟩ := Course.drifts_to_rest serves.sound
    exact ⟨e, drifts, rest⟩

/-- the opening frames and two spans, in pieces -/
def unhurried : Request :=
  ⟨"/report-mock-streaming", [], [.bytes [10, 0, 18, 0, 50, 0, 26], .bytes [0, 26, 0]]⟩

/-- streams are throttled but in the second round, and the third is opened late -/
def hurrying : List Happening :=
  [.go 0, .go 0, .throttle false, .elapse 100, .go 0, .unlock, .take, .store, .go 0, .go 0, .go 0, .go 0,
    .throttle true, .take, .go 0, .elapse 150, .go 0, .go 0]

/-- two of three rounds are delayed; of a stream that strays in its second round, both -/
theorem one_delay_per_throttled_round_on_and_off :
    (∃ p, Pipeline.start 1 .empty = .ok p ∧
        Course.run [.lock, .throttle true] (.opened p 100) = some slowed) ∧
      (∃ d header spans, Course.run (.perform .report unhurried :: hurrying) slowed = some d ∧
        Course.noted (Collector.rounds 0) (.perform .report unhurried :: hurrying) slowed
          = [⟨0, true⟩, ⟨100, false⟩, ⟨100, true⟩] ∧
        Course.noted (Collector.rests 0) (.perform .report unhurried :: hurrying) slowed = [100, 250] ∧
        sentBy 0 d.handed = header :: spans ∧ 3 = spans.length + 1) ∧
      Course.Throttles 0 true (.perform .report strayed :: straying) slowed ∧
      ∃ header spans, sentBy 0 brokenOff.handed = header :: spans ∧
        (Course.noted (Collector.rests 0) (.perform .report strayed :: straying) slowed).length
          = spans.length + 1 := by
  let p : Pipeline := ⟨1, 1, [], [], .idle, 0, .empty, false, []⟩
  have started : Pipeline.start 1 .empty = .ok p := rfl
  have came : Course.run [.lock, .throttle true] (.opened p 100) = some slowed := by decide +kernel
  have opened {body : Body} (h : (OpenStream.open? body).isOk = true) :
      ∃ header s, OpenStream.open? body = .ok (header, s) := by
    cases ho : OpenStream.open? body with
    | ok opened => exact ⟨opened.1, opened.2, rfl⟩
    | error v =>
      rw [ho] at h
      cases h
  refine ⟨⟨p, started, came⟩, ?_, ?_⟩
  · obtain ⟨d, went⟩ := Option.isSome_iff_exists.mp
      (by decide +kernel : (Course.run (.perform .report unhurried :: hurrying) slowed).isSome = true)
    have ended : ∀ d ∈ Course.run (.perform .report unhurried :: hurrying) slowed,
        ∃ e ∈ d.collector.ended, e.id = 0 := by decide +kernel
    obtain ⟨e, he, same⟩ := ended d went
    obtain ⟨header, s, opens⟩ := opened (by decide +kernel : (OpenStream.open? unhurried.body).isOk = true)
    obtain ⟨-, -, streamed, -⟩ := one_delay_per_throttled_round started came went
    obtain ⟨spans, handed, count, -⟩ :=
      (streamed (by decide +kernel)).2 header s opens (Or.inl ⟨e.outcome, e, he, same, rfl⟩)
    have rounds : Course.noted (Collector.rounds 0) (.perform .report unhurried :: hurrying) slowed
        = [⟨0, true⟩, ⟨100, false⟩, ⟨100, true⟩] := by decide +kernel
    refine ⟨d, header, spans, went, rounds, by decide +kernel, handed, ?_⟩
    exact (congrArg List.length rounds).symm.trans count
  · have went : Course.run (.perform .report strayed :: straying) slowed = some brokenOff := by
      decide +kernel
    have always : Course.Throttles 0 true (.perform .report strayed :: straying) slowed :=
      Course.throttles_of_inits (by decide +kernel)
    have broken : brokenOff.collector.At 0 (.ended (.violated (.span (.unexpectedTag 3 26 7)))) :=
      ⟨_, List.mem_singleton.mpr rfl, rfl, rfl⟩
    obtain ⟨header, s, opens⟩ := opened (by decide +kernel : (OpenStream.open? strayed.body).isOk = true)
    obtain ⟨-, -, streamed, -⟩ := one_delay_per_throttled_round started came went
    obtain ⟨spans, handed, -, -, delays⟩ :=
      (streamed (by decide +kernel)).2 header s opens (Or.inl ⟨_, broken⟩)
    exact ⟨always, header, spans, handed, delays always⟩

end MockCollector
