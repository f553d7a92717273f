import MockCollector.Proofs.Collector.Faults
/-!
# Faults strike once

* `Chronicle`, `Chronicle.run`   a collector in a run, and all that was done to its faults;
* `Chronicle.Sound`          the log accounts for the faults, and for how every report fares;
* `Collector.Met id met`     how a report fares whose answer met `met`;
* `faults_strike_once`       every answer meets the first fault that is armed, which is then spent.
-/

namespace MockCollector

/-! ## runs -/

structure Chronicle where
  collector : Collector
  log : List Faults.Event
  deriving DecidableEq

namespace Chronicle

def opened (p : Pipeline) (throttleDelay : Nat) : Chronicle := ⟨.start p throttleDelay, []⟩

def step? (k : Chronicle) (e : Happening) : Option Chronicle :=
  (k.collector.happen? e).map fun d => ⟨d, k.log ++ k.collector.faultEvents e⟩

def run : List Happening → Chronicle → Option Chronicle := MockCollector.run step?

structure Sound (k : Chronicle) : Prop where
  collector : k.collector.Sound
  replays : MockCollector.run Faults.after? k.log Faults.none = some k.collector.faults
  known : ∀ id met, .answered id met ∈ k.log → ∃ s, k.collector.At id s
  shows : ∀ id, .came id ∈ k.log →
    ∃ s, k.collector.At id s ∧ s.Shows (Faults.answersTo id k.log) k.collector.stopped

theorem sound_opened {capacity : Nat} {store : ReportStore} {p : Pipeline} (throttleDelay : Nat)
    (started : Pipeline.start capacity store = .ok p) : (opened p throttleDelay).Sound where
  collector := .start throttleDelay started
  replays := rfl
  known _ _ h := absurd h List.not_mem_nil
  shows _ h := absurd h List.not_mem_nil

theorem Sound.known_none {k : Chronicle} (h : k.Sound) :
    Faults.answersTo k.collector.nextId k.log = [] := by
  refine List.eq_nil_iff_forall_not_mem.mpr fun met mem => ?_
  obtain ⟨s, hs⟩ := h.known _ met (Faults.mem_answersTo.mp mem)
  exact Nat.lt_irrefl _ (h.collector.lt_nextId hs)

theorem Sound.step? {k l : Chronicle} {e : Happening} (h : k.Sound) (hl : k.step? e = some l) :
    l.Sound := by
  obtain ⟨d, hd, rfl⟩ := Option.map_eq_some_iff.mp hl
  obtain ⟨faults, later⟩ := Collector.happen?_faults hd
  refine ⟨h.collector.of_happen? hd, ?_, fun id met mem => ?_, fun id mem => ?_⟩
  · show MockCollector.run Faults.after? (k.log ++ _) _ = _
    rw [run_append, h.replays]
    exact faults
  · rcases List.mem_append.mp mem with old | new
    · obtain ⟨s, hs⟩ := h.known id met old
      exact h.collector.stays_known hd hs
    · obtain rfl := Collector.eq_go_of_answered new
      obtain ⟨t, ht, -⟩ := Option.bind_eq_some_iff.mp hd
      have same : t.id = id := beq_iff_eq.mp (List.find?_some (p := fun t : Task => t.id == id) ht)
      have there : k.collector.At id (.underway t.progress) :=
        ⟨t, List.mem_of_find?_eq_some ht, same, rfl⟩
      exact h.collector.stays_known hd there
  · show ∃ s, d.At id s ∧ s.Shows (Faults.answersTo id (k.log ++ _)) d.stopped
    rw [Faults.answersTo_append]
    rcases List.mem_append.mp mem with old | new
    · obtain ⟨s, hs, shows⟩ := h.shows id old
      exact h.collector.shows hd hs shows
    · obtain ⟨r, rfl, rfl⟩ := Collector.eq_perform_of_came new
      obtain ⟨right, rfl⟩ := Collector.withRight_eq_some.mp hd
      rw [h.known_none]
      exact h.collector.perform_shows right r _

theorem Sound.run {es : List Happening} {k l : Chronicle} (h : k.Sound) (ran : run es k = some l) :
    l.Sound :=
  run_keeps (P := Sound) (fun _ _ _ h hl => h.step? hl) h ran

end Chronicle

/-! ## how reports fare -/

/-- how the report fares whose answer met a fault, or none -/
def Collector.Met (c : Collector) (id : TaskId) : Option OneShot → Prop
  | some .prematureClose => c.At id (.ended .dropped) ∧ c.stopped = true
  | some .timeout => c.At id (.underway .held) ∨ c.At id (.ended .dropped) ∧ c.stopped = true
  | some .error =>
    c.At id (.ended (.answered .failed)) ∧ Answer.failed.status = 500 ∧ Answer.failed.body = []
  | none => ∃ r, c.At id (.ended (.answered (.report r))) ∧ (Answer.report r).status = 200

theorem Stage.Shows.met {c : Collector} {id : TaskId} {s : Stage} {answers : List (Option OneShot)}
    (h : s.Shows answers c.stopped) (hs : c.At id s) :
    answers.length ≤ 1 ∧ (∀ met ∈ answers, c.Met id met) ∧
      ∀ o, s = .ended o → (answers = [] ↔ ∃ v, o = .violated v) := by
  generalize stopped : c.stopped = b at h
  cases h with
  | waiting serves free => exact ⟨Nat.zero_le _, fun _ h => absurd h List.not_mem_nil, nofun⟩
  | violated v =>
    refine ⟨Nat.zero_le _, fun _ h => absurd h List.not_mem_nil, ?_⟩
    rintro _ ⟨⟩
    exact ⟨fun _ => ⟨v, rfl⟩, fun _ => rfl⟩
  | received r =>
    refine ⟨Nat.le_refl _, fun met h => List.mem_singleton.mp h ▸ ⟨r, hs, rfl⟩, ?_⟩
    rintro _ ⟨⟩
    exact ⟨nofun, nofun⟩
  | failed =>
    refine ⟨Nat.le_refl _, fun met h => List.mem_singleton.mp h ▸ ⟨hs, rfl, rfl⟩, ?_⟩
    rintro _ ⟨⟩
    exact ⟨nofun, nofun⟩
  | held => exact ⟨Nat.le_refl _, fun met h => List.mem_singleton.mp h ▸ Or.inl hs, nofun⟩
  | released =>
    refine ⟨Nat.le_refl _, fun met h => List.mem_singleton.mp h ▸ Or.inr ⟨hs, stopped⟩, ?_⟩
    rintro _ ⟨⟩
    exact ⟨nofun, nofun⟩
  | closed =>
    refine ⟨Nat.le_refl _, fun met h => List.mem_singleton.mp h ▸ ⟨hs, stopped⟩, ?_⟩
    rintro _ ⟨⟩
    exact ⟨nofun, nofun⟩

/-- **A fault that is armed strikes once**, whatever else goes on.  All that touches the faults is in the
log, and every answer meets the first that is armed, takes that one off and no other, and fares as it
calls for; a report that is broken off meets none.  So every fault that is armed is spent, once, unless it
is armed still; and whoever is held by a collector that has stopped can be let go and will be. -/
theorem faults_strike_once {capacity throttleDelay : Nat} {store : ReportStore} {p : Pipeline}
    {es : List Happening} {k : Chronicle} (started : Pipeline.start capacity store = .ok p)
    (ran : Chronicle.run es (.opened p throttleDelay) = some k) :
    (∀ e d, k.collector.happen? e = some d →
      run Faults.after? (k.collector.faultEvents e) k.collector.faults = some d.faults) ∧
    run Faults.after? k.log Faults.none = some k.collector.faults ∧
    (∀ xs id met ys, k.log = xs ++ .answered id met :: ys → ∃ f g,
      run Faults.after? xs Faults.none = some f ∧
      run Faults.after? ys g = some k.collector.faults ∧
      (met = if f.prematureClose then some .prematureClose
        else if f.timeout then some .timeout
        else if f.error then some .error
        else none) ∧
      g.throttle = f.throttle ∧ ∀ j, g.isArmed j = (f.isArmed j && met != some j)) ∧
    (∀ id, .came id ∈ k.log →
      (Faults.answersTo id k.log).length ≤ 1 ∧
      (∀ met, .answered id met ∈ k.log → k.collector.Met id met) ∧
      ∀ o, k.collector.At id (.ended o) →
        ((∀ met, .answered id met ∉ k.log) ↔ ∃ v, o = .violated v)) ∧
    (∀ j, k.log.countP (Faults.Event.arms j)
      = k.log.countP (Faults.Event.spends j) + if k.collector.faults.isArmed j then 1 else 0) ∧
    (∀ j xs a ys b zs, k.log = xs ++ a :: (ys ++ b :: zs) → a.spends j = true → b.spends j = true →
      .armed j false ∈ ys) ∧
    (k.collector.stopped = true → ∀ id,
      (k.collector.At id (.underway .held) →
        (∃ d, k.collector.happen? (.go id) = some d ∧ d.At id (.ended .dropped)) ∧
          k.collector.settle.At id (.ended .dropped)) ∧
      ¬ k.collector.settle.At id (.underway .held)) := by
  have h := (Chronicle.sound_opened throttleDelay started).run ran
  refine ⟨fun e d hd => (Collector.happen?_faults hd).1, h.replays, ?_, ?_, ?_, ?_, ?_⟩
  · intro xs id met ys split
    have replays := h.replays
    rw [split, run_append] at replays
    obtain ⟨f, before, replays⟩ := Option.bind_eq_some_iff.mp replays
    obtain ⟨g, answer, after⟩ := Option.bind_eq_some_iff.mp replays
    obtain ⟨first, same⟩ := Option.ite_none_right_eq_some.mp answer
    cases same
    refine ⟨f, _, before, after, first ▸ f.first?_eq, Faults.throttle_spent f, fun j => ?_⟩
    rw [Faults.isArmed_spent, first]
  · intro id came
    obtain ⟨s, hs, shows⟩ := h.shows id came
    obtain ⟨once, fares, broken⟩ := shows.met hs
    refine ⟨once, fun met mem => fares met (Faults.mem_answersTo.mpr mem), fun o ho => ?_⟩
    rw [← broken o (h.collector.at_unique hs ho), List.eq_nil_iff_forall_not_mem]
    simp only [Faults.mem_answersTo]
  · intro j
    have balance := Faults.balance j h.replays
    have unarmed : Faults.none.isArmed j = false := by cases j <;> rfl
    rw [unarmed, Bool.toNat_false, Nat.add_zero] at balance
    rw [balance]
    cases k.collector.faults.isArmed j <;> rfl
  · intro j xs a ys b zs split first second
    exact Faults.armed_between (split ▸ h.replays) first second
  · intro stopped id
    refine ⟨fun waits => ⟨?_, h.collector.dropped_settle stopped waits⟩,
      h.collector.none_held_settle stopped⟩
    obtain ⟨t, ht, rfl, held⟩ := waits
    have step : k.collector.taskStep? t = some (k.collector.finish t .dropped) := by
      rw [Collector.taskStep?, held]
      exact if_pos stopped
    exact ⟨_, (h.collector.happen?_go ht).trans step,
      (Collector.Moved.finish h.collector ht .dropped).reached⟩

/-- a report that comes whole, and is empty -/
def whole : Request := ⟨Endpoint.report.path, [⟨"content-length", "0"⟩], []⟩

/-- the first report has no length and the second strays, so neither meets a fault; of those that follow,
one is held, one is failed, one is taken in, and one is not answered any more -/
def eventful : List Happening :=
  [.arm .error, .arm .error, .perform (.arm .timeout) whole, .perform .report { whole with headers := [] },
    .perform .report strayed, .go 2, .go 2, .go 2, .go 2, .go 2, .go 2,
    .perform .report whole, .go 3, .go 3, .perform .report whole, .go 4, .go 4,
    .consume .error, .arm .error, .consume .error, .throttle true,
    .perform .report whole, .go 5, .go 5, .arm .prematureClose, .perform .report whole, .go 6, .go 6]

def eventfulLog : List Faults.Event :=
  [.armed .error false, .armed .error true, .armed .timeout false, .came 1, .came 2,
    .came 3, .answered 3 (some .timeout), .came 4, .answered 4 (some .error),
    .consumed .error false, .armed .error false, .consumed .error true, .throttled true,
    .came 5, .answered 5 none, .armed .prematureClose false, .came 6, .answered 6 (some .prematureClose)]

theorem faults_strike_once_in_an_eventful_run : ∃ p k, Pipeline.start 8 .empty = .ok p ∧
    Chronicle.run eventful (.opened p 100) = some k ∧ k.log = eventfulLog ∧
      k.collector.Met 3 (some .timeout) ∧ k.collector.Met 4 (some .error) ∧ k.collector.Met 5 none ∧
      k.collector.Met 6 (some .prematureClose) ∧ k.collector.settle.At 3 (.ended .dropped) := by
  let p : Pipeline := ⟨8, 1, [], [], .idle, 0, .empty, false, []⟩
  have started : Pipeline.start 8 .empty = .ok p := rfl
  obtain ⟨k, ran⟩ := Option.isSome_iff_exists.mp
    (by decide +kernel : (Chronicle.run eventful (.opened p 100)).isSome = true)
  have logged : (Chronicle.run eventful (.opened p 100)).map Chronicle.log = some eventfulLog := by
    decide +kernel
  have stopped : (Chronicle.run eventful (.opened p 100)).map (·.collector.stopped) = some true := by
    decide +kernel
  have held : (Chronicle.run eventful (.opened p 100)).map (·.collector.tasks)
      = some [⟨3, 0, .held⟩] := by decide +kernel
  rw [ran] at logged stopped held
  have log : k.log = eventfulLog := Option.some.inj logged
  obtain ⟨-, -, -, reports, -, -, release⟩ := faults_strike_once started ran
  rw [log] at reports
  have waits : k.collector.At 3 (.underway .held) := by
    refine ⟨⟨3, 0, .held⟩, ?_, rfl, rfl⟩
    rw [show k.collector.tasks = [⟨3, 0, .held⟩] from Option.some.inj held]
    exact List.mem_singleton.mpr rfl
  exact ⟨p, k, started, ran, log, (reports 3 (by decide)).2.1 _ (by decide),
    (reports 4 (by decide)).2.1 _ (by decide), (reports 5 (by decide)).2.1 _ (by decide),
    (reports 6 (by decide)).2.1 _ (by decide), ((release (Option.some.inj stopped) 3).1 waits).2⟩

end MockCollector
