import MockCollector.Proofs.Collector.Succession
/-!
# Faults do not interfere with what is stored

* `Course.attend?`, `Course.attended`   a run in which nobody else sends, and a report comes only when those
                           before it have nothing left to hand over; whoever is asked to handle it does so,
                           whether or not the collector still listens;
* `Happening.meddles`      the faults are set or consumed, or throttling is switched;
* `Happening.report?`      the report that comes;
* `Collector.Settled`      nothing is left to hand over, queued or held;
* `faults_do_not_interfere`   two runs in which the same reports come leave the same in the store, however the
                           faults were meddled with in either.
-/

namespace MockCollector

/-- the faults are set by hand -/
def Happening.meddles : Happening → Bool
  | .arm _ | .consume _ | .throttle _ => true
  | _ => false

def Happening.report? : Happening → Option Request
  | .perform .report r => some r
  | _ => none

theorem Happening.report?_of_bringsReport {e : Happening} (h : ¬e.bringsReport = true) :
    e.report? = none := by
  cases e with
  | perform a r =>
    cases a with
    | report => exact absurd rfl h
    | _ => rfl
  | _ => rfl

namespace Collector

/-- whether `e` may happen in a run in which reports come one after the other, and no others are sent -/
def admits (c : Collector) : Happening → Bool
  | .perform .report _ => c.tasks.all fun t => t.progress.isSilent
  | .send _ => false
  | _ => true

structure Settled (c : Collector) : Prop where
  silent : ∀ t ∈ c.tasks, t.progress.isSilent = true
  queue : c.pipeline.queue = []
  holding : c.pipeline.holding = []

variable {c : Collector}

theorem admits_of_bringsReport {e : Happening} (h : ¬e.bringsReport = true) : c.admits e = true := by
  cases e with
  | perform a r =>
    cases a with
    | report => exact absurd rfl h
    | _ => rfl
  | send r => exact absurd rfl h
  | _ => rfl

theorem Sound.settled (h : c.Sound) (rest : c.AtRest) : c.Settled := by
  obtain ⟨-, noStore, noRead, noTake⟩ := move?_eq_none rest.still
  obtain ⟨-, holding, queue, -⟩ := h.coupled.at_rest rest.free noStore noRead noTake
  refine ⟨fun t ht => ?_, queue, holding⟩
  obtain ⟨notReady, notQueued, awake⟩ := h.idle_at_rest rest ht
  cases hp : t.progress with
  | ready n => exact absurd hp (notReady n)
  | queued n => exact absurd hp (notQueued n)
  | pausing wake n => exact absurd hp (awake wake n)
  | fetching | held | draining => rfl

end Collector

namespace Course

def attend? (k : Course) (e : Happening) : Option Course :=
  if k.collector.admits e then k.step? e else none

def attended : List Happening → Course → Option Course := MockCollector.run attend?

/-- the reports that the requests of a run stand for -/
def brought (es : List Happening) : List Report :=
  (es.filterMap Happening.report?).flatMap fun r => r.items.1

theorem brought_cons (e : Happening) (es : List Happening) :
    brought (e :: es) = brought [e] ++ brought es := by
  rw [brought, brought, brought, ← List.flatMap_append, ← List.filterMap_append,
    List.singleton_append]

theorem brought_report (r : Request) : brought [.perform .report r] = r.items.1 := by
  show [r].flatMap _ = _
  exact List.flatMap_singleton _ r

variable {initial : ReportStore} {items : List Report} {k l : Course}

/-- what brings no report can happen just as in any run -/
theorem attend?_of_bringsReport {e : Happening} (h : ¬e.bringsReport = true) :
    k.attend? e = k.step? e :=
  if_pos (Collector.admits_of_bringsReport h)

theorem Owes.attend? {e : Happening} (h : k.Owes initial items) (hl : k.attend? e = some l) :
    l.Owes initial (items ++ brought [e]) := by
  obtain ⟨admitted, hl⟩ := Option.ite_none_right_eq_some.mp hl
  by_cases brings : e.bringsReport = true
  · cases e with
    | perform a r =>
      cases a with
      | report =>
        rw [brought_report]
        exact h.comes (List.all_eq_true.mp admitted) hl
      | _ => cases brings
    | send r => cases admitted
    | _ => cases brings
  · rw [brought, List.filterMap_cons_none (Happening.report?_of_bringsReport brings)]
    exact (List.append_nil items).symm ▸ h.happens brings hl

theorem Owes.attended {es : List Happening} (h : k.Owes initial items)
    (ran : attended es k = some l) : l.Owes initial (items ++ brought es) := by
  induction es generalizing k items with
  | nil =>
    cases ran
    exact (List.append_nil items).symm ▸ h
  | cons e es ih =>
    obtain ⟨m, hm, ran⟩ := Option.bind_eq_some_iff.mp
      (show (k.attend? e).bind (Course.attended es) = some l from ran)
    rw [brought_cons, ← List.append_assoc]
    exact ih (h.attend? hm) ran

/-- what is stored once a run has settled: its reports, one request after the other -/
theorem Owes.stored (h : k.Owes initial items) (settled : k.collector.Settled) :
    k.collector.store.reports = initial.reports ++ items := by
  rw [h.accounts.handed_eq.1, h.accounts.stored_of_drained settled.queue settled.holding,
    h.handed settled.silent]

/-- what happens by itself can happen in such a run too -/
theorem attended_of_run {es : List Happening} (quiet : ∀ e ∈ es, ¬e.bringsReport = true)
    (ran : run es k = some l) : attended es k = some l := by
  induction es generalizing k with
  | nil => exact ran
  | cons e es ih =>
    obtain ⟨m, hm, ran⟩ := Option.bind_eq_some_iff.mp
      (show (k.step? e).bind (run es) = some l from ran)
    show (k.attend? e).bind (attended es) = some l
    rw [attend?_of_bringsReport (quiet e List.mem_cons_self), hm]
    exact ih (fun f hf => quiet f (List.mem_cons_of_mem _ hf)) ran

theorem attended_to_rest {es : List Happening} {k₀ : Course} (ran : attended es k₀ = some k)
    (sound : k.collector.Sound) : ∃ more l, (∀ e ∈ more, e.isSpontaneous = true) ∧
      attended (es ++ more) k₀ = some l ∧ l.collector.Settled := by
  obtain ⟨l, ⟨more, spontaneous, goesOn⟩, sound, rest⟩ := drifts_to_rest sound
  refine ⟨more, l, spontaneous, ?_, sound.settled rest⟩
  rw [attended, run_append]
  refine Option.bind_eq_some_iff.mpr ⟨k, ran, attended_of_run (fun e he => ?_) goesOn⟩
  rw [Happening.bringsReport_of_isSpontaneous (spontaneous e he)]
  exact Bool.false_ne_true

/-- the faults can be meddled with at any time -/
theorem isSome_attend?_of_meddles {e : Happening} (h : e.meddles = true) :
    (k.attend? e).isSome = true := by
  cases e with
  | arm | consume | throttle => rfl
  | _ => cases h

end Course

/-- **Faults never influence what is stored**: where the same reports come one after the other, two runs
leave the same reports in the store once they have settled, which either can from wherever it stands and
whatever faults are set in it, at any time. -/
theorem faults_do_not_interfere {capacity capacity' throttleDelay throttleDelay' : Nat}
    {store : ReportStore} {p q : Pipeline} {es fs : List Happening} {k l : Course}
    (started : Pipeline.start capacity store = .ok p)
    (started' : Pipeline.start capacity' store = .ok q)
    (same : es.filterMap Happening.report? = fs.filterMap Happening.report?)
    (ran : Course.attended es (.opened p throttleDelay) = some k)
    (ran' : Course.attended fs (.opened q throttleDelay') = some l) :
    (k.collector.Settled → l.collector.Settled →
      k.collector.store.reports = l.collector.store.reports) ∧
    (∀ e, e.meddles = true → (k.attend? e).isSome = true) ∧
    ∃ more m, (∀ e ∈ more, e.isSpontaneous = true) ∧
      Course.attended (es ++ more) (.opened p throttleDelay) = some m ∧ m.collector.Settled := by
  have owes := (Course.Owes.opened throttleDelay started).attended ran
  have owes' := (Course.Owes.opened throttleDelay' started').attended ran'
  refine ⟨fun settled settled' => ?_, fun _ => Course.isSome_attend?_of_meddles,
    Course.attended_to_rest ran owes.accounts.course.collector⟩
  rw [owes.stored settled, owes'.stored settled', Course.brought, Course.brought, same]

/-- a stream of one span, without faults -/
def calm : Request :=
  ⟨"/report-mock-streaming", [], [.bytes [10, 0, 18, 0, 50, 0, 26, 0]]⟩

/-- one stream is answered, and the next one broken off -/
def undisturbed : List Happening :=
  .perform .report calm :: List.replicate 7 (.go 0) ++ [.take, .store, .take, .store]
    ++ .perform .report strayed :: List.replicate 6 (.go 1) ++ [.take, .store, .take, .store]

/-- the first stream is throttled in the middle and held at its end; the next one finds two faults
armed and a queue that is full -/
def meddled : List Happening :=
  [.arm .timeout, .perform .report calm, .go 0, .throttle true, .go 0, .elapse 100, .go 0, .arm .error,
    .go 0, .take, .go 0, .consume .error, .throttle false, .elapse 100, .go 0, .go 0,
    .arm .prematureClose, .arm .error, .perform .report strayed, .go 1, .store, .take, .store, .take,
    .throttle true, .go 1, .elapse 100, .go 1, .go 1, .go 1, .consume .prematureClose, .elapse 100, .go 1,
    .store, .take, .store]

theorem faults_do_not_interfere_with_two_streams : ∃ p q k l,
    Pipeline.start 2 .empty = .ok p ∧ Pipeline.start 1 .empty = .ok q ∧
      undisturbed.filterMap Happening.report? = meddled.filterMap Happening.report? ∧
      Course.attended undisturbed (.opened p 0) = some k ∧
      Course.attended meddled (.opened q 100) = some l ∧
      k.collector.tasks = [] ∧ l.collector.tasks.map Task.progress = [.held] ∧
      k.collector.store.reports = l.collector.store.reports := by
  let p : Pipeline := ⟨2, 1, [], [], .idle, 0, .empty, false, []⟩
  let q : Pipeline := ⟨1, 1, [], [], .idle, 0, .empty, false, []⟩
  have started : Pipeline.start 2 .empty = .ok p := rfl
  have started' : Pipeline.start 1 .empty = .ok q := rfl
  have same : undisturbed.filterMap Happening.report? = meddled.filterMap Happening.report? := by
    decide
  let left (k : Course) := (k.collector.tasks.map Task.progress, k.collector.pipeline.queue,
    k.collector.pipeline.holding)
  have ends : (Course.attended undisturbed (.opened p 0)).map left = some ([], [], []) := by
    decide +kernel
  have ends' : (Course.attended meddled (.opened q 100)).map left = some ([.held], [], []) := by
    decide +kernel
  obtain ⟨k, ran, here⟩ := Option.map_eq_some_iff.mp ends
  obtain ⟨l, ran', here'⟩ := Option.map_eq_some_iff.mp ends'
  simp only [left, Prod.mk.injEq] at here here'
  have settled {m : Course} {ps : List Progress} (tasks : m.collector.tasks.map Task.progress = ps)
      (silent : ∀ p ∈ ps, p.isSilent = true) :
      ∀ t ∈ m.collector.tasks, t.progress.isSilent = true := fun t ht =>
    silent t.progress (tasks ▸ List.mem_map_of_mem ht)
  obtain ⟨alike, -⟩ := faults_do_not_interfere started started' same ran ran'
  refine ⟨p, q, k, l, started, started', same, ran, ran', List.map_eq_nil_iff.mp here.1, here'.1,
    alike ?_ ?_⟩
  · exact ⟨settled here.1 (by decide), here.2.1, here.2.2⟩
  · exact ⟨settled here'.1 (by decide), here'.2.1, here'.2.2⟩

end MockCollector
