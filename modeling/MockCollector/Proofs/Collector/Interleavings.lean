import MockCollector.Proofs.Collector.Storage
/-!
# Interleaved streams

* `Course.Poised`            requests that were all let in, none of which waits, over a pipeline at rest;
* `Poised.advance`           any of them can hand over its next report, and have it stored;
* `Poised.deliver`           so they can in every order that leaves each its own;
* `streams_stored_in_order`  of every request a prefix of its own reports is stored, and all of them once
                             it is through and the queue has drained; nothing else holds of the order.
-/

namespace MockCollector

/-- nothing is on the way to the store, and the store is free -/
structure Pipeline.Quiet (p : Pipeline) : Prop where
  queue : p.queue = []
  waiting : p.waiting = []
  consumer : p.consumer = .idle
  line : p.line = []
  locked : p.locked = false

/-- a report goes straight through a pipeline at rest -/
theorem Pipeline.Quiet.goes_through {p : Pipeline} (quiet : p.Quiet) (positive : 0 < p.capacity)
    (t : TaskId) (r : Report) : ∃ queued held stored, p.offer t r = .accepted queued ∧
      queued.take? = some (none, held) ∧ held.store? = some stored ∧ queued.incoming = [r] ∧
      stored.Quiet := by
  have closed : p.isClosed = false := by
    rw [isClosed, quiet.consumer]
    rfl
  have room : p.queue.length < p.capacity := by
    rw [quiet.queue]
    exact positive
  have taken : ({ p with queue := [r] } : Pipeline).take? = some (none, { p with
      consumer := .holding r, line := [.consumer], queue := [], waiting := [] }) := by
    simp only [take?, quiet.consumer, quiet.waiting, quiet.line]
    rfl
  refine ⟨{ p with queue := [r] }, _, { p with
    consumer := .idle, line := [], queue := [], waiting := [], stored := p.stored + 1
    store := p.store.append r }, ?_, taken, ?_, ?_, ⟨rfl, rfl, rfl, rfl, quiet.locked⟩⟩
  · rw [offer, closed, if_neg Bool.false_ne_true, if_pos ⟨room, quiet.waiting⟩, quiet.queue]
    rfl
  · simp only [store?, quiet.locked]
  · show [r] ++ p.waiting.map Prod.snd = [r]
    rw [quiet.waiting]
    rfl

/-! ## a report that comes -/

/-- one more task has begun, and may be over already; the owner keeps a right to send -/
structure Collector.Begins (c d : Collector) : Prop where
  quiet : c.pipeline.Quiet → d.pipeline.Quiet
  faults : d.faults = c.faults
  nextId : d.nextId = c.nextId + 1
  right : d.owners < d.pipeline.senders
  begun : (∃ m, d.At c.nextId (.underway (.ready m))) ∨ ∃ o, d.At c.nextId (.ended o)

theorem Collector.Sound.begins {c : Collector} (h : c.Sound) (right : c.owners < c.pipeline.senders)
    (request : Request) : c.Begins (c.perform .report request) := by
  unfold Collector.perform
  cases Next.report? request with
  | ok n =>
    refine ⟨fun quiet => { quiet with }, rfl, rfl, ?_, ?_⟩
    · show ((c.tasks ++ [_]).filter Task.ownsSender).length < c.pipeline.senders + 1
      rw [List.filter_append, List.length_append]
      exact Nat.succ_lt_succ right
    · let t : Task := ⟨c.nextId, c.now, .ready n⟩
      exact Or.inl ⟨n, t, List.mem_append_right _ (List.mem_singleton.mpr rfl), rfl, rfl⟩
  | error v =>
    -- a body that breaks off in its opening is done with at once, and so is its right to send
    refine ⟨fun quiet => { quiet with }, rfl, rfl, ?_, Or.inr ⟨_, (Collector.Kept.once h _ right).2⟩⟩
    let t : Task := ⟨c.nextId, c.now, .ready .respond⟩
    show (((c.tasks ++ [t]).filter fun u => u.id != t.id).filter Task.ownsSender).length
      < c.pipeline.senders + 1 - 1
    have gone : ([t].filter fun u => u.id != t.id) = [] := List.filter_cons_of_neg (by simp)
    rw [List.filter_append, gone, List.append_nil]
    exact Nat.lt_of_le_of_lt ((List.filter_sublist.filter _).length_le) right

namespace Course

/-- the first `n` tasks are requests with `items` to hand over, and each that has some left is ready to -/
structure Poised (k : Course) (n : Nat) (items : TaskId → List Report) : Prop where
  sound : k.Sound
  quiet : k.collector.pipeline.Quiet
  unthrottled : k.collector.faults.throttle = false
  serves : ∀ i < n, ∃ v, k.Serves i (items i) v
  ready : ∀ i < n, sentBy i k.handed = items i ∨ ∃ m, k.collector.At i (.underway (.ready m))

namespace Poised

variable {k : Course} {n i : Nat} {items : TaskId → List Report}

/-! ## one step of a request -/

theorem goes (h : k.Poised n items) {t : Task} (ht : t ∈ k.collector.tasks) {m : Next}
    (hm : t.progress = .ready m) :
    k.step? (.go t.id) = some ⟨k.collector.resume t m,
      k.handed ++ k.collector.handed (k.collector.resume t m) (.go t.id)⟩ := by
  have step : k.collector.taskStep? t = some (k.collector.resume t m) := by
    rw [Collector.taskStep?, hm]
  rw [Course.step?, h.sound.collector.happen?_go ht, step]
  rfl

/-- a request goes on without handing anything over -/
theorem proceed (h : k.Poised n items) {m : Next} (m' : Next)
    (hm : k.collector.At i (.underway (.ready m)))
    (moves : ∀ t, k.collector.resume t m = k.collector.setProgress t.id (.ready m')) :
    ∃ l, Drifts k l ∧ l.handed = k.handed ∧ l.Poised n items ∧
      l.collector.At i (.underway (.ready m')) := by
  obtain ⟨t, ht, rfl, hp⟩ := hm
  have step := h.goes ht hp
  have nothing : k.collector.handed (k.collector.resume t m) (.go t.id) = [] := by
    rw [moves]
    show (k.collector.pipeline.incoming.drop _).map _ = []
    rw [List.drop_length, List.map_nil]
  rw [nothing, List.append_nil, moves] at step
  have m := Collector.Moved.proceed h.sound.collector ht (hp ▸ Progress.noConfusion) (.ready m') rfl
  refine ⟨_, .step rfl step, rfl, ⟨h.sound.step? step, h.quiet, h.unthrottled, ?_, ?_⟩, m.reached⟩
  · intro j hj
    obtain ⟨v, serves⟩ := h.serves j hj
    exact ⟨v, serves.step? step⟩
  · intro j hj
    refine (h.ready j hj).imp id ?_
    rintro ⟨next, at'⟩
    by_cases same : j = t.id
    · exact ⟨m', same ▸ m.reached⟩
    · exact ⟨next, m.others j _ same at'⟩

/-- a request hands over a report, which is stored at once -/
theorem hand_over (h : k.Poised n items) {r : Report} {m : Next}
    (hm : k.collector.At i (.underway (.ready (.offer r m)))) :
    ∃ l, Drifts k l ∧ l.handed = k.handed ++ [(i, r)] ∧ l.Poised n items := by
  obtain ⟨t, ht, rfl, hp⟩ := hm
  obtain ⟨queued, held, stored, offered, taken, kept, incoming, quiet⟩ :=
    h.quiet.goes_through h.sound.collector.coupled.positive t.id r
  let c₁ := ({ k.collector with pipeline := queued } : Collector).setProgress t.id (.ready m)
  have resumed : k.collector.resume t (.offer r m) = c₁ := by
    simp only [Collector.resume, offered]
    rfl
  have came : k.collector.handed c₁ (.go t.id) = [(t.id, r)] := by
    show (queued.incoming.drop k.collector.pipeline.incoming.length).map _ = _
    have none : k.collector.pipeline.incoming = [] := by
      rw [Pipeline.incoming, h.quiet.queue, h.quiet.waiting]
      rfl
    rw [incoming, none]
    rfl
  have goes : k.step? (.go t.id) = some ⟨c₁, k.handed ++ [(t.id, r)]⟩ := by
    rw [h.goes ht hp, resumed, came]
  have takes : step? ⟨c₁, k.handed ++ [(t.id, r)]⟩ .take
      = some ⟨{ c₁ with pipeline := held }, k.handed ++ [(t.id, r)]⟩ :=
    step?_of_silent (Option.map_eq_some_iff.mpr ⟨_, taken, rfl⟩) rfl
  let l : Course := ⟨{ c₁ with pipeline := stored }, k.handed ++ [(t.id, r)]⟩
  have stores : step? ⟨{ c₁ with pipeline := held }, k.handed ++ [(t.id, r)]⟩ .store = some l :=
    step?_of_silent (Option.map_eq_some_iff.mpr ⟨_, kept, rfl⟩) rfl
  have drifts := (Drifts.step rfl goes).trans ((Drifts.step rfl takes).trans (.step rfl stores))
  refine ⟨l, drifts, rfl, ((h.sound.step? goes).step? takes).step? stores, quiet, h.unthrottled,
    fun j hj => ?_, fun j hj => ?_⟩
  · obtain ⟨v, serves⟩ := h.serves j hj
    exact ⟨v, ((serves.step? goes).step? takes).step? stores⟩
  by_cases same : j = t.id
  · right
    refine ⟨m, _, List.mem_map_of_mem ht, ?_⟩
    rw [if_pos rfl, same]
    exact ⟨rfl, rfl⟩
  · rcases h.ready j hj with all | ⟨next, at'⟩
    · left
      show sentBy j (k.handed ++ [(t.id, r)]) = items j
      have none : sentBy j [(t.id, r)] = [] := sentBy_other same [r]
      rw [sentBy_append, none, List.append_nil]
      exact all
    · right
      obtain ⟨s, -, moved, -⟩ := h.sound.collector.offer ht (hp ▸ Progress.noConfusion) r m
      rw [resumed] at moved
      exact ⟨next, moved.others j _ same at'⟩

/-! ## one report of a request -/

/-- whoever has a report left to hand over can do so next -/
theorem advance (h : k.Poised n items) (hi : i < n) {r : Report} {rest : List Report}
    (left : items i = sentBy i k.handed ++ r :: rest) :
    ∃ l, Drifts k l ∧ l.handed = k.handed ++ [(i, r)] ∧ l.Poised n items := by
  obtain ⟨v, serves⟩ := h.serves i hi
  obtain ⟨s, rs, hs, stage, split⟩ := serves.stage
  obtain rfl : rs = r :: rest := List.append_cancel_left (split.symm.trans left)
  rcases h.ready i hi with all | ⟨m, hm⟩
  · rw [all] at left
    exact absurd (List.self_eq_append_right.mp left) (List.cons_ne_nil r rest)
  obtain rfl := h.sound.collector.at_unique hs hm
  -- a span that is read next is handed over next
  have reads {k : Course} (h : k.Poised n items) {s : OpenStream}
      (hm : k.collector.At i (.underway (.ready (.span s)))) (some : s.items.1 = r :: rest) :
      ∃ l, Drifts k l ∧ l.handed = k.handed ++ [(i, r)] ∧ l.Poised n items := by
    cases hs : s.next with
    | ended =>
      rw [OpenStream.items_of_ended hs] at some
      cases some
    | violated v =>
      rw [OpenStream.items_of_violated hs] at some
      cases some
    | span r' s' =>
      rw [OpenStream.items_of_span hs] at some
      cases some
      obtain ⟨l, first, same, poised, hl⟩ := h.proceed (.offer r (.round s')) hm fun t => by
        simp only [Collector.resume, hs]
      obtain ⟨l', second, handed, poised⟩ := poised.hand_over hl
      exact ⟨l', first.trans second, same ▸ handed, poised⟩
  cases stage with
  | ready stage =>
    generalize rs : r :: rest = left' at stage
    cases stage with
    | offer stage =>
      cases rs
      exact h.hand_over hm
    | round s =>
      obtain ⟨l, first, same, poised, hl⟩ := h.proceed (.span s) hm fun t => by
        simp only [Collector.resume, h.unthrottled, Bool.false_eq_true, if_false]
      obtain ⟨l', second, handed, poised⟩ := reads poised hl rs.symm
      exact ⟨l', first.trans second, same ▸ handed, poised⟩
    | span s => exact reads h hm rs.symm
    | respond => cases rs

/-- every order in which each request hands over its own reports -/
theorem deliver (h : k.Poised n items) {xs : List (TaskId × Report)} (known : ∀ x ∈ xs, x.1 < n)
    (own : ∀ i < n, sentBy i (k.handed ++ xs) <+: items i) :
    ∃ l, Drifts k l ∧ l.handed = k.handed ++ xs ∧ l.Poised n items := by
  induction xs generalizing k with
  | nil => exact ⟨k, .refl k, (List.append_nil _).symm, h⟩
  | cons x xs ih =>
    obtain ⟨i, r⟩ := x
    have hi : i < n := known _ List.mem_cons_self
    obtain ⟨rest, whole⟩ := own i hi
    have left : items i = sentBy i k.handed ++ r :: (sentBy i xs ++ rest) := by
      have mine : sentBy i ((i, r) :: xs) = r :: sentBy i xs := by
        rw [← List.singleton_append, sentBy_append]
        exact congrArg (· ++ _) (sentBy_own i [r])
      rw [← whole, sentBy_append, mine, List.append_assoc]
      rfl
    obtain ⟨l, first, handed, poised⟩ := h.advance hi left
    have same : l.handed ++ xs = k.handed ++ (i, r) :: xs := by
      rw [handed, List.append_assoc]
      rfl
    obtain ⟨l', second, all, poised⟩ := ih poised (fun x hx => known x (List.mem_cons_of_mem _ hx))
      (same ▸ own)
    exact ⟨l', first.trans second, all.trans same, poised⟩

/-! ## letting requests in -/

/-- a streamed request is let in, and the owner keeps a right to send -/
theorem begins (h : k.Poised n items) (next : k.collector.nextId = n)
    (right : k.collector.owners < k.collector.pipeline.senders) {request : Request}
    (streamed : isStreamed request.path request.headers = true)
    (own : items n = request.body.withOtherFailures.items.1) :
    ∃ l, k.step? (.perform .report request) = some l ∧ l.handed = k.handed ∧
      l.Poised (n + 1) items ∧ l.collector.nextId = n + 1 ∧
      l.collector.owners < l.collector.pipeline.senders := by
  have step : k.step? (.perform .report request) = some ⟨k.collector.perform .report request, k.handed⟩ :=
    step?_of_silent (Collector.withRight_eq_some.mpr ⟨right, rfl⟩) rfl
  have kept := h.sound.collector.perform right .report request
  have begins := h.sound.collector.begins right request
  have serves := h.sound.serves streamed step
  have begun := begins.begun
  rw [next] at serves begun
  rw [← own] at serves
  refine ⟨_, step, rfl, ⟨h.sound.step? step, begins.quiet h.quiet, begins.faults ▸ h.unthrottled,
    fun j hj => ?_, fun j hj => ?_⟩, next ▸ begins.nextId, begins.right⟩
  · rcases Nat.lt_succ_iff_lt_or_eq.mp hj with old | rfl
    · obtain ⟨v, serves⟩ := h.serves j old
      exact ⟨v, serves.step? step⟩
    · exact ⟨_, serves⟩
  · rcases Nat.lt_succ_iff_lt_or_eq.mp hj with old | rfl
    · exact (h.ready j old).imp id fun ⟨m, at'⟩ => ⟨m, kept.stages j _ at'⟩
    · rcases begun with goes | ⟨o, ended⟩
      · exact Or.inr goes
      · exact Or.inl (serves.told.2.1 o ended).1

theorem begins_all (h : k.Poised n items) (next : k.collector.nextId = n)
    (right : k.collector.owners < k.collector.pipeline.senders) {requests : List Request}
    (streamed : ∀ r ∈ requests, isStreamed r.path r.headers = true)
    (own : ∀ j (hj : j < requests.length),
      items (n + j) = requests[j].body.withOtherFailures.items.1) :
    ∃ l, run (requests.map (.perform .report)) k = some l ∧ l.handed = k.handed ∧
      l.Poised (n + requests.length) items := by
  induction requests generalizing k n with
  | nil => exact ⟨k, rfl, rfl, h⟩
  | cons request requests ih =>
    obtain ⟨l, step, handed, poised, next, right⟩ :=
      h.begins next right (streamed request List.mem_cons_self) (own 0 (Nat.succ_pos _))
    obtain ⟨l', ran, same, poised⟩ := ih poised next right
      (fun r hr => streamed r (List.mem_cons_of_mem _ hr)) fun j hj => by
        have later := own (j + 1) (Nat.succ_lt_succ hj)
        rw [← Nat.add_assoc, Nat.add_right_comm] at later
        exact later
    refine ⟨l', ?_, same.trans handed, ?_⟩
    · exact Option.bind_eq_some_iff.mpr ⟨l, step, ran⟩
    · rw [List.length_cons, ← Nat.add_assoc, Nat.add_right_comm]
      exact poised

end Poised

theorem poised_opened {capacity : Nat} {store : ReportStore} {p : Pipeline} (throttleDelay : Nat)
    (items : TaskId → List Report) (started : Pipeline.start capacity store = .ok p) :
    (opened p throttleDelay).Poised 0 items ∧
      (opened p throttleDelay).collector.owners < (opened p throttleDelay).collector.pipeline.senders := by
  have sound := sound_opened throttleDelay started
  obtain ⟨-, rfl⟩ := Pipeline.Coupled.start started
  exact ⟨⟨sound, ⟨rfl, rfl, rfl, rfl, rfl⟩, rfl, fun _ h => absurd h (Nat.not_lt_zero _),
    fun _ h => absurd h (Nat.not_lt_zero _)⟩, Nat.one_pos⟩

/-- streamed requests that come first can have their reports stored in every order that leaves each its
own -/
theorem stored_in_any_order {capacity : Nat} {store : ReportStore} {p : Pipeline} (throttleDelay : Nat)
    (started : Pipeline.start capacity store = .ok p) {requests : List Request}
    (streamed : ∀ r ∈ requests, isStreamed r.path r.headers = true) {xs : List (TaskId × Report)}
    (known : ∀ x ∈ xs, x.1 < requests.length)
    (own : ∀ i (h : i < requests.length),
      sentBy i xs = requests[i].body.withOtherFailures.items.1) :
    ∃ es d, run (requests.map (.perform .report) ++ es) (.opened p throttleDelay) = some d ∧
      d.stored = xs := by
  obtain ⟨poised, right⟩ := poised_opened throttleDelay (fun i => sentBy i xs) started
  obtain ⟨k, begun, nothing, poised⟩ := poised.begins_all rfl right streamed fun j hj => by
    rw [Nat.zero_add]
    exact own j hj
  rw [Nat.zero_add] at poised
  obtain ⟨d, ⟨es, -, delivered⟩, handed, poised⟩ := poised.deliver known fun i _ => by
    rw [nothing]
    exact List.prefix_refl _
  have ran : run (requests.map (.perform .report) ++ es) (.opened p throttleDelay) = some d := by
    rw [run, run_append]
    exact Option.bind_eq_some_iff.mpr ⟨k, begun, delivered⟩
  have holding : d.collector.pipeline.holding = [] := by
    rw [Pipeline.holding, poised.quiet.consumer]
  have accounts := (accounts_opened throttleDelay started).run ran
  refine ⟨es, d, ran, ?_⟩
  rw [accounts.stored_of_drained poised.quiet.queue holding, handed, nothing]
  rfl

end Course

/-- **What is stored of a streamed request is a prefix of its own reports**, in a queue of any size and
whatever else goes on, and all of them once it is through with its body and the queue has drained.  Nothing
else holds of the order: requests can be stored in every one that leaves each its own. -/
theorem streams_stored_in_order {capacity throttleDelay : Nat} {store : ReportStore} {p : Pipeline}
    (started : Pipeline.start capacity store = .ok p) :
    (∀ {request : Request} {before after : List Happening} {c d : Course},
      isStreamed request.path request.headers = true →
      Course.run before (.opened p throttleDelay) = some c →
      Course.run (.perform .report request :: after) c = some d →
      let id := c.collector.nextId
      let items := request.body.withOtherFailures.items.1
      d.collector.store.reports = store.reports ++ d.stored.map Prod.snd ∧
        sentBy id d.stored <+: items ∧
        (∀ r, (id, r) ∈ d.stored → ∃ header rest,
          Decoder.header request.body.withOtherFailures = (.ok header, rest) ∧
            r.reporter = header.reporter ∧ r.auth = header.auth) ∧
        (d.collector.Through id → d.collector.pipeline.queue = [] →
          d.collector.pipeline.holding = [] → sentBy id d.stored = items) ∧
        (d.collector.AtRest → sentBy id d.stored = items)) ∧
    ∀ (requests : List Request) (xs : List (TaskId × Report)),
      (∀ r ∈ requests, isStreamed r.path r.headers = true) →
      (∀ x ∈ xs, x.1 < requests.length) →
      (∀ i (h : i < requests.length),
        sentBy i xs = requests[i].body.withOtherFailures.items.1) →
      ∃ es d, Course.run (requests.map (.perform .report) ++ es) (.opened p throttleDelay) = some d ∧
        d.stored = xs ∧ d.collector.store.reports = store.reports ++ xs.map Prod.snd := by
  have accounts := Course.accounts_opened throttleDelay started
  constructor
  · intro request before after c d streamed came went
    obtain ⟨k, begins, goesOn⟩ := Option.bind_eq_some_iff.mp went
    have serves := ((accounts.run came).course.serves streamed begins).run goesOn
    have accounts := (accounts.run came).run went
    refine ⟨accounts.handed_eq.1, serves.stored_isPrefix, fun r hr => ?_, serves.stored_all accounts,
      serves.stored_at_rest accounts⟩
    exact Body.mem_items (serves.stored_isPrefix.subset (mem_sentBy hr))
  · intro requests xs streamed known own
    obtain ⟨es, d, ran, stored⟩ := Course.stored_in_any_order throttleDelay started streamed known own
    exact ⟨es, d, ran, stored, stored ▸ (accounts.run ran).handed_eq.1⟩

/-- the opening frames in the name of a reporter, and empty spans -/
def spansOf (reporter : UInt8) (spans : Nat) : Request :=
  ⟨"/report-mock-streaming", [],
    [.bytes [10, 2, 8, reporter, 18, 0, 50, 0], .bytes (List.replicate spans [26, 0]).flatten]⟩

def twoStreams : List Request := [spansOf 1 1, spansOf 2 2]

/-- both streams wait for room at times, and the first has more to come when the second has come to its
answer -/
def overtaking : List Happening :=
  [.go 1, .go 0, .take, .go 1, .go 1, .go 1, .store, .take, .go 0, .go 0, .go 0, .store, .take,
    .go 1, .go 1, .store, .take, .go 1, .store, .take, .store, .go 1, .go 1]

/-- the second stream, as a whole before the first -/
def overtaken : List (TaskId × Report) :=
  (spansOf 2 2).body.items.1.map (fun r => (1, r)) ++ (spansOf 1 1).body.items.1.map fun r => (0, r)

theorem streams_stored_in_order_of_two : ∃ p d, Pipeline.start 1 .empty = .ok p ∧
    Course.run (twoStreams.map (.perform .report) ++ overtaking) (.opened p 0) = some d ∧
    d.stored.map Prod.fst = [1, 0, 1, 0, 1] ∧ d.collector.ended = [] ∧
    sentBy 1 d.stored = (spansOf 2 2).body.withOtherFailures.items.1 ∧
    ∃ es e, Course.run (twoStreams.map (.perform .report) ++ es) (.opened p 0) = some e ∧
      e.stored = overtaken := by
  let p : Pipeline := ⟨1, 1, [], [], .idle, 0, .empty, false, []⟩
  have started : Pipeline.start 1 .empty = .ok p := rfl
  let first : List Happening := [.perform .report (spansOf 1 1)]
  let runs := Course.run (twoStreams.map (.perform .report) ++ overtaking) (.opened p 0)
  obtain ⟨d, ran⟩ := Option.isSome_iff_exists.mp (by decide +kernel : runs.isSome = true)
  have both : Course.run (first ++ .perform .report (spansOf 2 2) :: overtaking) (.opened p 0)
      = some d := ran
  rw [Course.run, run_append] at both
  obtain ⟨c, came, went⟩ := Option.bind_eq_some_iff.mp both
  have id : (Course.run first (.opened p 0)).map (·.collector.nextId) = some 1 := by decide +kernel
  have order : runs.map (fun d => (d.stored.map Prod.fst, d.collector.ended))
      = some ([1, 0, 1, 0, 1], []) := by decide +kernel
  have drained : runs.map (fun d => (d.collector.pipeline.queue, d.collector.pipeline.holding))
      = some ([], []) := by decide +kernel
  have answers : runs.map (fun d => decide (∃ t ∈ d.collector.tasks, t.id = 1 ∧
      t.progress = .ready .respond)) = some true := by decide +kernel
  rw [show Course.run first (.opened p 0) = some c from came] at id
  rw [show runs = some d from ran] at order drained answers
  have through : ∃ t ∈ d.collector.tasks, t.id = 1 ∧ t.progress = .ready .respond :=
    of_decide_eq_true (Option.some.inj answers)
  obtain ⟨order, ended⟩ := Prod.ext_iff.mp (Option.some.inj order)
  obtain ⟨queue, holding⟩ := Prod.ext_iff.mp (Option.some.inj drained)
  obtain ⟨each, every⟩ := @streams_stored_in_order 1 0 .empty p started
  obtain ⟨-, -, -, whole, -⟩ := each (by decide +kernel) came went
  rw [show c.collector.nextId = 1 from Option.some.inj id] at whole
  have streamed : ∀ r ∈ twoStreams, isStreamed r.path r.headers = true := by decide +kernel
  have own : ∀ i (h : i < twoStreams.length),
      sentBy i overtaken = twoStreams[i].body.withOtherFailures.items.1 := by decide +kernel
  obtain ⟨es, e, goes, stored, -⟩ := every twoStreams overtaken streamed (by decide +kernel) own
  exact ⟨p, d, started, ran, order, ended, whole (Or.inl through) queue holding, es, e, goes, stored⟩
end MockCollector
