import MockCollector.Proofs.Server.Fates
/-!
# What a server has stored in the end

* `Call`, `Server.calls`   reports that clients make one after the other, and what the owner does to the faults
                           in between;
* `Front.fates`            what becomes of them, and `Fate.contributes` what they contribute;
* `Server.Accounts`        a server between two of them: it is idle, and what was contributed is what was let
                           in by a run in which reports come one after the other;
* `Accounts.call`          every call keeps it so, and the client gets what its fate shows;
* `Accounts.shutdown`      so in the end all that was contributed is stored, and the owner is told how much;
* `shutdown_tells_what_was_stored`   which holds in whatever order tasks and the consumer go on.
-/

namespace MockCollector

/-! ## calls -/

structure Call where
  /-- what the owner does to the faults before the report comes -/
  setting : Faults → Faults
  connects : Bool
  request : ClientRequest

namespace Server

def call (call : Call) (s : Server) : Reply × Server :=
  (s.setFaults call.setting).exchange call.connects call.request

def calls : List Call → Server → List Reply × Server
  | [], s => ([], s)
  | first :: rest, s =>
    let (reply, s) := s.call first
    let (replies, s) := s.calls rest
    (reply :: replies, s)

end Server

/-! ## fates -/

namespace Front

def fate (front : Front) (call : Call) : Fate :=
  if !call.connects || front.stopped then .refused
  else .of (call.setting front.faults) call.request.toRequest.items.2

def after (front : Front) (call : Call) : Front :=
  if !call.connects || front.stopped then ⟨call.setting front.faults, front.stopped⟩
  else (front.fate call).leaves (call.setting front.faults)

def fates : Front → List Call → List (Call × Fate)
  | _, [] => []
  | front, call :: calls => (call, front.fate call) :: (front.after call).fates calls

end Front

/-- whatever becomes of a report that is let in, all it stands for is stored -/
def Fate.contributes : Call × Fate → List Report
  | (_, .refused) => []
  | (call, _) => call.request.toRequest.items.1

namespace Server

/-! ## between calls -/

variable {s : Server} {p : Pipeline} {throttleDelay : Nat} {front : Front} {items : List Report}

structure Accounts (p : Pipeline) (throttleDelay : Nat) (front : Front) (items : List Report)
    (s : Server) : Prop where
  idle : s.collector.Idle front
  way : ∃ k, Succession.Reaches (.opened p throttleDelay) k ∧ k.course.collector = s.collector ∧
    k.items = items

theorem Accounts.start {settings : Settings} {initial : ReportStore}
    (started : Server.start settings initial = .ok s) :
    ∃ p, Pipeline.start settings.queueCapacity initial = .ok p ∧
      s.Accounts p settings.throttleDelay.toMillis ⟨.none, false⟩ [] := by
  unfold Server.start at started
  cases hp : Pipeline.start settings.queueCapacity initial with
  | error e =>
    rw [hp] at started
    cases started
  | ok p =>
    rw [hp] at started
    cases started
    obtain ⟨-, rfl⟩ := Pipeline.Coupled.start hp
    refine ⟨_, rfl, ⟨.start _ hp, rfl, fun _ h => absurd h List.not_mem_nil, rfl, rfl, rfl⟩, ?_⟩
    exact ⟨_, .refl _, rfl, rfl⟩

theorem Accounts.setFaults (h : s.Accounts p throttleDelay front items) (f : Faults → Faults) :
    (s.setFaults f).Accounts p throttleDelay ⟨f front.faults, front.stopped⟩ items := by
  obtain ⟨k, way, same, rfl⟩ := h.way
  have sound := (Collector.Kept.withFaults h.idle.sound (f s.faults) s.collector.stopped).sound
  refine ⟨⟨sound, h.idle.free, h.idle.held, h.idle.spare, ?_, h.idle.stopped⟩, ?_⟩
  · exact congrArg f h.idle.faults
  · refine ⟨_, way.trans (.setFaults k (f s.faults)), ?_, rfl⟩
    rw [same]
    rfl

/-- a report that is served is the next in a run in which reports come one after the other -/
theorem reaches_served {k : Succession} (idle : k.course.collector.Idle front)
    (listens : front.stopped = false) (r : Request) :
    ∃ l, Succession.Reaches k l ∧
      l.course.collector = runOut (k.course.collector.perform .report r) ∧
      l.items = k.items ++ r.items.1 := by
  have comes : k.course.collector.happen? (.perform .report r)
      = some (k.course.collector.perform .report r) :=
    Collector.withRight_eq_some.mpr ⟨idle.right, rfl⟩
  let m : Succession :=
    ⟨⟨k.course.collector.perform .report r, k.course.handed⟩, k.served ++ [r]⟩
  have enters : Succession.Reaches k m :=
    .comes r (idle.stopped.trans listens) idle.silent comes
  obtain ⟨l, drifts, runs⟩ := Course.DriftsTo.runOut (k := m.course) (idle.sound.of_happen? comes)
  refine ⟨⟨l, m.served⟩, enters.trans (.drift drifts), runs, ?_⟩
  show (k.served ++ [r]).flatMap _ = _
  rw [List.flatMap_append]
  exact congrArg (k.items ++ ·) (List.flatMap_singleton _ _)

theorem exchange_of_report {connects : Bool} {r : ClientRequest}
    (listens : ¬(!connects || s.isStopped) = true) (reports : r.action? = .ok .report) :
    s.exchange connects r =
      (replyTo r.method s.collector.nextId (runOut (s.collector.perform .report r.toRequest)),
        { s with collector := runOut (s.collector.perform .report r.toRequest) }) := by
  rw [exchange, if_neg listens, reports]

/-- **Every call meets its fate**, and contributes what its fate calls for. -/
theorem Accounts.call (h : s.Accounts p throttleDelay front items) (call : Call)
    (reports : call.request.action? = .ok .report) :
    (front.fate call).Shows call.request.method (s.call call).1 ∧
      (s.call call).2.Accounts p throttleDelay (front.after call)
        (items ++ Fate.contributes (call, front.fate call)) := by
  have set := h.setFaults call.setting
  obtain ⟨k, way, same, rfl⟩ := set.way
  have stopped : (s.setFaults call.setting).isStopped = front.stopped := set.idle.stopped
  by_cases refuses : (!call.connects || front.stopped) = true
  · have fate : front.fate call = .refused := if_pos refuses
    have after : front.after call = ⟨call.setting front.faults, front.stopped⟩ := if_pos refuses
    have reply : s.call call = (.refused, s.setFaults call.setting) := by
      rw [Server.call, exchange, stopped, if_pos refuses]
    rw [reply, fate, after]
    exact ⟨rfl, set.idle, k, way, same, (List.append_nil _).symm⟩
  · have fate : front.fate call = .of (call.setting front.faults) call.request.toRequest.items.2 :=
      if_neg refuses
    have after : front.after call = (front.fate call).leaves (call.setting front.faults) :=
      if_neg refuses
    have reply := exchange_of_report (stopped ▸ refuses) reports
    have contributes : Fate.contributes (call, front.fate call) = call.request.toRequest.items.1 := by
      rw [fate]
      cases call.request.toRequest.items.2 <;> rfl
    have listens : front.stopped = false := by
      rw [Bool.not_eq_true, Bool.or_eq_false_iff] at refuses
      exact refuses.2
    have ready : k.course.collector.Idle ⟨call.setting front.faults, front.stopped⟩ := same ▸ set.idle
    obtain ⟨idle, shows⟩ := set.idle.serve listens call.request.toRequest
    obtain ⟨l, serves, runs, all⟩ := reaches_served ready listens call.request.toRequest
    rw [same] at runs
    rw [Server.call, reply, contributes, after, fate]
    dsimp only
    exact ⟨shows call.request.method, idle, l, way.trans serves, runs, all⟩

/-! ## the end -/

/-- nobody is held any more by a collector that has stopped, and nobody else was under way -/
theorem tasks_settle {c : Collector} (h : c.Sound) (stopped : c.stopped = true)
    (held : ∀ t ∈ c.tasks, t.progress = .held) : c.settle.tasks = [] := by
  obtain ⟨-, still⟩ := h.settle_keeps (P := fun c => ∀ t ∈ c.tasks, True → t.progress = .held)
    (fun _ _ h held hm => h.held_move (Q := fun _ => True) hm held) fun t ht _ => held t ht
  refine List.eq_nil_iff_forall_not_mem.mpr fun t ht => ?_
  exact h.none_held_settle stopped ⟨t, ht, rfl, still t ht trivial⟩

/-- then the only rights to send left are those of no task -/
theorem senders_settle {c : Collector} (h : c.Sound) (stopped : c.stopped = true)
    (held : ∀ t ∈ c.tasks, t.progress = .held) : c.settle.pipeline.senders = c.spare := by
  rw [← h.settle_goes.spare, Collector.spare, Collector.owners, tasks_settle h stopped held]
  rfl

/-- a server that is idle drains when it is shut down -/
theorem reaches_drained {k : Succession} (idle : k.course.collector.Idle front) :
    ∃ l, Succession.Reaches k l ∧
      l.course.collector = (k.course.collector.stop.settle.release).settle ∧ l.items = k.items ∧
      l.course.collector.pipeline.drained? = some (.ok l.course.collector.pipeline.stored) := by
  let c := k.course.collector.stop
  have sound : c.Sound := idle.sound.of_happen? (e := .stop) rfl
  -- stopping lets go of whoever is held, so the only right to send left is that of the owner
  have empty : c.settle.tasks = [] := tasks_settle sound rfl idle.held
  have one : c.settle.pipeline.senders = 1 := (senders_settle sound rfl idle.held).trans idle.spare
  have none : c.settle.owners = 0 := by
    rw [Collector.owners, empty]
    rfl
  have releases : c.settle.happen? .release = some c.settle.release :=
    Collector.withRight_eq_some.mpr ⟨by omega, rfl⟩
  let d := c.settle.release
  have sound' : d.Sound := sound.of_settle.of_happen? releases
  have nobody : ∀ t ∈ d.tasks, t.progress = .held := by
    intro t ht
    rw [show d.tasks = [] from empty] at ht
    exact absurd ht List.not_mem_nil
  have senders : d.settle.pipeline.senders = 0 := by
    rw [senders_settle sound' (sound.stopped_settle rfl) nobody, Collector.spare]
    show c.settle.pipeline.senders - 1 - _ = 0
    rw [one, Nat.sub_self, Nat.zero_sub]
  have free : d.settle.pipeline.locked = false :=
    sound'.settle_goes.locked.trans (sound.settle_goes.locked.trans idle.free)
  have drained := sound'.of_settle.drained_at_rest (Collector.move?_settle sound'.distinct) senders free
  let k₁ : Succession := ⟨⟨c, k.course.handed⟩, k.served⟩
  have stops : Succession.Reaches k k₁ := .happening (e := .stop) rfl rfl rfl
  obtain ⟨l, drifts, settled⟩ := Course.DriftsTo.settle (k := k₁.course) sound
  let k₂ : Succession := ⟨⟨d, l.handed⟩, k.served⟩
  have gives : Succession.Reaches ⟨l, k.served⟩ k₂ :=
    .happening (e := .release) rfl (settled ▸ releases) rfl
  obtain ⟨l', drifts', settled'⟩ := Course.DriftsTo.settle (k := k₂.course) sound'
  refine ⟨⟨l', k.served⟩, ?_, settled', rfl, ?_⟩
  · exact (stops.trans (.drift drifts)).trans (gives.trans (.drift drifts'))
  · show l'.collector.pipeline.drained? = some (.ok l'.collector.pipeline.stored)
    rw [settled']
    exact drained

theorem Accounts.calls (h : s.Accounts p throttleDelay front items) {calls : List Call}
    (reports : ∀ call ∈ calls, call.request.action? = .ok .report) :
    List.Forall₂ (fun x reply => x.2.Shows x.1.request.method reply) (front.fates calls)
        (s.calls calls).1 ∧
      ∃ front', (s.calls calls).2.Accounts p throttleDelay front'
        (items ++ (front.fates calls).flatMap Fate.contributes) := by
  induction calls generalizing s front items with
  | nil =>
    refine ⟨.nil, front, ?_⟩
    show s.Accounts p throttleDelay front (items ++ [])
    rw [List.append_nil]
    exact h
  | cons call calls ih =>
    obtain ⟨shows, next⟩ := h.call call (reports call List.mem_cons_self)
    obtain ⟨all, front', last⟩ := ih next fun later mem => reports later (List.mem_cons_of_mem _ mem)
    refine ⟨.cons shows all, front', ?_⟩
    rw [List.append_assoc] at last
    exact last

theorem Accounts.shutdown {capacity : Nat} {initial : ReportStore}
    (h : s.Accounts p throttleDelay front items) (started : Pipeline.start capacity initial = .ok p) :
    s.shutdown.1 = some (.ok items.length) ∧
      s.shutdown.2.store.reports = initial.reports ++ items := by
  obtain ⟨k, way, same, rfl⟩ := h.way
  obtain ⟨l, ends, shut, all, drained⟩ := reaches_drained (k := k) (same ▸ h.idle)
  obtain ⟨turns, ran⟩ := way.trans ends
  have sound := (Succession.sound_opened throttleDelay started).run ran
  obtain ⟨stored, count⟩ := sound.stored_of_drained drained
  rw [same] at shut
  have collector : s.shutdown.2.collector = l.course.collector := shut.symm
  refine ⟨?_, ?_⟩
  · show s.shutdown.2.collector.pipeline.drained? = _
    rw [collector, drained, count, all]
  · show s.shutdown.2.collector.store.reports = _
    rw [collector, stored, all]

end Server

/-- **What was let in is stored in the end, and the owner is told how much.**  Reports come to a server one
after the other, whole or as streams, well formed or not, and whatever the owner does to the faults in
between; each meets its fate, and its client gets what that shows.  When the server is shut down the store
holds what it held before and behind that the reports that were contributed, in the order of the calls:
whoever is let in contributes all that it stands for, whether it is then answered, held or dropped.  And so
it is in whatever order tasks, the consumer and the owner go on, as long as each report comes when nothing
of those before it is left to hand over. -/
theorem shutdown_tells_what_was_stored {settings : Settings} {initial : ReportStore} {s : Server}
    {calls : List Call} (started : Server.start settings initial = .ok s)
    (reports : ∀ call ∈ calls, call.request.action? = .ok .report) :
    let fates := Front.fates ⟨.none, false⟩ calls
    let items := fates.flatMap Fate.contributes
    List.Forall₂ (fun x reply => x.2.Shows x.1.request.method reply) fates (s.calls calls).1 ∧
      (s.calls calls).2.shutdown.1 = some (.ok items.length) ∧
      (s.calls calls).2.shutdown.2.store.reports = initial.reports ++ items ∧
      ∀ (p : Pipeline) (throttleDelay : Nat) (turns : List Turn) (k : Succession) (n : Nat),
        Pipeline.start settings.queueCapacity initial = .ok p →
        Succession.run turns (.opened p throttleDelay) = some k →
        k.course.collector.pipeline.drained? = some (.ok n) →
        k.course.collector.store.reports = initial.reports ++ k.items ∧ n = k.items.length := by
  obtain ⟨p, opened, accounts⟩ := Server.Accounts.start started
  obtain ⟨shows, front, accounts⟩ := accounts.calls reports
  obtain ⟨told, stored⟩ := accounts.shutdown opened
  refine ⟨shows, told, stored, fun p throttleDelay turns k n opened ran drained => ?_⟩
  exact ((Succession.sound_opened throttleDelay opened).run ran).stored_of_drained drained

def wholeCall (bs : List UInt8) : ClientRequest := ⟨"POST", Endpoint.report.path, [], .whole bs⟩

def streamedCall (chunks : List (List UInt8)) : ClientRequest :=
  ⟨"POST", Endpoint.streamedReport.path, [], .chunked chunks⟩

/-- the first is taken in, the next two break off, one is failed, one is held, one does not connect, and
from the one that is dropped on nobody listens -/
def troubled : List Call :=
  [⟨id, true, wholeCall [40, 1]⟩,
    ⟨id, true, wholeCall [40]⟩,
    ⟨(·.setThrottle true), true, streamedCall [[10], [0, 18, 0, 50, 0, 26], [], [0, 7]]⟩,
    ⟨(·.arm .error), true, wholeCall [40, 2]⟩,
    ⟨(·.arm .timeout), true, streamedCall [[10, 0, 18, 0, 50, 0], [26, 0]]⟩,
    ⟨id, false, wholeCall [40, 3]⟩,
    ⟨(·.arm .prematureClose), true, wholeCall [40, 4]⟩,
    ⟨id, true, wholeCall [40, 5]⟩]

def troubles : List Fate :=
  [.answered none,
    .broken (.report ⟨.malformedVarint, [⟨"ReportRequest", "timestamp_offset_micros"⟩]⟩),
    .broken (.span (.unexpectedTag 3 26 7)), .answered (some .error), .answered (some .timeout),
    .refused, .answered (some .prematureClose), .refused]

def wholeReport (n : UInt8) : Request :=
  ⟨Endpoint.report.path, [⟨"content-length", "2"⟩], [.bytes [40, n]]⟩

/-- the consumer takes nothing out until two reports were let in, a third was not, and the owner has given
up its right to send -/
def lagging : List Turn :=
  [.comes (wholeReport 1), .happens (.go 0), .comes (wholeReport 2), .happens (.go 1), .happens .stop,
    .comes (wholeReport 3), .happens .release, .happens .take, .happens .store, .happens .take,
    .happens .store, .happens (.go 0), .happens (.go 1), .happens .close]

theorem shutdown_tells_what_was_stored_in_trouble : ∃ s p k,
    Server.start (Settings.standard.withQueueCapacity 1) ⟨[numbered 9]⟩ = .ok s ∧
    (∀ call ∈ troubled, call.request.action? = .ok .report) ∧
    (Front.fates ⟨.none, false⟩ troubled).map Prod.snd = troubles ∧
    (s.calls troubled).2.shutdown.1 = some (.ok 7) ∧
    (s.calls troubled).2.shutdown.2.store.reports = numbered 9 ::
      numbered 1 :: (strayedItems ++ numbered 2 :: (strayedItems ++ [numbered 4])) ∧
    Pipeline.start 1 ⟨[numbered 9]⟩ = .ok p ∧ Succession.run lagging (.opened p 100) = some k ∧
    k.course.collector.store.reports = [numbered 9, numbered 1, numbered 2] := by
  let p : Pipeline := ⟨1, 1, [], [], .idle, 0, ⟨[numbered 9]⟩, false, []⟩
  let s : Server := ⟨Settings.standard.withQueueCapacity 1, .start p 100⟩
  have opened : Pipeline.start 1 ⟨[numbered 9]⟩ = .ok p := rfl
  have started : Server.start (Settings.standard.withQueueCapacity 1) ⟨[numbered 9]⟩ = .ok s := rfl
  have reports : ∀ call ∈ troubled, call.request.action? = .ok .report := by decide +kernel
  have fates : (Front.fates ⟨.none, false⟩ troubled).map Prod.snd = troubles := by decide +kernel
  have items : (Front.fates ⟨.none, false⟩ troubled).flatMap Fate.contributes
      = numbered 1 :: (strayedItems ++ numbered 2 :: (strayedItems ++ [numbered 4])) := by
    decide +kernel
  obtain ⟨k, ran⟩ := Option.isSome_iff_exists.mp
    (by decide +kernel : (Succession.run lagging (.opened p 100)).isSome = true)
  have lags : (Succession.run lagging (.opened p 100)).map (fun k =>
      (k.course.collector.pipeline.drained?, k.served))
      = some (some (.ok 2), [wholeReport 1, wholeReport 2]) := by decide +kernel
  have brings : [wholeReport 1, wholeReport 2].flatMap (fun r => r.items.1)
      = [numbered 1, numbered 2] := by decide +kernel
  rw [ran] at lags
  obtain ⟨drained, served⟩ := Prod.mk.inj (Option.some.inj lags)
  obtain ⟨-, told, stored, every⟩ := shutdown_tells_what_was_stored started reports
  obtain ⟨lagged, -⟩ := every p 100 lagging k 2 opened ran drained
  rw [items] at told stored
  rw [Succession.items, served, brings] at lagged
  exact ⟨s, p, k, started, reports, fates, told, stored, opened, ran, lagged⟩

end MockCollector
