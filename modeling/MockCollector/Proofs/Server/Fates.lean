import MockCollector.Proofs.Collector.Succession
import MockCollector.Proofs.Server.RunOut
/-!
# What becomes of a report

* `Fate`                   nobody listens; or the body is in violation; or the report comes to its answer, which
                           meets a fault or none;
* `Fate.Shows`             what the client gets then;
* `Collector.Attended`     one report is under way, and all others are held;
* `Sound.attended_move`    every move keeps it so, and touches the faults and the listening only when the
                           report comes to its answer;
* `Attended.at_rest`       so at rest the report has met its fate;
* `Collector.Idle`         nothing is under way but who is held: so it is between reports (`Idle.serve`).
-/

namespace MockCollector

inductive Fate where
  /-- nobody listens -/
  | refused
  | broken (v : Violation)
  | answered (met : Option OneShot)
  deriving DecidableEq

/-- of a report that is let in: the body decides, or the first fault -/
def Fate.of (f : Faults) : Option Violation → Fate
  | some v => .broken v
  | none => .answered f.first?

def Fate.Shows (method : String) : Fate → Reply → Prop
  | .refused, reply => reply = .refused
  | .broken v, reply => reply = .dropped (some v)
  | .answered none, reply => ∃ r, reply = .response (.of method (.report r))
  | .answered (some .error), reply => reply = .response (.of method .failed)
  | .answered (some .timeout), reply => ∃ id, reply = .held id
  | .answered (some .prematureClose), reply => reply = .dropped none

/-- what a client can tell of a server -/
structure Front where
  faults : Faults
  stopped : Bool
  deriving DecidableEq

/-- the faults that are left, and whether the server has stopped -/
def Fate.leaves (f : Faults) : Fate → Front
  | .answered met => ⟨f.spent, met == some .prematureClose⟩
  | _ => ⟨f, false⟩

namespace Collector

variable {c d : Collector} {e : Happening} {id : TaskId} {f : Faults} {v : Option Violation}
  {answers : List (Option OneShot)}

/-! ## one report under way -/

/-- nothing has touched the faults since they were `f` but the answers of one report -/
inductive Since (f : Faults) (c : Collector) : List (Option OneShot) → Prop where
  | unanswered (faults : c.faults = f) (listens : c.stopped = false) : Since f c []
  | answered (faults : c.faults = f.spent) (stopped : c.stopped = (f.first? == some .prematureClose)) :
    Since f c [f.first?]

structure Attended (f : Faults) (id : TaskId) (v : Option Violation) (c : Collector) : Prop where
  others : ∀ t ∈ c.tasks, t.id ≠ id → t.progress = .held
  stage : ∃ s left answers, c.At id s ∧ s.Serves left v ∧ s.Shows answers c.stopped ∧ Since f c answers

theorem leaves_faults (spontaneous : e.isSpontaneous = true) (staying : ∀ i, e ≠ .go i)
    (hd : c.happen? e = some d) : d.faults = c.faults ∧ d.stopped = c.stopped := by
  cases e with
  | go i => exact absurd rfl (staying i)
  | take => exact take?_leaves_faults hd
  | read => exact read?_leaves_faults hd
  | store | close =>
    obtain ⟨p, -, rfl⟩ := Option.map_eq_some_iff.mp hd
    exact ⟨rfl, rfl⟩
  | elapse ms =>
    cases hd
    exact ⟨rfl, rfl⟩
  | unlock =>
    obtain ⟨-, same⟩ := Option.ite_none_right_eq_some.mp hd
    cases same
    exact ⟨rfl, rfl⟩
  | _ => cases spontaneous

/-- where all others are held, only the one report comes to an answer -/
theorem answers_or_leaves (others : ∀ t ∈ c.tasks, t.id ≠ id → t.progress = .held)
    (spontaneous : e.isSpontaneous = true) (hd : c.happen? e = some d) :
    (Faults.answersTo id (c.faultEvents e) = [] ∧ d.faults = c.faults ∧ d.stopped = c.stopped) ∨
      (Faults.answersTo id (c.faultEvents e) = [c.faults.first?] ∧ d.faults = c.faults.spent ∧
        d.stopped = (c.stopped || c.faults.first? == some .prematureClose)) := by
  by_cases going : ∃ i, e = .go i
  · obtain ⟨i, rfl⟩ := going
    obtain ⟨t, ht, hg⟩ := Option.bind_eq_some_iff.mp hd
    have same : t.id = i := beq_iff_eq.mp (List.find?_some (p := fun t : Task => t.id == i) ht)
    obtain ⟨faults, stopped⟩ := taskStep?_faults hg
    rw [faultEvents_go ht]
    by_cases answer : t.progress.next? = some .respond
    · right
      obtain rfl : i = id := by
        by_contra other
        rw [others t (List.mem_of_find?_eq_some ht) (same ▸ other)] at answer
        cases answer
      rw [if_pos answer] at faults ⊢
      rw [answer, beq_self_eq_true, Bool.true_and] at stopped
      exact ⟨List.filterMap_cons_some (if_pos rfl), faults, stopped⟩
    · left
      rw [if_neg answer] at faults ⊢
      rw [beq_eq_false_iff_ne.mpr answer, Bool.false_and, Bool.or_false] at stopped
      exact ⟨rfl, faults, stopped⟩
  · have staying : ∀ i, e ≠ .go i := fun i same => going ⟨i, same⟩
    exact Or.inl ⟨answersTo_faultEvents staying, leaves_faults spontaneous staying hd⟩

theorem Since.stays (since : Since f c answers) (faults : d.faults = c.faults)
    (stopped : d.stopped = c.stopped) : Since f d answers := by
  cases since with
  | unanswered faults' listens => exact .unanswered (faults.trans faults') (stopped.trans listens)
  | answered faults' stopped' => exact .answered (faults.trans faults') (stopped.trans stopped')

theorem Since.step (since : Since f c answers) (spontaneous : e.isSpontaneous = true)
    (others : ∀ t ∈ c.tasks, t.id ≠ id → t.progress = .held) (hd : c.happen? e = some d)
    (once : (answers ++ Faults.answersTo id (c.faultEvents e)).length ≤ 1) :
    Since f d (answers ++ Faults.answersTo id (c.faultEvents e)) := by
  rcases answers_or_leaves others spontaneous hd with ⟨none, faults, stopped⟩ | ⟨one, faults, stopped⟩
  · rw [none, List.append_nil]
    exact since.stays faults stopped
  · rw [one] at once ⊢
    cases since with
    | unanswered faults' listens =>
      rw [faults'] at faults stopped ⊢
      rw [listens, Bool.false_or] at stopped
      exact .answered faults stopped
    | answered => exact absurd once (Nat.not_le.mpr (Nat.lt_succ_self 1))

theorem Attended.withClock (attended : Attended f id v c) (now : Nat) :
    Attended f id v { c with now := now } := by
  obtain ⟨s, left, answers, hs, serves, shows, since⟩ := attended.stage
  exact ⟨attended.others, s, left, answers, hs, serves, shows, since.stays rfl rfl⟩

/-- who is held is held on, or let go -/
theorem Sound.held_move {Q : TaskId → Prop} (h : c.Sound) (hm : c.move? = some d)
    (held : ∀ t ∈ c.tasks, Q t.id → t.progress = .held) :
    ∀ u ∈ d.tasks, Q u.id → u.progress = .held := by
  obtain ⟨e, spontaneous, hd, -⟩ := h.happen?_of_move? hm
  refine h.tasks_keep (P := (· = .held)) hd ?_ ?_ held
  · rintro _ rs p rfl leads
    cases leads
  · intro _ p begun
    rw [Happening.begun?_of_isSpontaneous spontaneous] at begun
    cases begun

/-- every move keeps it so -/
theorem Sound.attended_move (h : c.Sound) (attended : Attended f id v c) (hm : c.move? = some d) :
    Attended f id v d := by
  obtain ⟨e, spontaneous, hd, -⟩ := h.happen?_of_move? hm
  have sound := h.of_happen? hd
  obtain ⟨s, left, answers, hs, serves, shows, since⟩ := attended.stage
  refine ⟨h.held_move (Q := (· ≠ id)) hm attended.others, ?_⟩
  obtain ⟨s', hs', shows'⟩ := h.shows hd hs shows
  obtain ⟨s'', rest, hs'', serves', -⟩ := h.serves hd hs serves
  obtain rfl : s'' = s' := sound.at_unique hs'' hs'
  have once := (shows'.met hs').1
  exact ⟨_, rest, _, hs', serves', shows', since.step spontaneous attended.others hd once⟩

/-! ## replies -/

theorem at_of_find? {x : Ended} (found : c.ended.find? (fun x => x.id == id) = some x) :
    c.At id (.ended x.outcome) := by
  have same : x.id = id := beq_iff_eq.mp (List.find?_some (p := fun x : Ended => x.id == id) found)
  exact ⟨x, List.mem_of_find?_eq_some found, same, rfl⟩

theorem Sound.replyTo_of_ended (h : c.Sound) {o : Outcome} (ended : c.At id (.ended o))
    (method : String) : Server.replyTo method id c = .ofOutcome method o := by
  unfold Server.replyTo
  cases found : c.ended.find? fun x => x.id == id with
  | none =>
    obtain ⟨x, hx, same, -⟩ := ended
    exact absurd (beq_iff_eq.mpr same) (List.find?_eq_none.mp found x hx)
  | some x =>
    cases h.at_unique ended (at_of_find? found)
    rfl

theorem Sound.replyTo_of_underway (h : c.Sound) {p : Progress} (underway : c.At id (.underway p))
    (method : String) : Server.replyTo method id c = .held id := by
  unfold Server.replyTo
  cases found : c.ended.find? fun x => x.id == id with
  | none => rfl
  | some x => cases h.at_unique underway (at_of_find? found)

/-! ## between reports -/

/-- nothing is under way but requests that are held, and the owner has its right to send -/
structure Idle (front : Front) (c : Collector) : Prop where
  sound : c.Sound
  free : c.pipeline.locked = false
  held : ∀ t ∈ c.tasks, t.progress = .held
  spare : c.spare = 1
  faults : c.faults = front.faults
  stopped : c.stopped = front.stopped

theorem Idle.right {front : Front} (idle : Idle front c) : c.owners < c.pipeline.senders := by
  have spare := idle.spare
  rw [Collector.spare] at spare
  omega

theorem Idle.silent {front : Front} (idle : Idle front c) :
    ∀ t ∈ c.tasks, t.progress.isSilent = true := by
  intro t ht
  rw [idle.held t ht]
  rfl

theorem Since.of_nil (since : Since f c answers) (none : answers = []) :
    c.faults = f ∧ c.stopped = false := by
  cases since with
  | unanswered faults listens => exact ⟨faults, listens⟩
  | answered => cases none

theorem Since.of_singleton (since : Since f c answers) {met : Option OneShot} (one : answers = [met]) :
    f.first? = met ∧ c.faults = f.spent ∧ c.stopped = (met == some .prematureClose) := by
  cases since with
  | unanswered => cases one
  | answered faults stopped =>
    obtain ⟨rfl, -⟩ := List.cons.inj one
    exact ⟨rfl, faults, stopped⟩

/-- at rest the report is over, or held as well -/
theorem Attended.held_at_rest (attended : Attended f id v c) (h : c.Sound) (rest : c.AtRest) :
    ∀ t ∈ c.tasks, t.progress = .held := by
  intro t ht
  by_cases same : t.id = id
  · obtain ⟨s, left, answers, hs, serves, -, -⟩ := attended.stage
    obtain rfl : s = .underway t.progress := h.at_unique hs ⟨t, ht, same, rfl⟩
    obtain ⟨ready, queued, pausing⟩ := h.idle_at_rest rest ht
    generalize t.progress = p at serves ready queued pausing ⊢
    cases serves with
    | ready => exact absurd rfl (ready _)
    | queued => exact absurd rfl (queued _)
    | pausing => exact absurd rfl (pausing _ _)
    | held => rfl
  · exact attended.others t ht same

/-- **At rest a report has met its fate.** -/
theorem Attended.at_rest (attended : Attended f id v c) (h : c.Sound) (rest : c.AtRest)
    (spare : c.spare = 1) : Idle ((Fate.of f v).leaves f) c ∧
      ∀ method, (Fate.of f v).Shows method (Server.replyTo method id c) := by
  have held := attended.held_at_rest h rest
  obtain ⟨s, left, answers, hs, serves, shows, since⟩ := attended.stage
  have idle {front : Front} (faults : c.faults = front.faults) (stopped : c.stopped = front.stopped) :
      Idle front c := ⟨h, rest.free, held, spare, faults, stopped⟩
  generalize b : c.stopped = stopped at shows
  cases shows with
  | waiting _ free =>
    obtain ⟨t, ht, -, same⟩ := hs
    exact absurd (same.symm.trans (held t ht)) free
  | violated w =>
    cases serves
    obtain ⟨faults, listens⟩ := since.of_nil rfl
    exact ⟨idle faults listens, h.replyTo_of_ended hs⟩
  | received r =>
    cases serves
    obtain ⟨first, faults, stopped⟩ := since.of_singleton rfl
    rw [Fate.of, first]
    exact ⟨idle faults stopped, fun method => ⟨r, h.replyTo_of_ended hs method⟩⟩
  | failed =>
    cases serves
    obtain ⟨first, faults, stopped⟩ := since.of_singleton rfl
    rw [Fate.of, first]
    exact ⟨idle faults stopped, h.replyTo_of_ended hs⟩
  | held =>
    cases serves
    obtain ⟨first, faults, stopped⟩ := since.of_singleton rfl
    rw [Fate.of, first]
    exact ⟨idle faults stopped, fun method => ⟨id, h.replyTo_of_underway hs method⟩⟩
  | released =>
    -- nobody is let go while the server listens
    obtain ⟨-, -, stopped⟩ := since.of_singleton rfl
    cases b.symm.trans stopped
  | closed =>
    cases serves
    obtain ⟨first, faults, stopped⟩ := since.of_singleton rfl
    rw [Fate.of, first]
    exact ⟨idle faults stopped, h.replyTo_of_ended hs⟩

/-! ## a report that comes -/

theorem spare_launch (c : Collector) (n : Next) : (c.launch n).spare = c.spare := by
  have owners := owners_begin c (.ready n)
  have pipeline := pipeline_begin c (.ready n)
  have sends : Progress.ready n ≠ .draining := Progress.noConfusion
  rw [if_pos sends] at owners pipeline
  show (c.begin (.ready n)).2.pipeline.senders - (c.begin (.ready n)).2.owners = _
  rw [owners, pipeline]
  exact Nat.add_sub_add_right _ 1 _

theorem Sound.spare_once (h : c.Sound) (o : Outcome) : (c.once o).spare = c.spare := by
  have distinct := distinct_begin (.ready .respond) h.distinct
  have new : ⟨c.nextId, c.now, .ready .respond⟩ ∈ (c.launch .respond).tasks :=
    List.mem_append_right _ (List.mem_singleton.mpr rfl)
  exact (Goes.finish distinct.1 new o).spare.trans (spare_launch c .respond)

/-- a report that comes leaves all as it is but for the task that begins, and that is ready -/
theorem Sound.perform_leaves (h : c.Sound) (r : Request) :
    (c.perform .report r).spare = c.spare ∧
      (c.perform .report r).pipeline.locked = c.pipeline.locked ∧
      (c.perform .report r).faults = c.faults ∧ (c.perform .report r).stopped = c.stopped ∧
      ∀ u ∈ (c.perform .report r).tasks, u ∈ c.tasks ∨
        u.id = c.nextId ∧ ∃ n, u.progress = .ready n := by
  unfold Collector.perform
  cases Next.report? r with
  | ok n =>
    refine ⟨spare_launch c n, rfl, rfl, rfl, fun u hu => ?_⟩
    rcases List.mem_append.mp hu with old | new
    · exact Or.inl old
    · rw [List.mem_singleton.mp new]
      exact Or.inr ⟨rfl, n, rfl⟩
  | error v => exact ⟨h.spare_once _, rfl, rfl, rfl, fun u hu => Or.inl (mem_once hu)⟩

/-- **A report that comes to a server that listens meets its fate.** -/
theorem Idle.serve {front : Front} (idle : Idle front c) (listens : front.stopped = false)
    (r : Request) : Idle ((Fate.of front.faults r.items.2).leaves front.faults)
        (Server.runOut (c.perform .report r)) ∧
      ∀ method, (Fate.of front.faults r.items.2).Shows method
        (Server.replyTo method c.nextId (Server.runOut (c.perform .report r))) := by
  have h := idle.sound
  have right := idle.right
  have sound := (h.perform right .report r).sound
  obtain ⟨spare, free, faults, stopped, tasks⟩ := h.perform_leaves r
  have attended : Attended front.faults c.nextId r.items.2 (c.perform .report r) := by
    refine ⟨fun t ht other => ?_, ?_⟩
    · exact idle.held t ((tasks t ht).resolve_right fun new => other new.1)
    · obtain ⟨s, hs, serves⟩ := h.perform_serves right r
      obtain ⟨s', hs', shows⟩ := h.perform_shows right r (c.perform .report r).stopped
      obtain rfl := sound.at_unique hs hs'
      exact ⟨s, _, [], hs, serves, shows,
        .unanswered (faults.trans idle.faults) (stopped.trans (idle.stopped.trans listens))⟩
  have timely : (c.perform .report r).Timely := by
    intro t ht wake n pauses
    rcases tasks t ht with old | ⟨-, m, ready⟩
    · rw [idle.held t old] at pauses
      cases pauses
    · rw [ready] at pauses
      cases pauses
  have rest := sound.runOut_at_rest timely (free.trans idle.free)
  obtain ⟨sound', attended'⟩ := sound.runOut_keeps (P := Attended front.faults c.nextId r.items.2)
    (fun _ _ h attended hm => h.attended_move attended hm)
    (fun _ now _ attended => attended.withClock now) attended
  obtain ⟨-, spare'⟩ := sound.runOut_keeps (P := fun d => d.spare = 1)
    (fun _ _ h spare hm => (h.goes hm).spare.trans spare) (fun _ _ _ spare => spare)
    (spare.trans idle.spare)
  exact attended'.at_rest sound' rest spare'

end Collector

end MockCollector
