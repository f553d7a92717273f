import MockCollector.Proofs.Collector.Drain
/-!
# Reports that come one after the other

* `Happening.begun?`       the task that begins; all others were there before (`known_of_happen?`), so they
                           keep what every step of theirs keeps (`Sound.tasks_keep`);
* `Progress.isSilent`      nothing is left to hand over;
* `Collector.Owes rs`      no task but one has anything left to hand over, and that one has `rs`;
* `Course.Owes items`      what was handed over, and what is left, is `items`;
* `Succession`, `Succession.run`   a run in which a report comes only when those before it have nothing left
                           to hand over, and is not let in once the collector has stopped;
* `Succession.Sound`       then what was handed over, and what is left, is what was let in, in this order;
* `Sound.stored_of_drained`   and all of it is stored once the pipeline has drained.
-/

namespace MockCollector

/-! ## where tasks come from -/

/-- where the task stands that begins, unless it is over at once -/
def Happening.begun? : Happening → Option Progress
  | .perform .report r => (Next.report? r).toOption.map .ready
  | .perform .reports _ => some (.ready (.fetch .reports))
  | .perform .spans _ => some (.ready (.fetch .spans))
  | .send r => some (.ready (.offer r .sent))
  | .awaitDrain => some .draining
  | _ => none

theorem Happening.begun?_of_isSpontaneous {e : Happening} (h : e.isSpontaneous = true) :
    e.begun? = none := by
  cases e with
  | perform | send | awaitDrain => cases h
  | _ => rfl

namespace Collector

variable {c d : Collector} {e : Happening} {u : Task}

theorem Fewer.known (h : Fewer c d) (hu : u ∈ d.tasks) : ∃ t ∈ c.tasks, t.id = u.id :=
  List.mem_map.mp (h.1.subset (List.mem_map_of_mem hu))

theorem mem_once {o : Outcome} (hu : u ∈ (c.once o).tasks) : u ∈ c.tasks := by
  obtain ⟨hu, other⟩ := List.mem_filter.mp hu
  refine (List.mem_append.mp hu).resolve_right fun new => ?_
  rw [List.mem_singleton.mp new] at other
  exact bne_iff_ne.mp other rfl

theorem mem_begin {p : Progress} (hu : u ∈ (c.begin p).2.tasks) :
    (∃ t ∈ c.tasks, t.id = u.id) ∨ u.id = c.nextId ∧ some p = some u.progress := by
  rcases List.mem_append.mp hu with old | new
  · exact Or.inl ⟨u, old, rfl⟩
  · obtain rfl := List.mem_singleton.mp new
    exact Or.inr ⟨rfl, rfl⟩

/-- a task was there before, or it is the one that begins -/
theorem known_of_happen? (hd : c.happen? e = some d) (hu : u ∈ d.tasks) :
    (∃ t ∈ c.tasks, t.id = u.id) ∨ u.id = c.nextId ∧ e.begun? = some u.progress := by
  cases e with
  | go id =>
    obtain ⟨t, -, hg⟩ := Option.bind_eq_some_iff.mp hd
    exact Or.inl ((Fewer.of_taskStep? hg).known hu)
  | take => exact Or.inl ((Fewer.of_take? hd).known hu)
  | read => exact Or.inl ((Fewer.of_read? hd).known hu)
  | store | close =>
    obtain ⟨p, -, rfl⟩ := Option.map_eq_some_iff.mp hd
    exact Or.inl ⟨u, hu, rfl⟩
  | perform a r =>
    obtain ⟨-, rfl⟩ := withRight_eq_some.mp hd
    cases a with
    | report =>
      rw [Happening.begun?]
      unfold perform at hu
      cases hn : Next.report? r with
      | ok n =>
        rw [hn] at hu
        exact mem_begin hu
      | error v =>
        rw [hn] at hu
        exact Or.inl ⟨u, mem_once hu, rfl⟩
    | reports | spans => exact mem_begin hu
    | arm k => exact Or.inl ⟨u, mem_once (c := c.setFaults (c.faults.arm k)) hu, rfl⟩
    | throttle on => exact Or.inl ⟨u, mem_once (c := c.setFaults (c.faults.setThrottle on)) hu, rfl⟩
  | send r =>
    obtain ⟨-, rfl⟩ := withRight_eq_some.mp hd
    exact mem_begin hu
  | awaitDrain =>
    cases hd
    exact mem_begin hu
  | clone | release =>
    obtain ⟨-, rfl⟩ := withRight_eq_some.mp hd
    exact Or.inl ⟨u, hu, rfl⟩
  | lock =>
    obtain ⟨-, same⟩ := Option.ite_none_left_eq_some.mp hd
    cases same
    exact Or.inl ⟨u, hu, rfl⟩
  | unlock =>
    obtain ⟨-, same⟩ := Option.ite_none_right_eq_some.mp hd
    cases same
    exact Or.inl ⟨u, hu, rfl⟩
  | _ =>
    cases hd
    exact Or.inl ⟨u, hu, rfl⟩

/-- what holds of some tasks, and stays so in each step that a task takes, holds of them ever after -/
theorem Sound.tasks_keep {P : Progress → Prop} {Q : TaskId → Prop} (h : c.Sound)
    (hd : c.happen? e = some d)
    (keeps : ∀ p rs p', P p → p.Leads rs (.underway p') → P p')
    (begins : Q c.nextId → ∀ p, e.begun? = some p → P p)
    (all : ∀ t ∈ c.tasks, Q t.id → P t.progress) : ∀ u ∈ d.tasks, Q u.id → P u.progress := by
  intro u hu mine
  have sound := h.of_happen? hd
  have now : d.At u.id (.underway u.progress) := ⟨u, hu, rfl, rfl⟩
  rcases known_of_happen? hd hu with ⟨t, ht, same⟩ | ⟨new, begun⟩
  · have held := all t ht (same ▸ mine)
    have before : c.At u.id (.underway t.progress) := ⟨t, ht, same, rfl⟩
    rcases h.happen? hd with ⟨kept, -⟩ | ⟨t', ht', rs, s, leads, m, -⟩
    · have stays := Stage.underway.inj (sound.at_unique (kept.stages _ _ before) now)
      exact stays ▸ held
    · by_cases moves : u.id = t'.id
      · obtain rfl := h.eq_of_id ht' ht (same.trans moves)
        obtain rfl := sound.at_unique (moves ▸ m.reached) now
        exact keeps _ rs _ held leads
      · have stays := Stage.underway.inj (sound.at_unique (m.others _ _ moves before) now)
        exact stays ▸ held
  · exact begins (new ▸ mine) _ begun

end Collector

/-! ## what is left to hand over -/

def Next.isSilent : Next → Bool
  | .respond | .fetch _ | .sent => true
  | _ => false

def Progress.isSilent : Progress → Bool
  | .ready n | .queued n | .pausing _ n => n.isSilent
  | _ => true

theorem Next.leads_of_isSilent {n : Next} {rs : List Report} {s : Stage} (h : n.isSilent = true)
    (leads : n.Leads rs s) : rs = [] ∧ ∀ p, s = .underway p → p.isSilent = true := by
  cases leads with
  | answered | dropped | sent => exact ⟨rfl, nofun⟩
  | held | fetches =>
    refine ⟨rfl, ?_⟩
    rintro p ⟨⟩
    rfl
  | _ => cases h

/-- who has nothing left to hand over hands nothing over, now or later -/
theorem Progress.leads_of_isSilent {p : Progress} {rs : List Report} {s : Stage} (h : p.isSilent = true)
    (leads : p.Leads rs s) : rs = [] ∧ ∀ p', s = .underway p' → p'.isSilent = true := by
  cases leads with
  | goes leads => exact Next.leads_of_isSilent h leads
  | wakes wake leads => exact Next.leads_of_isSilent h leads
  | hasRoom n =>
    refine ⟨rfl, ?_⟩
    rintro p ⟨⟩
    exact h
  | served | released | drained => exact ⟨rfl, nofun⟩

theorem Next.Serves.eq_nil {n : Next} {rs : List Report} {v : Option Violation} (h : n.Serves rs v)
    (silent : n.isSilent = true) : rs = [] := by
  cases h with
  | respond => rfl
  | _ => cases silent

theorem Stage.Serves.eq_nil {s : Stage} {rs : List Report} {v : Option Violation} (h : s.Serves rs v)
    (silent : ∀ p, s = .underway p → p.isSilent = true) : rs = [] := by
  cases h with
  | ready h => exact h.eq_nil (silent _ rfl)
  | queued h => exact h.eq_nil (silent _ rfl)
  | pausing wake h => exact h.eq_nil (silent _ rfl)
  | _ => rfl

namespace Collector

inductive Owes (c : Collector) : List Report → Prop where
  | nothing (silent : ∀ t ∈ c.tasks, t.progress.isSilent = true) : Owes c []
  | left {id : TaskId} {s : Stage} {rs : List Report} {v : Option Violation} (hs : c.At id s)
    (serves : s.Serves rs v) (others : ∀ t ∈ c.tasks, t.id ≠ id → t.progress.isSilent = true) :
    Owes c rs

variable {c d : Collector} {e : Happening} {rs : List Report}

/-- who has nothing left to hand over stays so -/
theorem Sound.silent_keep {Q : TaskId → Prop} (h : c.Sound) (hd : c.happen? e = some d)
    (begins : Q c.nextId → ∀ p, e.begun? = some p → p.isSilent = true)
    (silent : ∀ t ∈ c.tasks, Q t.id → t.progress.isSilent = true) :
    ∀ u ∈ d.tasks, Q u.id → u.progress.isSilent = true :=
  h.tasks_keep (P := fun p => p.isSilent = true) hd
    (fun _ _ p' silent leads => (Progress.leads_of_isSilent silent leads).2 p' rfl) begins silent

theorem Owes.eq_nil (h : c.Owes rs) (silent : ∀ t ∈ c.tasks, t.progress.isSilent = true) : rs = [] := by
  cases h with
  | nothing => rfl
  | left hs serves =>
    refine serves.eq_nil ?_
    rintro p rfl
    obtain ⟨t, ht, -, rfl⟩ := hs
    exact silent t ht

/-- what is handed over is the first of what is left -/
theorem Sound.owes (h : c.Sound) (hd : c.happen? e = some d)
    (begins : ∀ p, e.begun? = some p → p.isSilent = true) (owes : c.Owes rs) :
    ∃ rest, rs = (c.handed d e).map Prod.snd ++ rest ∧ d.Owes rest := by
  have nothing {t : Task} {rs : List Report} {s : Stage} (silent : t.progress.isSilent = true)
      (leads : t.progress.Leads rs s) (handed : c.handed d e = rs.map fun r => (t.id, r)) :
      (c.handed d e).map Prod.snd = [] := by
    obtain ⟨rfl, -⟩ := Progress.leads_of_isSilent silent leads
    rw [handed]
    rfl
  cases owes with
  | nothing silent =>
    have still := h.silent_keep (Q := fun _ => True) hd (fun _ => begins) fun t ht _ => silent t ht
    refine ⟨[], ?_, .nothing fun t ht => still t ht trivial⟩
    rcases h.happen? hd with ⟨-, none⟩ | ⟨t, ht, rs, s, leads, -, handed⟩
    · rw [none]
      rfl
    · rw [nothing (silent t ht) leads handed]
      rfl
  | @left id s rs v hs serves others =>
    have still := h.silent_keep (Q := (· ≠ id)) hd (fun _ => begins) others
    rcases h.happen? hd with ⟨kept, none⟩ | ⟨t, ht, rs', s', leads, m, handed⟩
    · rw [none]
      exact ⟨rs, rfl, .left (kept.stages id s hs) serves still⟩
    · by_cases same : t.id = id
      · subst same
        obtain rfl : s = .underway t.progress := h.at_unique hs ⟨t, ht, rfl, rfl⟩
        obtain ⟨rest, rfl, later⟩ := serves.leads leads
        refine ⟨rest, ?_, .left m.reached later still⟩
        rw [handed, List.map_map]
        exact congrArg (· ++ rest) (List.map_id rs').symm
      · rw [nothing (others t ht same) leads handed]
        exact ⟨rs, rfl, .left (m.others id s (fun e => same e.symm) hs) serves still⟩

/-- a report that comes when nothing is left to hand over -/
theorem Sound.owes_perform (h : c.Sound) {r : Request} (hd : c.happen? (.perform .report r) = some d)
    (silent : ∀ t ∈ c.tasks, t.progress.isSilent = true) : d.Owes r.items.1 := by
  obtain ⟨right, rfl⟩ := withRight_eq_some.mp hd
  obtain ⟨s, hs, serves⟩ := h.perform_serves right r
  have others := h.silent_keep (Q := (· ≠ c.nextId)) hd (fun other => absurd rfl other)
    fun t ht _ => silent t ht
  exact .left hs serves others

end Collector

/-! ## runs -/

/-- whether a task begins that has something to hand over -/
def Happening.bringsReport : Happening → Bool
  | .perform .report _ | .send _ => true
  | _ => false

theorem Happening.bringsReport_of_isSpontaneous {e : Happening} (h : e.isSpontaneous = true) :
    e.bringsReport = false := by
  cases e with
  | perform | send => cases h
  | _ => rfl

theorem Happening.isSilent_of_begun? {e : Happening} {p : Progress} (brings : ¬e.bringsReport = true)
    (begun : e.begun? = some p) : p.isSilent = true := by
  cases e with
  | perform a r =>
    cases a with
    | report => exact absurd rfl brings
    | reports | spans =>
      cases begun
      rfl
    | arm | throttle => cases begun
  | send r => exact absurd rfl brings
  | awaitDrain =>
    cases begun
    rfl
  | _ => cases begun

namespace Course

/-- what was handed over, and what is left to hand over, is `items` -/
structure Owes (initial : ReportStore) (items : List Report) (k : Course) : Prop where
  accounts : k.Accounts initial
  owes : ∃ rest, items = k.handed.map Prod.snd ++ rest ∧ k.collector.Owes rest

namespace Owes

variable {initial : ReportStore} {items : List Report} {k l : Course}

theorem opened {capacity : Nat} {p : Pipeline} (throttleDelay : Nat)
    (started : Pipeline.start capacity initial = .ok p) :
    (Course.opened p throttleDelay).Owes initial [] where
  accounts := accounts_opened throttleDelay started
  owes := ⟨[], rfl, .nothing fun _ h => absurd h List.not_mem_nil⟩

theorem comes {r : Request} (h : k.Owes initial items)
    (silent : ∀ t ∈ k.collector.tasks, t.progress.isSilent = true)
    (hl : k.step? (.perform .report r) = some l) : l.Owes initial (items ++ r.items.1) := by
  obtain ⟨rest, split, owes⟩ := h.owes
  refine ⟨h.accounts.step? hl, r.items.1, ?_, ?_⟩
  all_goals
    obtain ⟨d, hd, rfl⟩ := Option.map_eq_some_iff.mp hl
  · obtain rfl := owes.eq_nil silent
    show _ = (k.handed ++ []).map Prod.snd ++ _
    rw [List.append_nil, split, List.append_nil]
  · exact h.accounts.course.collector.owes_perform hd silent

theorem happens {e : Happening} (h : k.Owes initial items) (brings : ¬e.bringsReport = true)
    (hl : k.step? e = some l) : l.Owes initial items := by
  obtain ⟨rest, split, owes⟩ := h.owes
  have accounts := h.accounts.step? hl
  obtain ⟨d, hd, rfl⟩ := Option.map_eq_some_iff.mp hl
  have begins (p : Progress) := Happening.isSilent_of_begun? (p := p) brings
  obtain ⟨rest', rfl, later⟩ := h.accounts.course.collector.owes hd begins owes
  refine ⟨accounts, rest', ?_, later⟩
  show items = (k.handed ++ _).map Prod.snd ++ _
  rw [split, List.map_append, List.append_assoc]

/-- all of it has been handed over once nothing is left -/
theorem handed (h : k.Owes initial items)
    (silent : ∀ t ∈ k.collector.tasks, t.progress.isSilent = true) :
    k.handed.map Prod.snd = items := by
  obtain ⟨rest, split, owes⟩ := h.owes
  rw [split, owes.eq_nil silent, List.append_nil]

end Owes

end Course

inductive Turn where
  /-- a report comes, when all that came before have handed over what they had -/
  | comes (r : Request)
  | happens (e : Happening)
  deriving DecidableEq

/-- a run, and the reports that were let in -/
structure Succession where
  course : Course
  served : List Request
  deriving DecidableEq

namespace Succession

def opened (p : Pipeline) (throttleDelay : Nat) : Succession := ⟨.opened p throttleDelay, []⟩

def step? (k : Succession) : Turn → Option Succession
  | .comes r =>
    if k.course.collector.tasks.all fun t => t.progress.isSilent then
      if k.course.collector.stopped then some k
      else (k.course.step? (.perform .report r)).map fun l => ⟨l, k.served ++ [r]⟩
    else none
  | .happens e =>
    if e.bringsReport then none else (k.course.step? e).map fun l => ⟨l, k.served⟩

def run : List Turn → Succession → Option Succession := MockCollector.run step?

/-- what was let in stands for -/
def items (k : Succession) : List Report := k.served.flatMap fun r => r.items.1

structure Sound (initial : ReportStore) (k : Succession) : Prop where
  accounts : k.course.Accounts initial
  owes : ∃ rest, k.items = k.course.handed.map Prod.snd ++ rest ∧ k.course.collector.Owes rest

variable {initial : ReportStore} {k l : Succession}

theorem sound_iff : k.Sound initial ↔ k.course.Owes initial k.items :=
  ⟨fun h => ⟨h.accounts, h.owes⟩, fun h => ⟨h.accounts, h.owes⟩⟩

theorem sound_opened {capacity : Nat} {p : Pipeline} (throttleDelay : Nat)
    (started : Pipeline.start capacity initial = .ok p) : (opened p throttleDelay).Sound initial :=
  sound_iff.mpr (.opened throttleDelay started)

theorem items_served (k : Succession) (l : Course) (r : Request) :
    items ⟨l, k.served ++ [r]⟩ = k.items ++ r.items.1 := by
  rw [items, List.flatMap_append, List.flatMap_singleton]
  rfl

namespace Sound

theorem step? {turn : Turn} (h : k.Sound initial) (hl : k.step? turn = some l) : l.Sound initial := by
  have owes := sound_iff.mp h
  cases turn with
  | comes r =>
    obtain ⟨silent, hl⟩ := Option.ite_none_right_eq_some.mp hl
    by_cases stopped : k.course.collector.stopped = true
    · rw [if_pos stopped] at hl
      cases hl
      exact h
    · rw [if_neg stopped] at hl
      obtain ⟨m, hm, rfl⟩ := Option.map_eq_some_iff.mp hl
      rw [sound_iff, items_served]
      exact owes.comes (List.all_eq_true.mp silent) hm
  | happens e =>
    obtain ⟨brings, hl⟩ := Option.ite_none_left_eq_some.mp hl
    obtain ⟨m, hm, rfl⟩ := Option.map_eq_some_iff.mp hl
    exact sound_iff.mpr (owes.happens brings hm)

theorem run {turns : List Turn} (h : k.Sound initial) (ran : run turns k = some l) : l.Sound initial :=
  run_keeps (P := Sound initial) (fun _ _ _ h hl => h.step? hl) h ran

/-- **What was let in is what is stored** once the pipeline has drained, and the drain tells how much that
is. -/
theorem stored_of_drained {n : Nat} (h : k.Sound initial)
    (signal : k.course.collector.pipeline.drained? = some (.ok n)) :
    k.course.collector.store.reports = initial.reports ++ k.items ∧ n = k.items.length := by
  have drained := h.accounts.drained signal
  have handed := (sound_iff.mp h).handed fun t ht => by
    rw [drained.idle t ht]
    rfl
  refine ⟨handed ▸ drained.all, drained.count.trans ?_⟩
  rw [← handed, List.length_map]

end Sound

/-- what brings no report is no turn of one -/
theorem run_happens {es : List Happening} {l : Course} (silent : ∀ e ∈ es, e.bringsReport = false)
    (ran : Course.run es k.course = some l) : run (es.map .happens) k = some ⟨l, k.served⟩ := by
  induction es generalizing k with
  | nil =>
    cases ran
    rfl
  | cons e es ih =>
    obtain ⟨m, hm, ran⟩ : ∃ m, k.course.step? e = some m ∧ Course.run es m = some l :=
      Option.bind_eq_some_iff.mp (show (k.course.step? e).bind (Course.run es) = some l from ran)
    have brings := silent e List.mem_cons_self
    have first : k.step? (.happens e) = some ⟨m, k.served⟩ := by
      simp only [step?, brings, hm, Bool.false_eq_true, if_false, Option.map_some]
    show (k.step? (.happens e)).bind (run (es.map .happens)) = _
    rw [first]
    exact ih (k := ⟨m, k.served⟩) (fun f hf => silent f (List.mem_cons_of_mem _ hf)) ran

/-! ## ways from one state to another -/

/-- some turns lead from `k` to `l` -/
def Reaches (k l : Succession) : Prop := ∃ turns, run turns k = some l

namespace Reaches

variable {k l m : Succession}

theorem refl (k : Succession) : Reaches k k := ⟨[], rfl⟩

theorem trans (first : Reaches k l) (last : Reaches l m) : Reaches k m := by
  obtain ⟨turns, ran⟩ := first
  obtain ⟨later, ran'⟩ := last
  refine ⟨turns ++ later, ?_⟩
  rw [run, run_append]
  exact Option.bind_eq_some_iff.mpr ⟨l, ran, ran'⟩

theorem turn {e : Turn} (h : k.step? e = some l) : Reaches k l := by
  refine ⟨[e], ?_⟩
  rw [run, MockCollector.run, h]
  rfl

theorem happening {e : Happening} {d : Collector} (silent : e.bringsReport = false)
    (hd : k.course.collector.happen? e = some d) (nothing : k.course.collector.handed d e = []) :
    Reaches k ⟨⟨d, k.course.handed⟩, k.served⟩ := by
  refine turn (e := .happens e) ?_
  simp only [step?, silent, Bool.false_eq_true, if_false, Course.step?_of_silent hd nothing,
    Option.map_some]

theorem drift {l : Course} (drifts : Course.Drifts k.course l) : Reaches k ⟨l, k.served⟩ := by
  obtain ⟨es, spontaneous, ran⟩ := drifts
  have silent (e : Happening) (he : e ∈ es) := Happening.bringsReport_of_isSpontaneous (spontaneous e he)
  exact ⟨es.map .happens, run_happens silent ran⟩

/-- the owner can set the faults as it likes -/
theorem setFaults (k : Succession) (f : Faults) :
    Reaches k ⟨⟨k.course.collector.setFaults f, k.course.handed⟩, k.served⟩ := by
  have one (k : Succession) (j : OneShot) (b : Bool) : Reaches k
      ⟨⟨k.course.collector.setFaults (k.course.collector.faults.set b j), k.course.handed⟩,
        k.served⟩ := by
    cases b with
    | true => exact happening (e := .arm j) rfl rfl rfl
    | false => exact happening (e := .consume j) rfl rfl rfl
  have toggle (k : Succession) (on : Bool) : Reaches k
      ⟨⟨k.course.collector.setFaults (k.course.collector.faults.setThrottle on), k.course.handed⟩,
        k.served⟩ := happening (e := .throttle on) rfl rfl rfl
  exact (one k .error f.error).trans ((one _ .timeout f.timeout).trans
    ((one _ .prematureClose f.prematureClose).trans (toggle _ f.throttle)))

/-- a report comes to a collector that listens -/
theorem comes (r : Request) {d : Collector} (listens : k.course.collector.stopped = false)
    (silent : ∀ t ∈ k.course.collector.tasks, t.progress.isSilent = true)
    (hd : k.course.collector.happen? (.perform .report r) = some d) :
    Reaches k ⟨⟨d, k.course.handed⟩, k.served ++ [r]⟩ := by
  refine turn (e := .comes r) ?_
  have all : (k.course.collector.tasks.all fun t => t.progress.isSilent) = true :=
    List.all_eq_true.mpr silent
  simp only [step?, all, listens, if_true, Bool.false_eq_true, if_false,
    Course.step?_of_silent hd rfl, Option.map_some]

end Reaches

end Succession

end MockCollector
