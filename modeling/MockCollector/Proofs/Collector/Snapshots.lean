import MockCollector.Proofs.Collector.Outcomes
import MockCollector.Proofs.Store.Growth
/-!
# What was seen of the store stays

* `Occasion`               what happens, or whoever holds the store appends to it;
* `Collector.encounter? o` what it makes of a collector, or `none` where it cannot come about;
* `ReportStore.Vouches s o`   an answer that lists what was stored lists what is in `s`;
* `Collector.encounter?_spec`   one occasion: nothing is taken out of the store, and whoever is answered
                           with a list is answered with what is in it;
* `Collector.answered_meanwhile`   in a run, with what was in it at that moment;
* `store_only_grows`       so what is seen at one moment comes first in what is seen at a later one.
-/

namespace MockCollector

inductive Occasion where
  | incident (i : Incident)
  | append (r : Report)
  deriving DecidableEq

/-- reports and spans that are listed are those in `s` -/
def ReportStore.Vouches (s : ReportStore) : Outcome → Prop
  | .answered (.reports rs) => rs = ⟨s.reports⟩
  | .answered (.spans ss) => ss = ⟨s.spans⟩
  | _ => True

theorem Pipeline.Passes.isPrefix {p q : Pipeline} {rs : List Report} (h : Passes p q rs) :
    p.store.reports <+: q.store.reports := by
  obtain ⟨new, more, -⟩ := h.stored
  exact ⟨new, more.symm⟩

namespace Collector

variable {c d : Collector}

def encounter? (c : Collector) : Occasion → Option Collector
  | .incident i => c.undergo? i
  | .append r =>
    if c.pipeline.locked then some (c.setPipeline fun p => { p with store := p.store.append r })
    else none

/-! ## one occasion -/

theorem MayEnd.vouched {o : Outcome} (h : c.MayEnd o) : c.store.Vouches o := by
  cases h with
  | listed what => cases what <;> rfl
  | refused _ _ _ n => cases n <;> exact trivial
  | _ => exact trivial

theorem isPrefix_happen? {e : Happening} (hd : c.happen? e = some d) :
    c.store.reports <+: d.store.reports := by
  cases e with
  | take => exact (passes_take? hd).isPrefix
  | store =>
    obtain ⟨p, hp, rfl⟩ := Option.map_eq_some_iff.mp hd
    exact (Pipeline.passes_of_store? hp).isPrefix
  | close =>
    obtain ⟨p, hp, rfl⟩ := Option.map_eq_some_iff.mp hd
    exact (Pipeline.passes_of_finish? hp).isPrefix
  | _ =>
    have rests := (rests_happen? hd Happening.noConfusion Happening.noConfusion
      Happening.noConfusion).1
    exact ⟨[], by rw [Collector.store, Collector.store, rests.store, List.append_nil]⟩

/-- the tasks that go down with the consumer take nothing with them -/
theorem kill_spec (c : Collector) :
    c.kill.store = c.store ∧ ∀ x ∈ c.kill.ended, x ∈ c.ended ∨ x.outcome = .cancelled := by
  have cancels (ts : List Task) (c : Collector) :
      (ts.foldl (fun c t => c.finish t .cancelled) c).store = c.store ∧
        ∀ x ∈ (ts.foldl (fun c t => c.finish t .cancelled) c).ended,
          x ∈ c.ended ∨ x.outcome = .cancelled := by
    induction ts generalizing c with
    | nil => exact ⟨rfl, fun _ hx => Or.inl hx⟩
    | cons t ts ih =>
      obtain ⟨store, ended⟩ := ih (c.finish t .cancelled)
      refine ⟨store.trans (rests_finish c t .cancelled).store, fun x hx => ?_⟩
      rcases ended x hx with old | cancelled
      · rcases List.mem_append.mp old with older | new
        · exact Or.inl older
        · exact Or.inr (List.mem_singleton.mp new ▸ rfl)
      · exact Or.inr cancelled
  exact cancels c.tasks c

theorem encounter?_spec {o : Occasion} (hd : c.encounter? o = some d) :
    c.store.reports <+: d.store.reports ∧
      ∀ x ∈ d.ended, x ∈ c.ended ∨ c.store.Vouches x.outcome := by
  match o with
  | .incident (.happens e) =>
    refine ⟨isPrefix_happen? hd, fun x hx => ?_⟩
    exact (Leaves.happen? hd x hx).imp_right MayEnd.vouched
  | .incident .kill =>
    cases hd
    obtain ⟨store, ended⟩ := c.kill_spec
    refine ⟨store ▸ List.prefix_refl _, fun x hx => (ended x hx).imp_right fun cancelled => ?_⟩
    rw [cancelled]
    exact trivial
  | .append r =>
    obtain ⟨-, same⟩ := Option.ite_none_right_eq_some.mp hd
    cases same
    exact ⟨List.prefix_append _ _, fun x hx => Or.inl hx⟩

/-! ## runs -/

variable {os : List Occasion}

theorem grows_run (ran : run encounter? os c = some d) : c.store.Grows d.store :=
  .of_isPrefix (run_keeps (P := fun e => c.store.reports <+: e.store.reports)
    (fun _ _ _ sofar hd => sofar.trans (encounter?_spec hd).1) (List.prefix_refl _) ran)

/-- whoever has ended in the run ended at some moment of it -/
theorem answered_meanwhile (ran : run encounter? os c = some d) {x : Ended} (hx : x ∈ d.ended) :
    x ∈ c.ended ∨ ∃ past left m, os = past ++ left ∧ run encounter? past c = some m ∧
      run encounter? left m = some d ∧ m.store.Vouches x.outcome := by
  induction os generalizing c with
  | nil =>
    cases ran
    exact Or.inl hx
  | cons o os ih =>
    obtain ⟨e, he, onwards⟩ := Option.bind_eq_some_iff.mp ran
    rcases ih onwards with then' | ⟨past, left, m, rfl, before, after, vouches⟩
    · refine ((encounter?_spec he).2 x then').imp_right fun vouches => ?_
      exact ⟨[], o :: os, c, rfl, rfl, ran, vouches⟩
    · exact Or.inr ⟨o :: past, left, m, rfl, Option.bind_eq_some_iff.mpr ⟨e, he, before⟩, after,
        vouches⟩

end Collector

/-- **The store only grows**: between a moment `c` of a run and a later one `d`, whatever is done to the
pipeline and whatever is appended, what is seen at `c` comes first in what is seen at `d`, and a list that
somebody was answered with is what was seen at some moment in between. -/
theorem store_only_grows {os : List Occasion} {c d : Collector}
    (ran : run Collector.encounter? os c = some d) :
    c.store.Told ∧ d.store.Told ∧ c.store.Grows d.store ∧ ∀ x ∈ d.ended, x ∈ c.ended ∨
      ∃ past left m, os = past ++ left ∧ run Collector.encounter? past c = some m ∧
        run Collector.encounter? left m = some d ∧ m.store.Vouches x.outcome ∧
        c.store.Grows m.store ∧ m.store.Grows d.store := by
  refine ⟨c.store.told, d.store.told, Collector.grows_run ran, fun x hx => ?_⟩
  refine (Collector.answered_meanwhile ran hx).imp_right ?_
  rintro ⟨past, left, m, rfl, before, after, vouches⟩
  exact ⟨past, left, m, rfl, before, after, vouches, Collector.grows_run before,
    Collector.grows_run after⟩

/-- a report of one span, named `k`, with baggage of which there is more than one order -/
def laden : Report :=
  ⟨none, none, [⟨some MessageType.ambiguous, "k", [], none, 0, [], []⟩], 0, none⟩

/-- the owner puts a report into the store, which somebody then asks for -/
def noting : List Occasion :=
  [.incident (.happens .lock), .append laden, .incident (.happens .unlock)]
    ++ List.map (fun e => .incident (.happens e)) [.perform .reports whole, .go 0, .read]

/-- another report comes through the queue, somebody asks for the spans, and the consumer is killed while a
send waits -/
def adding : List Occasion :=
  List.map (fun e => .incident (.happens e)) [.send laden, .go 1, .take, .perform .spans whole, .go 2,
    .store, .go 1, .read, .send (numbered 1), .send (numbered 2), .go 3, .go 4] ++ [.incident .kill]

theorem store_only_grows_until_the_consumer_is_killed : ∃ p c d,
    Pipeline.start 1 .empty = .ok p ∧ run Collector.encounter? noting (.start p 100) = some c ∧
    run Collector.encounter? adding c = some d ∧
    c.store.reports = [laden] ∧ d.store.reports = [laden, laden] ∧
    c.store.spanCount = 1 ∧ d.store.Told ∧ c.store.Grows d.store ∧
    ((SpanCriteria.named (some "k")).query d.store).failure? (.atLeast 1) = none ∧
    ((SpanCriteria.named (some "k")).query d.store).failure? (.atMost 0) ≠ none ∧
    d.ended.map Ended.outcome = [.answered (.reports ⟨[laden]⟩), .sent,
      .answered (.spans ⟨laden.spans ++ laden.spans⟩), .cancelled, .cancelled] ∧
    ∀ x ∈ d.ended, x ∈ c.ended ∨
      ∃ m : Collector, m.store.Vouches x.outcome ∧ m.store.Grows d.store := by
  let p : Pipeline := ⟨1, 1, [], [], .idle, 0, .empty, false, []⟩
  have started : Pipeline.start 1 .empty = .ok p := rfl
  obtain ⟨c, notes⟩ := Option.isSome_iff_exists.mp
    (by decide +kernel : (run Collector.encounter? noting (.start p 100)).isSome = true)
  have stored : (run Collector.encounter? noting (.start p 100)).map (fun c => c.store.reports)
      = some [laden] := by decide +kernel
  have seen : (run Collector.encounter? (noting ++ adding) (.start p 100)).map
      (fun d => (d.store.reports, d.ended.map Ended.outcome))
        = some ([laden, laden], [.answered (.reports ⟨[laden]⟩), .sent,
          .answered (.spans ⟨laden.spans ++ laden.spans⟩), .cancelled, .cancelled]) := by
    decide +kernel
  rw [run_append, notes, Option.bind_some] at seen
  rw [notes] at stored
  obtain ⟨d, adds, both⟩ := Option.map_eq_some_iff.mp seen
  obtain ⟨-, told, grows, answered⟩ := store_only_grows adds
  have first : c.store = ⟨[laden]⟩ := congrArg ReportStore.mk (Option.some.inj stored)
  have named := grows.spanQueries (.named (some "k"))
  refine ⟨p, c, d, started, notes, adds, Option.some.inj stored, congrArg Prod.fst both, ?_,
    told, grows, named.enough 1 ?_, named.tooMany 0 ?_,
    congrArg Prod.snd both, fun x hx => (answered x hx).imp_right ?_⟩
  · rw [first]
    decide +kernel
  · rw [first]
    decide +kernel
  · rw [first]
    decide +kernel
  · rintro ⟨past, left, m, -, -, -, vouches, -, after⟩
    exact ⟨m, vouches, after⟩

end MockCollector
