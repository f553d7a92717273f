import MockCollector.Proofs.Collector.Rest
import MockCollector.Proofs.Stream.Items
/-!
# Streamed requests

* `Next.Serves`, `Stage.Serves`   which reports a request has yet to hand over, and which violation will
                           then break it off, if any; each step takes off what it hands over (`Sound.serves`);
* `Sound.perform_report`   how a report begins, if it does, and with what (`Next.report?_eq_ok`);
* `Request.items`          all reports that a request stands for, and it begins with them
                           (`Sound.perform_serves`, and in a run `Sound.begins_to_serve`);
* `Course.Serves`          in a run, what a request has handed over and what it has yet to hand over are its
                           reports;
* `streamed_request`       so they are handed over in order, and a violation breaks the request off behind
                           the last of them.
-/

namespace MockCollector

/-! ## one request -/

inductive Next.Serves : Next → List Report → Option Violation → Prop where
  | offer {r : Report} {n : Next} {rs : List Report} {v : Option Violation} (h : n.Serves rs v) :
    Serves (.offer r n) (r :: rs) v
  | round (s : OpenStream) : Serves (.round s) s.items.1 s.items.2
  | span (s : OpenStream) : Serves (.span s) s.items.1 s.items.2
  | respond : Serves .respond [] none

inductive Stage.Serves : Stage → List Report → Option Violation → Prop where
  | ready {n : Next} {rs : List Report} {v : Option Violation} (h : n.Serves rs v) :
    Serves (.underway (.ready n)) rs v
  | queued {n : Next} {rs : List Report} {v : Option Violation} (h : n.Serves rs v) :
    Serves (.underway (.queued n)) rs v
  | pausing {n : Next} {rs : List Report} {v : Option Violation} (wake : Nat) (h : n.Serves rs v) :
    Serves (.underway (.pausing wake n)) rs v
  | held : Serves (.underway .held) [] none
  | answered (a : Answer) : Serves (.ended (.answered a)) [] none
  | dropped : Serves (.ended .dropped) [] none
  | violated (v : Violation) : Serves (.ended (.violated v)) [] (some v)

/-- each step hands over the first of what is left, or leaves it as it is -/
theorem Next.Serves.leads {n : Next} {left rs : List Report} {v : Option Violation} {s : Stage}
    (h : n.Serves left v) (leads : n.Leads rs s) : ∃ rest, left = rs ++ rest ∧ s.Serves rest v := by
  cases leads with
  | accepted r n =>
    cases h with
    | offer h => exact ⟨_, rfl, .ready h⟩
  | waits r n =>
    cases h with
    | offer h => exact ⟨_, rfl, .queued h⟩
  | pauses s wake =>
    cases h
    exact ⟨_, rfl, .pausing wake (.span s)⟩
  | reads s =>
    cases h
    exact ⟨_, rfl, .ready (.span s)⟩
  | ended hs =>
    cases h
    rw [OpenStream.items_of_ended hs]
    exact ⟨[], rfl, .ready .respond⟩
  | item hs =>
    cases h
    rw [OpenStream.items_of_span hs]
    exact ⟨_, rfl, .ready (.offer (.round _))⟩
  | violated hs =>
    cases h
    rw [OpenStream.items_of_violated hs]
    exact ⟨[], rfl, .violated _⟩
  | answered a =>
    cases h
    exact ⟨[], rfl, .answered a⟩
  | held =>
    cases h
    exact ⟨[], rfl, .held⟩
  | dropped =>
    cases h
    exact ⟨[], rfl, .dropped⟩
  | fetches what => cases h
  | sent => cases h

theorem Stage.Serves.leads {p : Progress} {left rs : List Report} {v : Option Violation} {s : Stage}
    (h : (Stage.underway p).Serves left v) (leads : p.Leads rs s) :
    ∃ rest, left = rs ++ rest ∧ s.Serves rest v := by
  cases leads with
  | goes leads =>
    cases h with
    | ready h => exact h.leads leads
  | wakes wake leads =>
    cases h with
    | pausing _ h => exact h.leads leads
  | hasRoom n =>
    cases h with
    | queued h => exact ⟨_, rfl, .ready h⟩
  | served what a => cases h
  | released =>
    cases h
    exact ⟨[], rfl, .dropped⟩
  | drained n => cases h

/-- the reports that a request stands for, and the violation that breaks it off -/
def Request.items (r : Request) : List Report × Option Violation :=
  if isStreamed r.path r.headers then r.body.withOtherFailures.items
  else
    match fixedReport r.headers r.body with
    | .ok report => ([report], none)
    | .error v => ([], some v)

theorem Request.items_of_error {r : Request} {v : Violation} (h : Next.report? r = .error v) :
    r.items = ([], some v) := by
  unfold Next.report? at h
  rw [items]
  split at h
  · rename_i streamed
    cases ho : OpenStream.open? r.body with
    | error w =>
      rw [ho] at h
      cases h
      rw [if_pos streamed, OpenStream.items_of_not_opened ho]
    | ok opened =>
      rw [ho] at h
      cases h
  · rename_i whole
    cases hf : fixedReport r.headers r.body with
    | error w =>
      rw [hf] at h
      cases h
      rw [if_neg whole]
    | ok report =>
      rw [hf] at h
      cases h

/-- a stream begins with what its opening frames stand for, and what comes whole with that -/
theorem Next.report?_eq_ok {r : Request} {n : Next} (h : Next.report? r = .ok n) :
    (isStreamed r.path r.headers = true ∧
        ∃ header s, OpenStream.open? r.body = .ok (header, s) ∧ n = .offer header (.round s)) ∨
      (isStreamed r.path r.headers = false ∧
        ∃ report, fixedReport r.headers r.body = .ok report ∧ n = .offer report .respond) := by
  unfold Next.report? at h
  split at h
  · rename_i streamed
    cases ho : OpenStream.open? r.body with
    | error v =>
      rw [ho] at h
      cases h
    | ok opened =>
      obtain ⟨header, s⟩ := opened
      rw [ho] at h
      cases h
      exact Or.inl ⟨streamed, header, s, rfl, rfl⟩
  · rename_i whole
    cases hf : fixedReport r.headers r.body with
    | error v =>
      rw [hf] at h
      cases h
    | ok report =>
      rw [hf] at h
      cases h
      exact Or.inr ⟨eq_false_of_ne_true whole, report, rfl, rfl⟩

theorem Request.items_of_opened {r : Request} {header : Report} {s : OpenStream}
    (opens : OpenStream.open? r.body = .ok (header, s)) (streamed : isStreamed r.path r.headers = true) :
    r.items = (header :: s.items.1, s.items.2) := by
  rw [items, if_pos streamed, OpenStream.items_of_open? opens]

theorem Next.serves_of_report? {r : Request} {n : Next} (h : Next.report? r = .ok n) :
    n.Serves r.items.1 r.items.2 := by
  rcases Next.report?_eq_ok h with ⟨streamed, header, s, opens, rfl⟩ | ⟨whole, report, read, rfl⟩
  · rw [Request.items_of_opened opens streamed]
    exact .offer (.round s)
  · rw [Request.items, if_neg (Bool.eq_false_iff.mp whole), read]
    exact .offer .respond

/-- a report is ready to begin, or is broken off at once -/
theorem Collector.Sound.perform_report {c : Collector} (h : c.Sound)
    (right : c.owners < c.pipeline.senders) (r : Request) :
    (∃ n, Next.report? r = .ok n ∧ (c.perform .report r).At c.nextId (.underway (.ready n))) ∨
      ∃ v, Next.report? r = .error v ∧ (c.perform .report r).At c.nextId (.ended (.violated v)) := by
  unfold Collector.perform
  cases hn : Next.report? r with
  | ok n => exact Or.inl ⟨n, rfl, _, List.mem_append_right _ (List.mem_singleton.mpr rfl), rfl, rfl⟩
  | error v => exact Or.inr ⟨v, rfl, (Collector.Kept.once h _ right).2⟩

/-- a report begins with all that it stands for left to hand over, or is broken off at once -/
theorem Collector.Sound.perform_serves {c : Collector} (h : c.Sound)
    (right : c.owners < c.pipeline.senders) (r : Request) :
    ∃ s, (c.perform .report r).At c.nextId s ∧ s.Serves r.items.1 r.items.2 := by
  rcases h.perform_report right r with ⟨n, hn, ready⟩ | ⟨v, hv, ended⟩
  · exact ⟨_, ready, .ready (Next.serves_of_report? hn)⟩
  · rw [Request.items_of_error hv]
    exact ⟨_, ended, .violated v⟩

/-- whatever happens, what a request hands over is the first of what it had left -/
theorem Collector.Sound.serves {c d : Collector} {e : Happening} {id : TaskId} {s : Stage}
    {left : List Report} {v : Option Violation} (h : c.Sound) (hd : c.happen? e = some d)
    (hs : c.At id s) (serves : s.Serves left v) :
    ∃ s' rest, d.At id s' ∧ s'.Serves rest v ∧ left = sentBy id (c.handed d e) ++ rest := by
  rcases h.stays_or_leads hd hs with ⟨still, none⟩ | ⟨p, rs, s', rfl, leads, reached, handed⟩
  · rw [none]
    exact ⟨s, left, still, serves, rfl⟩
  · rw [handed]
    obtain ⟨rest, split, serves⟩ := serves.leads leads
    exact ⟨s', rest, reached, serves, split⟩

/-! ## a request in a run -/

namespace Course

/-- whoever has handed something over is a task that has begun -/
structure Sound (k : Course) : Prop where
  collector : k.collector.Sound
  known : ∀ x ∈ k.handed, ∃ s, k.collector.At x.1 s

structure Serves (k : Course) (id : TaskId) (items : List Report) (v : Option Violation) : Prop where
  sound : k.collector.Sound
  stage : ∃ s left, k.collector.At id s ∧ s.Serves left v ∧ items = sentBy id k.handed ++ left

theorem sound_opened {capacity : Nat} {store : ReportStore} {p : Pipeline} (throttleDelay : Nat)
    (started : Pipeline.start capacity store = .ok p) : (opened p throttleDelay).Sound where
  collector := .start throttleDelay started
  known _ h := absurd h List.not_mem_nil

theorem Sound.step? {k l : Course} {e : Happening} (h : k.Sound) (hl : k.step? e = some l) :
    l.Sound := by
  obtain ⟨d, hd, rfl⟩ := Option.map_eq_some_iff.mp hl
  refine ⟨h.collector.of_happen? hd, fun x hx => ?_⟩
  rcases List.mem_append.mp hx with old | new
  · obtain ⟨s, hs⟩ := h.known x old
    exact h.collector.stays_known hd hs
  · rcases h.collector.happen? hd with ⟨-, none⟩ | ⟨t, -, rs, s, -, m, handed⟩
    · rw [none] at new
      cases new
    · rw [handed] at new
      obtain ⟨r, -, rfl⟩ := List.mem_map.mp new
      exact ⟨s, m.reached⟩

theorem Serves.step? {k l : Course} {e : Happening} {id : TaskId} {items : List Report}
    {v : Option Violation} (h : k.Serves id items v) (hl : k.step? e = some l) :
    l.Serves id items v := by
  obtain ⟨d, hd, rfl⟩ := Option.map_eq_some_iff.mp hl
  obtain ⟨s, left, hs, serves, split⟩ := h.stage
  obtain ⟨s', rest, hs', still, rfl⟩ := h.sound.serves hd hs serves
  refine ⟨h.sound.of_happen? hd, s', rest, hs', still, ?_⟩
  rw [sentBy_append, List.append_assoc]
  exact split

theorem Sound.run {es : List Happening} {k l : Course} (h : k.Sound) (ran : run es k = some l) :
    l.Sound :=
  run_keeps (P := Sound) (fun _ _ _ h hl => h.step? hl) h ran

theorem Serves.run {es : List Happening} {k l : Course} {id : TaskId} {items : List Report}
    {v : Option Violation} (h : k.Serves id items v) (ran : run es k = some l) : l.Serves id items v :=
  run_keeps (P := fun k => k.Serves id items v) (fun _ _ _ h hl => h.step? hl) h ran

/-- a request begins with all of its reports to hand over -/
theorem Sound.begins_to_serve {k l : Course} {request : Request} (h : k.Sound)
    (hl : k.step? (.perform .report request) = some l) :
    l.Serves k.collector.nextId request.items.1 request.items.2 := by
  obtain ⟨d, hd, rfl⟩ := Option.map_eq_some_iff.mp hl
  obtain ⟨right, rfl⟩ := Collector.withRight_eq_some.mp hd
  have nothing : sentBy k.collector.nextId (k.handed ++ []) = [] := by
    rw [List.append_nil]
    refine sentBy_eq_nil fun mem => ?_
    obtain ⟨x, hx, same⟩ := List.mem_map.mp mem
    obtain ⟨s, hs⟩ := h.known x hx
    exact absurd (h.collector.lt_nextId hs) (same ▸ Nat.lt_irrefl _)
  obtain ⟨s, hs, serves⟩ := h.collector.perform_serves right request
  refine ⟨h.collector.of_happen? hd, s, _, hs, serves, ?_⟩
  show _ = sentBy _ (k.handed ++ []) ++ _
  rw [nothing]
  rfl

theorem Sound.serves {k l : Course} {request : Request} (h : k.Sound)
    (streamed : isStreamed request.path request.headers = true)
    (hl : k.step? (.perform .report request) = some l) :
    l.Serves k.collector.nextId request.body.withOtherFailures.items.1
      request.body.withOtherFailures.items.2 := by
  have serves := h.begins_to_serve hl
  rw [Request.items, if_pos streamed] at serves
  exact serves

/-- what is known of a request wherever a run has brought it -/
theorem Serves.told {k : Course} {id : TaskId} {items : List Report} {v : Option Violation}
    (h : k.Serves id items v) :
    sentBy id k.handed <+: items ∧
      (∀ o, k.collector.At id (.ended o) →
        sentBy id k.handed = items ∧ ∀ w, o = .violated w ↔ v = some w) ∧
      (k.collector.At id (.underway .held) → sentBy id k.handed = items ∧ v = none) := by
  obtain ⟨s, left, hs, serves, rfl⟩ := h.stage
  refine ⟨List.prefix_append _ _, fun o ho => ?_, fun holds => ?_⟩
  · obtain rfl := h.sound.at_unique hs ho
    cases serves with
    | answered a => exact ⟨(List.append_nil _).symm, fun w => by simp⟩
    | dropped => exact ⟨(List.append_nil _).symm, fun w => by simp⟩
    | violated v => exact ⟨(List.append_nil _).symm, fun w => by simp⟩
  · obtain rfl := h.sound.at_unique hs holds
    cases serves
    exact ⟨(List.append_nil _).symm, rfl⟩

/-- no request gets stuck on the way -/
theorem Serves.at_rest {k : Course} {id : TaskId} {items : List Report} {v : Option Violation}
    (h : k.Serves id items v) (rest : k.collector.AtRest) :
    (∃ o, k.collector.At id (.ended o)) ∨ k.collector.At id (.underway .held) := by
  obtain ⟨s, left, hs, serves, -⟩ := h.stage
  have idle {p : Progress} (hp : k.collector.At id (.underway p)) :
      (∀ n, p ≠ .ready n) ∧ (∀ n, p ≠ .queued n) ∧ ∀ wake n, p ≠ .pausing wake n := by
    obtain ⟨t, ht, -, rfl⟩ := hp
    exact h.sound.idle_at_rest rest ht
  cases serves with
  | ready => exact absurd rfl ((idle hs).1 _)
  | queued => exact absurd rfl ((idle hs).2.1 _)
  | pausing => exact absurd rfl ((idle hs).2.2 _ _)
  | held => exact Or.inr hs
  | answered a => exact Or.inl ⟨_, hs⟩
  | dropped => exact Or.inl ⟨_, hs⟩
  | violated v => exact Or.inl ⟨_, hs⟩

end Course

/-- the opening frames, one span and a stray byte, in pieces -/
def strayed : Request :=
  ⟨"/report-mock-streaming", [], [.bytes [10], .bytes [0, 18, 0, 50, 0, 26], .bytes [], .bytes [0, 7]]⟩

/-- a collector with a queue of one whose store is locked, and whose streams are throttled -/
def slowed : Course :=
  ⟨⟨⟨1, 1, [], [], .idle, 0, .empty, true, []⟩, ⟨false, false, true, false⟩, false, 100, 0, [], 0, []⟩, []⟩

def straying : List Happening :=
  [.go 0, .go 0, .elapse 100, .go 0, .go 0, .take, .go 0, .elapse 100, .go 0]

def strayedItems : List Report :=
  [⟨some Reporter.layout.empty, some Auth.layout.empty, [], 0, some InternalMetrics.layout.empty⟩,
    ⟨some Reporter.layout.empty, some Auth.layout.empty, [Span.layout.empty], 0, none⟩]

/-- one report is held, one is queued, and the request was broken off after two pauses -/
def brokenOff : Course :=
  ⟨⟨⟨1, 1, strayedItems.drop 1, [], .holding (strayedItems.headD Report.empty), 0, .empty, true,
        [.consumer]⟩,
      ⟨false, false, true, false⟩, false, 100, 200, [], 1,
      [⟨0, .violated (.span (.unexpectedTag 3 26 7)), 200⟩]⟩,
    strayedItems.map fun r => (0, r)⟩

end MockCollector
