import MockCollector.Pipeline.Lemmas
/-!
# How the parts of a pipeline hang together

* `Pipeline.Coupled p`     whoever waits waits for a reason: sends for a full queue, the consumer in line
                           for the store; and the consumer has ended only when nobody can send;
* `Coupled.start`, `Coupled.offer_accepted` and so on   it is so from the start, and every step keeps it;
* `Coupled.not_refused`    nobody who can send is refused;
* `Coupled.at_rest`        when the pipeline has no step to take and nobody outside holds the store,
                           nothing is left that waits.
-/

namespace MockCollector.Pipeline

structure Coupled (p : Pipeline) : Prop where
  positive : 0 < p.capacity
  fits : p.queue.length ≤ p.capacity
  full : p.waiting ≠ [] → p.queue.length = p.capacity
  inLine : p.line.count .consumer = p.holding.length
  alive : p.consumer ≠ .killed
  ended : p.consumer = .finished → p.senders = 0 ∧ p.queue = []

namespace Coupled

variable {p q : Pipeline} {t : TaskId} {r : Report}

theorem start {capacity : Nat} {store : ReportStore} (h : Pipeline.start capacity store = .ok p) :
    p.Coupled ∧ p = ⟨capacity, 1, [], [], .idle, 0, store, false, []⟩ := by
  unfold Pipeline.start at h
  by_cases zero : capacity = 0
  · rw [if_pos zero] at h
    cases h
  · rw [if_neg zero] at h
    split at h
    · cases h
    · cases h
      refine ⟨⟨Nat.pos_of_ne_zero zero, Nat.zero_le _, fun h => absurd rfl h, rfl, ?_, ?_⟩, rfl⟩
      · intro h
        cases h
      · intro h
        cases h

/-! ## senders -/

theorem addSender (h : p.Coupled) (some : 0 < p.senders) : p.addSender.Coupled :=
  { h with ended := fun ended => absurd (h.ended ended).1 (Nat.ne_of_gt some) }

theorem dropSender (h : p.Coupled) : p.dropSender.Coupled := by
  refine { h with ended := fun ended => ⟨?_, (h.ended ended).2⟩ }
  show p.senders - 1 = 0
  rw [(h.ended ended).1]

theorem isClosed_iff (h : p.Coupled) : p.isClosed = true ↔ p.consumer = .finished := by
  unfold isClosed
  cases hc : p.consumer with
  | idle => simp [Consumer.isOver]
  | holding r => simp [Consumer.isOver]
  | finished => simp [Consumer.isOver]
  | killed => exact absurd hc h.alive

theorem not_refused (h : p.Coupled) (some : 0 < p.senders) : p.offer t r ≠ .refused := by
  intro refused
  have ended := h.isClosed_iff.mp (isClosed_of_offer refused)
  have none := (h.ended ended).1
  omega

theorem offer_accepted (h : p.Coupled) (some : 0 < p.senders) (ho : p.offer t r = .accepted q) :
    q.Coupled := by
  obtain ⟨room, none, rfl⟩ := offer_eq_accepted ho
  refine { h with fits := ?_, full := fun waits => absurd none waits, ended := ?_ }
  · show (p.queue ++ [r]).length ≤ p.capacity
    rw [List.length_append]
    exact room
  · intro ended
    exact absurd (h.ended ended).1 (Nat.ne_of_gt some)

theorem offer_waits (h : p.Coupled) (ho : p.offer t r = .waits q) : q.Coupled := by
  obtain ⟨busy, rfl⟩ := offer_eq_waits ho
  refine { h with full := fun _ => ?_ }
  show p.queue.length = p.capacity
  by_cases waits : p.waiting = []
  · have fits := h.fits
    have taken : ¬ p.queue.length < p.capacity := fun room => busy ⟨room, waits⟩
    omega
  · exact h.full waits

/-! ## the consumer -/

theorem take? {told : Option TaskId} (h : p.Coupled) (ht : p.take? = some (told, q)) :
    q.Coupled := by
  obtain ⟨r, rest, idle, queue, -, rfl⟩ := take?_eq_some ht
  have fits := h.fits
  have full := h.full
  have none : p.holding = [] := by
    rw [holding, idle]
  rw [queue, List.length_cons] at fits full
  refine { positive := h.positive, fits := ?_, full := ?_, inLine := ?_, alive := ?_, ended := ?_ }
  · show (rest ++ (p.waiting.map Prod.snd).take 1).length ≤ p.capacity
    rw [List.length_append, List.length_take]
    omega
  · intro waits
    show (rest ++ (p.waiting.map Prod.snd).take 1).length = p.capacity
    have more : 1 < p.waiting.length := by
      have : p.waiting.drop 1 ≠ [] := waits
      rw [ne_eq, List.drop_eq_nil_iff] at this
      omega
    have full := full (List.ne_nil_of_length_pos (Nat.lt_of_succ_lt more))
    rw [List.length_append, List.length_take, List.length_map]
    omega
  · show (p.line ++ [Waiter.consumer]).count .consumer = 1
    rw [List.count_append, h.inLine, none]
    rfl
  · intro dead
    cases dead
  · intro ended
    cases ended

theorem store? (h : p.Coupled) (hs : p.store? = some q) : q.Coupled := by
  obtain ⟨r, line, holds, inLine, -, rfl⟩ := store?_eq_some hs
  have counted := h.inLine
  have one : p.holding = [r] := by
    rw [holding, holds]
  rw [inLine, one, List.count_cons_self] at counted
  refine { h with inLine := ?_, alive := ?_, ended := ?_ }
  · exact Nat.succ.inj counted
  · intro dead
    cases dead
  · intro ended
    cases ended

theorem finish? (h : p.Coupled) (hf : p.finish? = some q) : q.Coupled := by
  obtain ⟨idle, queue, senders, rfl⟩ := finish?_eq_some hf
  refine { h with inLine := ?_, alive := ?_, ended := fun _ => ⟨senders, queue⟩ }
  · rw [h.inLine, holding, idle]
    rfl
  · intro dead
    cases dead

/-! ## the store -/

theorem lock (h : p.Coupled) : p.lock.Coupled := { h with }

theorem unlock (h : p.Coupled) : p.unlock.Coupled := { h with }

theorem queueReader (h : p.Coupled) : (p.queueReader t).Coupled := by
  refine { h with inLine := ?_ }
  show (p.line ++ [Waiter.reader t]).count .consumer = p.holding.length
  rw [List.count_append, h.inLine]
  rfl

theorem read? (h : p.Coupled) (hr : p.read? = some (t, q)) : q.Coupled := by
  obtain ⟨line, inLine, -, rfl⟩ := read?_eq_some hr
  have counted := h.inLine
  rw [inLine, List.count_cons_of_ne Waiter.noConfusion] at counted
  exact { h with inLine := counted }

/-! ## rest -/

/-- nobody waits for room in an empty queue -/
theorem none_waits (h : p.Coupled) (queue : p.queue = []) : p.waiting = [] := by
  by_cases waits : p.waiting = []
  · exact waits
  · have full := h.full waits
    have positive := h.positive
    rw [queue, List.length_nil] at full
    omega

/-- **Nothing is stranded**: what still waits at rest waits for whoever holds the store. -/
theorem at_rest (h : p.Coupled) (free : p.locked = false) (noStore : p.store? = none)
    (noRead : p.read? = none) (noTake : p.take? = none) :
    p.line = [] ∧ p.holding = [] ∧ p.queue = [] ∧ p.waiting = [] := by
  have line : p.line = [] := by
    cases hl : p.line with
    | nil => rfl
    | cons w rest =>
      cases w with
      | reader u =>
        rw [Pipeline.read?, hl, free] at noRead
        cases noRead
      | consumer =>
        have counted := h.inLine
        rw [hl, List.count_cons_self, holding] at counted
        cases hc : p.consumer with
        | holding r =>
          rw [Pipeline.store?, hc, hl, free] at noStore
          cases noStore
        | idle => simp [hc] at counted
        | finished => simp [hc] at counted
        | killed => simp [hc] at counted
  have holds : p.holding = [] := by
    have counted := h.inLine
    rw [line] at counted
    exact List.eq_nil_of_length_eq_zero counted.symm
  have queue : p.queue = [] := by
    cases hc : p.consumer with
    | idle =>
      cases hq : p.queue with
      | nil => rfl
      | cons r rest =>
        rw [Pipeline.take?, hc, hq] at noTake
        cases noTake
    | holding r =>
      rw [holding, hc] at holds
      cases holds
    | finished => exact (h.ended hc).2
    | killed => exact absurd hc h.alive
  exact ⟨line, holds, queue, h.none_waits queue⟩

end Coupled

end MockCollector.Pipeline
