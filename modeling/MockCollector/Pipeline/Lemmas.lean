import MockCollector.Pipeline.Basic
/-!
# What the pipeline has accepted

* `Pipeline.accepted`    what is in the store, what the consumer holds, and what is in the queue, in this
                         order: every report that was let into the queue, behind those that were stored
                         to begin with;
* `Pipeline.incoming`    what is in the queue and what waits for room in it.

What an offer comes to depends on the room and on who waits already (`offer_eq_accepted`,
`offer_eq_waits`).  It comes behind all that is incoming (`incoming_of_offer`), and an accepted report
behind all that are accepted (`accepted_of_offer`).  The consumer changes nothing but where reports are
(`accepted_of_store?`), and when it takes one out, the first that waits is let in (`accepted_of_take?`).
The steps that the consumer takes use up its work (`work_of_take?` and the others), so it comes to rest.
-/

namespace MockCollector.Pipeline

def holding (p : Pipeline) : List Report :=
  match p.consumer with
  | .holding r => [r]
  | _ => []

theorem length_holding_le (p : Pipeline) : p.holding.length ≤ 1 := by
  unfold holding
  split
  · exact Nat.le_refl _
  · exact Nat.zero_le _

def accepted (p : Pipeline) : List Report := p.store.reports ++ p.holding ++ p.queue

def incoming (p : Pipeline) : List Report := p.queue ++ p.waiting.map Prod.snd

/-! ## offering -/

theorem isClosed_of_offer {p : Pipeline} {t : TaskId} {r : Report} (h : p.offer t r = .refused) :
    p.isClosed = true := by
  unfold offer at h
  split at h
  · assumption
  · split at h <;> cases h

theorem offer_eq_accepted {p q : Pipeline} {t : TaskId} {r : Report}
    (h : p.offer t r = .accepted q) :
    p.queue.length < p.capacity ∧ p.waiting = [] ∧ q = { p with queue := p.queue ++ [r] } := by
  unfold offer at h
  split at h
  · cases h
  · split at h
    · rename_i room
      cases h
      exact ⟨room.1, room.2, rfl⟩
    · cases h

theorem offer_eq_waits {p q : Pipeline} {t : TaskId} {r : Report} (h : p.offer t r = .waits q) :
    ¬(p.queue.length < p.capacity ∧ p.waiting = []) ∧
      q = { p with waiting := p.waiting ++ [(t, r)] } := by
  unfold offer at h
  split at h
  · cases h
  · split at h
    · cases h
    · rename_i full
      cases h
      exact ⟨full, rfl⟩

theorem accepted_of_offer {p q : Pipeline} {t : TaskId} {r : Report}
    (h : p.offer t r = .accepted q) : q.accepted = p.accepted ++ [r] := by
  obtain ⟨-, -, rfl⟩ := offer_eq_accepted h
  simp [accepted, holding]

theorem accepted_of_offer_waits {p q : Pipeline} {t : TaskId} {r : Report}
    (h : p.offer t r = .waits q) : q.accepted = p.accepted := by
  obtain ⟨-, rfl⟩ := offer_eq_waits h
  rfl

theorem incoming_of_offer {p q : Pipeline} {t : TaskId} {r : Report}
    (h : p.offer t r = .accepted q ∨ p.offer t r = .waits q) : q.incoming = p.incoming ++ [r] := by
  rcases h with h | h
  · obtain ⟨-, none, rfl⟩ := offer_eq_accepted h
    simp [incoming, none]
  · obtain ⟨-, rfl⟩ := offer_eq_waits h
    simp [incoming]

theorem work_of_offer {p q : Pipeline} {t : TaskId} {r : Report}
    (h : p.offer t r = .accepted q ∨ p.offer t r = .waits q) : q.work = p.work + 2 := by
  rcases h with h | h
  · obtain ⟨-, -, rfl⟩ := offer_eq_accepted h
    simp only [work, List.length_append, List.length_cons, List.length_nil]
    omega
  · obtain ⟨-, rfl⟩ := offer_eq_waits h
    simp only [work, List.length_append, List.length_cons, List.length_nil]
    omega

/-! ## the consumer -/

theorem take?_eq_some {p q : Pipeline} {t : Option TaskId} (h : p.take? = some (t, q)) :
    ∃ r rest, p.consumer = .idle ∧ p.queue = r :: rest ∧ t = (p.waiting.map Prod.fst).head? ∧
      q = { p with
        consumer := .holding r, line := p.line ++ [Waiter.consumer]
        queue := rest ++ (p.waiting.map Prod.snd).take 1, waiting := p.waiting.drop 1 } := by
  unfold take? at h
  split at h
  · rename_i r rest hc hq
    obtain ⟨rfl, rfl⟩ := Prod.mk.inj (Option.some.inj h)
    exact ⟨r, rest, hc, hq, rfl, rfl⟩
  · simp at h

theorem accepted_of_take? {p q : Pipeline} {t : Option TaskId} (h : p.take? = some (t, q)) :
    q.accepted = p.accepted ++ (p.waiting.map Prod.snd).take 1 := by
  obtain ⟨r, rest, hc, hq, -, rfl⟩ := take?_eq_some h
  simp [accepted, holding, hc, hq]

theorem work_of_take? {p q : Pipeline} {t : Option TaskId} (h : p.take? = some (t, q)) :
    q.work + 1 = p.work := by
  obtain ⟨r, rest, hc, hq, -, rfl⟩ := take?_eq_some h
  cases hw : p.waiting with
  | nil =>
    simp [work, Consumer.work, Consumer.isOver, hc, hq, hw]
    omega
  | cons w ws =>
    simp [work, Consumer.work, Consumer.isOver, hc, hq, hw]
    omega

theorem store?_eq_some {p q : Pipeline} (h : p.store? = some q) :
    ∃ r line, p.consumer = .holding r ∧ p.line = Waiter.consumer :: line ∧ p.locked = false ∧
      q = { p with
        consumer := .idle, line := line, store := p.store.append r, stored := p.stored + 1 } := by
  unfold store? at h
  split at h
  · rename_i r line hc hl hk
    exact ⟨r, line, hc, hl, hk, (Option.some.inj h).symm⟩
  · simp at h

theorem accepted_of_store? {p q : Pipeline} (h : p.store? = some q) : q.accepted = p.accepted := by
  obtain ⟨r, line, hc, -, -, rfl⟩ := store?_eq_some h
  simp [accepted, holding, hc, ReportStore.append]

theorem work_of_store? {p q : Pipeline} (h : p.store? = some q) : q.work + 1 = p.work := by
  obtain ⟨r, line, hc, hl, -, rfl⟩ := store?_eq_some h
  simp [work, Consumer.work, Consumer.isOver, hc, hl]
  omega

theorem finish?_eq_some {p q : Pipeline} (h : p.finish? = some q) :
    p.consumer = .idle ∧ p.queue = [] ∧ p.senders = 0 ∧ q = { p with consumer := .finished } := by
  unfold finish? at h
  split at h
  · rename_i hc hq hs
    exact ⟨hc, hq, hs, (Option.some.inj h).symm⟩
  · simp at h

theorem accepted_of_finish? {p q : Pipeline} (h : p.finish? = some q) :
    q.accepted = p.accepted := by
  obtain ⟨hc, -, -, rfl⟩ := finish?_eq_some h
  simp [accepted, holding, hc]

theorem work_of_finish? {p q : Pipeline} (h : p.finish? = some q) : q.work + 1 = p.work := by
  obtain ⟨hc, -, -, rfl⟩ := finish?_eq_some h
  simp [work, Consumer.work, Consumer.isOver, hc]

/-! ## readers -/

theorem read?_eq_some {p q : Pipeline} {t : TaskId} (h : p.read? = some (t, q)) :
    ∃ line, p.line = Waiter.reader t :: line ∧ p.locked = false ∧ q = { p with line := line } := by
  unfold read? at h
  split at h
  · rename_i u line hl hk
    obtain ⟨rfl, rfl⟩ := Prod.mk.inj (Option.some.inj h)
    exact ⟨line, hl, hk, rfl⟩
  · simp at h

theorem accepted_of_read? {p q : Pipeline} {t : TaskId} (h : p.read? = some (t, q)) :
    q.accepted = p.accepted := by
  obtain ⟨line, -, -, rfl⟩ := read?_eq_some h
  rfl

theorem work_of_read? {p q : Pipeline} {t : TaskId} (h : p.read? = some (t, q)) :
    q.work + 1 = p.work := by
  obtain ⟨line, hl, -, rfl⟩ := read?_eq_some h
  simp [work, hl]
  omega

end MockCollector.Pipeline
