import MockCollector.Proofs.Collector.Moves
import MockCollector.Server.Basic
/-!
# A server that runs out

* `Collector.Timely`       no pause is longer than pauses are;
* `Sound.work_settle_lt`   settling takes work off if anything can happen, and a pause that ends can;
* `Sound.advanceWithin_at_rest`   so as long as there is time for a pause for each piece of work, all pass;
* `Sound.runOut_at_rest`   which a server takes;
* `Sound.runOut_keeps`     and what moves keep, and the clock as it runs, is kept;
* `Course.DriftsTo`        nothing happens there but what happens by itself.
-/

namespace MockCollector.Collector

variable {c d : Collector}

/-! ## settling -/

theorem Sound.work_settleWithin_le (h : c.Sound) (n : Nat) : (settleWithin n c).work ≤ c.work := by
  refine (h.settleWithin_keeps (P := fun d => d.work ≤ c.work) (fun d e sound less hm => ?_) n
    (Nat.le_refl _)).2
  exact Nat.le_of_lt (Nat.lt_of_lt_of_le (work_lt_of_move? sound.nodup hm) less)

theorem Sound.work_settle_lt (h : c.Sound) (hm : c.move? = some d) : c.settle.work < c.work := by
  have less := work_lt_of_move? h.nodup hm
  unfold settle
  cases hw : c.work with
  | zero => omega
  | succ n =>
    have rest := (h.of_move? hm).work_settleWithin_le n
    rw [settleWithin, hm]
    show (settleWithin n d).work < n + 1
    omega

theorem Sound.settle_goes (h : c.Sound) : Goes c c.settle :=
  (h.settle_keeps (P := Goes c) (fun _ _ sound goes hm => goes.trans (sound.goes hm)) (.refl c)).2

theorem Sound.of_settle (h : c.Sound) : c.settle.Sound :=
  (h.settle_keeps (P := fun _ => True) (fun _ _ _ _ _ => trivial) trivial).1

/-! ## pauses -/

def Timely (c : Collector) : Prop :=
  ∀ t ∈ c.tasks, ∀ wake n, t.progress = .pausing wake n → wake ≤ c.now + c.throttleDelay

theorem Timely.goes (h : c.Timely) (goes : Goes c d) : d.Timely := by
  intro u hu wake n hn
  rw [goes.now, goes.delay]
  rcases goes.pauses u hu wake n hn with old | new
  · exact h u old wake n hn
  · exact Nat.le_of_eq new

/-- where nothing can happen now no pause is over -/
theorem asleep (still : c.move? = none) {t : Task} (ht : t ∈ c.tasks) {wake : Nat} {n : Next}
    (hp : t.progress = .pausing wake n) : c.now < wake := by
  have none := (move?_eq_none still).1 t ht
  rw [taskStep?, hp] at none
  refine Nat.lt_of_not_le fun passed => ?_
  simp only [passed, if_true, reduceCtorEq] at none

/-- a task that pauses can go on when its pause is over -/
theorem move?_of_awake {t : Task} (ht : t ∈ c.tasks) {wake : Nat} {n : Next}
    (hp : t.progress = .pausing wake n) (passed : wake ≤ c.now) : ∃ d, c.move? = some d := by
  refine Option.ne_none_iff_exists'.mp fun still => ?_
  exact Nat.lt_irrefl _ (Nat.lt_of_lt_of_le (asleep still ht hp) passed)

/-- where nothing can happen and nobody pauses, the clock changes nothing -/
theorem at_rest_with_clock (still : c.move? = none) (awake : c.due? = none)
    (free : c.pipeline.locked = false) (now : Nat) : ({ c with now := now } : Collector).AtRest := by
  obtain ⟨tasks, pipeline⟩ := move?_eq_none_iff.mp still
  refine ⟨move?_eq_none_iff.mpr ⟨fun t ht => ?_, pipeline⟩, awake, free⟩
  have none := tasks t ht
  unfold taskStep? at none ⊢
  cases hp : t.progress with
  | ready n =>
    rw [hp] at none
    cases none
  | pausing wake n => exact absurd awake (mem_pauses ht hp)
  | held =>
    rw [hp] at none
    by_cases stopped : c.stopped = true
    · simp only [stopped, if_true, reduceCtorEq] at none
    · exact if_neg stopped
  | draining =>
    rw [hp] at none
    exact Option.map_eq_none_iff.mpr (Option.map_eq_none_iff.mp none)
  | queued n | fetching what => rfl

theorem Sound.withClock (h : c.Sound) (now : Nat) : ({ c with now := now } : Collector).Sound := { h with }

/-! ## advancing -/

theorem work_pos {t : Task} (ht : t ∈ c.tasks) : 0 < c.work := by
  have tasks : 0 < tasksWork c.tasks := by
    cases hc : c.tasks with
    | nil =>
      rw [hc] at ht
      cases ht
    | cons u us => exact Nat.add_pos_left (Nat.succ_pos _) _
  exact Nat.add_pos_left tasks _

/-- each pause that passes takes work off, so there is time for all of them -/
theorem Sound.advanceWithin_at_rest {n time : Nat} (h : c.Sound) (timely : c.Timely)
    (free : c.pipeline.locked = false) (enough : c.settle.work ≤ n)
    (soon : c.now + c.settle.work * c.throttleDelay ≤ time) : (advanceWithin n time c).AtRest := by
  have goes := h.settle_goes
  have still := move?_settle h.distinct
  have free' : c.settle.pipeline.locked = false := goes.locked.trans free
  induction n generalizing c with
  | zero =>
    refine at_rest_with_clock still ?_ free' time
    cases due : c.settle.due? with
    | none => rfl
    | some wake =>
      obtain ⟨t, ht, -⟩ := exists_of_due due
      exact absurd (work_pos ht) (Nat.not_lt.mpr enough)
  | succ n ih =>
    rw [advanceWithin]
    cases due : c.settle.due? with
    | none =>
      simp only
      exact at_rest_with_clock still due free' time
    | some wake =>
      simp only
      obtain ⟨t, ht, k, hp⟩ := exists_of_due due
      have later := asleep still ht hp
      have bound := timely.goes goes t ht wake k hp
      rw [goes.now] at later
      rw [goes.now, goes.delay] at bound
      let woken : Collector := { c.settle with now := wake }
      have sound : woken.Sound := h.of_settle.withClock wake
      obtain ⟨d, moves⟩ := move?_of_awake (c := woken) ht hp (Nat.le_refl wake)
      have less : woken.settle.work < c.settle.work := sound.work_settle_lt moves
      have pause : (woken.settle.work + 1) * c.throttleDelay ≤ c.settle.work * c.throttleDelay :=
        Nat.mul_le_mul_right _ less
      rw [Nat.succ_mul] at pause
      rw [if_pos (by omega)]
      refine ih sound (fun u hu w m hw => ?_) free' (show woken.settle.work ≤ n by omega) ?_
        sound.settle_goes
        (move?_settle sound.distinct) (sound.settle_goes.locked.trans free')
      · have before := timely.goes goes u hu w m hw
        rw [goes.now, goes.delay] at before
        show w ≤ wake + c.settle.throttleDelay
        rw [goes.delay]
        omega
      · show wake + woken.settle.work * c.settle.throttleDelay ≤ time
        rw [goes.delay]
        omega

/-- what moves keep, and the clock as it runs, is kept -/
theorem Sound.advanceWithin_keeps {P : Collector → Prop} {n time : Nat}
    (moves : ∀ c d, c.Sound → P c → c.move? = some d → P d)
    (clock : ∀ (c : Collector) now, c.now ≤ now → P c → P { c with now := now })
    (h : c.Sound) (ahead : c.now ≤ time) (hP : P c) :
    (advanceWithin n time c).Sound ∧ P (advanceWithin n time c) := by
  obtain ⟨sound, settled⟩ := h.settle_keeps moves hP
  have now := h.settle_goes.now
  have ends : ({ c.settle with now := time } : Collector).Sound ∧ P { c.settle with now := time } :=
    ⟨sound.withClock time, clock _ time (now.symm ▸ ahead) settled⟩
  induction n generalizing c with
  | zero => exact ends
  | succ n ih =>
    rw [advanceWithin]
    cases due : c.settle.due? with
    | none =>
      simp only
      exact ends
    | some wake =>
      simp only
      by_cases soon : wake ≤ time
      · rw [if_pos soon]
        obtain ⟨t, ht, k, hp⟩ := exists_of_due due
        have later := asleep (move?_settle h.distinct) ht hp
        let woken : Collector := { c.settle with now := wake }
        have wakes : P woken := clock _ wake (Nat.le_of_lt later) settled
        have sound' : woken.Sound := sound.withClock wake
        obtain ⟨sound'', settled'⟩ := sound'.settle_keeps moves wakes
        have now' : woken.settle.now = wake := sound'.settle_goes.now
        exact ih sound' soon wakes sound'' settled' now'
          ⟨sound''.withClock time, clock _ time (now'.symm ▸ soon) settled'⟩
      · rw [if_neg soon]
        exact ends

end MockCollector.Collector

namespace MockCollector.Collector.Sound

variable {c : Collector}

/-- **A server that runs out comes to rest**, if the store is free. -/
theorem runOut_at_rest (h : c.Sound) (timely : c.Timely) (free : c.pipeline.locked = false) :
    (Server.runOut c).AtRest := by
  have less : c.settle.work ≤ c.work := h.work_settleWithin_le c.work
  have rest : (c.advance (c.work * c.throttleDelay)).AtRest := by
    refine h.advanceWithin_at_rest timely free less ?_
    exact Nat.add_le_add_left (Nat.mul_le_mul_right _ less) _
  rw [Server.runOut, settle_of_move?_eq_none rest.still]
  exact rest

theorem runOut_keeps {P : Collector → Prop} (moves : ∀ c d, c.Sound → P c → c.move? = some d → P d)
    (clock : ∀ (c : Collector) now, c.now ≤ now → P c → P { c with now := now })
    (h : c.Sound) (hP : P c) : (Server.runOut c).Sound ∧ P (Server.runOut c) := by
  obtain ⟨sound, advanced⟩ := h.advanceWithin_keeps moves clock (Nat.le_add_right c.now _) hP
  exact sound.settle_keeps moves advanced

end MockCollector.Collector.Sound

/-! ## drifting -/

namespace MockCollector.Course

variable {k : Course} {c d : Collector}

/-- what happens by itself leads to the collector `c` -/
def DriftsTo (k : Course) (c : Collector) : Prop := ∃ l, Drifts k l ∧ l.collector = c

namespace DriftsTo

theorem move (h : c.Sound) (drifts : DriftsTo k c) (hm : c.move? = some d) : DriftsTo k d := by
  obtain ⟨l, first, rfl⟩ := drifts
  obtain ⟨e, spontaneous, hd, -⟩ := h.happen?_of_move? hm
  obtain ⟨m, last, rfl⟩ := Drifts.one spontaneous hd
  exact ⟨m, first.trans last, rfl⟩

theorem clock (drifts : DriftsTo k c) {now : Nat} (ahead : c.now ≤ now) :
    DriftsTo k { c with now := now } := by
  obtain ⟨l, first, rfl⟩ := drifts
  have passes : l.collector.happen? (.elapse (now - l.collector.now))
      = some { l.collector with now := now } := by
    rw [Collector.happen?, Nat.add_sub_cancel' ahead]
  obtain ⟨m, last, same⟩ := Drifts.one rfl passes
  exact ⟨m, first.trans last, same⟩

theorem settle (h : k.collector.Sound) : DriftsTo k k.collector.settle :=
  (h.settle_keeps (P := DriftsTo k) (fun _ _ h drifts hm => drifts.move h hm) ⟨k, .refl k, rfl⟩).2

theorem runOut (h : k.collector.Sound) : DriftsTo k (Server.runOut k.collector) :=
  (h.runOut_keeps (P := DriftsTo k) (fun _ _ h drifts hm => drifts.move h hm)
    (fun _ _ ahead drifts => drifts.clock ahead) ⟨k, .refl k, rfl⟩).2

end DriftsTo

end MockCollector.Course
