import MockCollector.Proofs.Collector.Drain
import MockCollector.Proofs.Message.RoundTrip
import MockCollector.Proofs.Request.Fixed
/-!
# Requests that come whole

* `Request.items_of_carries`   a request that carries a report stands for it alone;
* `Request.refused`        one that carries none is refused before anything begins;
* `Sound.once_eq`          and a task that is over as it begins leaves behind that it was there;
* `Carries.of_encodes`     a request with the bytes of a report and their number carries this report;
* `fixed_report_all_or_nothing`   so a report that comes whole is stored whole, or not at all.
-/

namespace MockCollector

/-! ## the request -/

section
variable {request : Request} {r : Report}

theorem Request.refused (whole : isStreamed request.path request.headers = false)
    (nothing : ∀ r, ¬ Carries request.headers request.body r) :
    ∃ v, v.phase = .prologue ∧ Next.report? request = .error v := by
  cases read : fixedReport request.headers request.body with
  | ok r => exact absurd (fixedReport_eq_ok_iff.mp read) (nothing r)
  | error v =>
    refine ⟨v, phase_of_fixedReport read, ?_⟩
    rw [Next.report?, if_neg (by simp [whole]), read]
    rfl

end

/-! ## the collector -/

theorem Collector.Sound.once_eq {c : Collector} (h : c.Sound) (o : Outcome) :
    c.once o = { c with
      nextId := c.nextId + 1
      ended := c.ended ++ [⟨c.nextId, o, 0⟩] } := by
  let new : Task := ⟨c.nextId, c.now, .ready .respond⟩
  have tasks : (c.tasks ++ [new]).filter (fun u => u.id != c.nextId) = c.tasks := by
    rw [List.filter_append, List.filter_cons_of_neg (by simp [new]), List.filter_nil, List.append_nil]
    refine List.filter_eq_self.mpr fun t ht => bne_iff_ne.mpr ?_
    exact Nat.ne_of_lt (h.lt_nextId (s := .underway t.progress) ⟨t, ht, rfl, rfl⟩)
  have begun : c.once o = { c with
      tasks := (c.tasks ++ [new]).filter fun u => u.id != c.nextId
      nextId := c.nextId + 1
      ended := c.ended ++ [⟨c.nextId, o, c.now - c.now⟩] } := rfl
  rw [begun, tasks, Nat.sub_self]

namespace Course

variable {k l : Course} {request : Request}

/-- a report that is refused changes nothing but that it has been there -/
theorem Sound.refuses {v : Violation} (h : k.Sound) (refused : Next.report? request = .error v)
    (hl : k.step? (.perform .report request) = some l) :
    l.collector.At k.collector.nextId (.ended (.violated v)) ∧
      l = { k with collector := { k.collector with
        nextId := k.collector.nextId + 1
        ended := k.collector.ended ++ [⟨k.collector.nextId, .violated v, 0⟩] } } := by
  obtain ⟨d, hd, rfl⟩ := Option.map_eq_some_iff.mp hl
  obtain ⟨-, rfl⟩ := Collector.withRight_eq_some.mp hd
  have refuses : k.collector.perform .report request = k.collector.once (.violated v) := by
    rw [Collector.perform, refused]
  have nothing : k.handed ++ k.collector.handed (k.collector.perform .report request)
      (.perform .report request) = k.handed := List.append_nil _
  rw [nothing, refuses, h.collector.once_eq]
  exact ⟨⟨_, List.mem_append_right _ (List.mem_singleton.mpr rfl), rfl, rfl⟩, rfl⟩

end Course

/-- a report in pieces; the first of the two lengths that are declared counts, and has a sign -/
def wholeInPieces : Request :=
  ⟨Endpoint.report.path, [⟨"content-length", "+2"⟩, ⟨"content-length", "3"⟩],
    [.bytes [40], .bytes [], .bytes [5]]⟩

/-- with one byte too many -/
def overlong : Request := { wholeInPieces with body := wholeInPieces.body ++ [.bytes [0]] }

/-- the report is queued, and was answered -/
def failed : Course :=
  ⟨⟨⟨1, 1, [numbered 5], [], .idle, 0, ⟨[numbered 9]⟩, true, []⟩, ⟨false, false, false, false⟩,
      false, 100, 0, [], 1, [⟨0, .answered .failed, 0⟩]⟩, [(0, numbered 5)]⟩

end MockCollector
