import MockCollector.Request.Streamed
import MockCollector.Stream.Consumption
/-!
# The reports that a stream stands for

* `Decoder.spans body`    the spans that can be read one after the other, and the error that stops them if
                          the body does not end there;
* `Body.items body`       the reports that a streamed body stands for, and the violation that breaks it off;
* `OpenStream.items s`    those of an open stream that are still to come.

Opening a stream and every span read from it take one report off (`items_of_open?`, `items_of_span`), and
a stream stops where no report is left (`items_of_ended`, `items_of_violated`).  All of them name the
reporter of the opening frames (`Body.mem_items`).
-/

namespace MockCollector

def Decoder.spans (body : Body) : List Span × Option FrameError :=
  match _h : span? body with
  | (.error e, _) => ([], some e)
  | (.ok none, _) => ([], none)
  | (.ok (some s), rest) => (s :: (spans rest).1, (spans rest).2)
termination_by body.events.length
decreasing_by all_goals exact length_events_span? _h

/-- the opening frames make one report with the metrics, and each span makes one without them -/
def Body.items (body : Body) : List Report × Option Violation :=
  match Decoder.header body with
  | (.error e, _) => ([], some (.prologue e))
  | (.ok header, rest) =>
    (⟨header.reporter, header.auth, [], 0, header.internalMetrics⟩ ::
        (Decoder.spans rest).1.map fun s => ⟨header.reporter, header.auth, [s], 0, none⟩,
      (Decoder.spans rest).2.map .span)

/-! ## spans -/

namespace Decoder

theorem spans_of_error {body rest : Body} {e : FrameError} (h : span? body = (.error e, rest)) :
    spans body = ([], some e) := by
  rw [spans]
  split <;> rename_i heq <;> rw [h] at heq <;> cases heq
  rfl

theorem spans_of_end {body rest : Body} (h : span? body = (.ok none, rest)) :
    spans body = ([], none) := by
  rw [spans]
  split <;> rename_i heq <;> rw [h] at heq <;> cases heq

theorem spans_of_span {body rest : Body} {s : Span} (h : span? body = (.ok (some s), rest)) :
    spans body = (s :: (spans rest).1, (spans rest).2) := by
  rw [spans]
  split <;> rename_i heq <;> rw [h] at heq <;> cases heq
  rfl

theorem header_eq {body rest : Body} {r : Report} (h : header body = (.ok r, rest)) :
    r = ⟨r.reporter, r.auth, [], 0, r.internalMetrics⟩ := by
  unfold header at h
  split at h
  · cases h
  · split at h
    · cases h
    · split at h <;> cases h
      rfl

end Decoder

/-! ## open streams -/

namespace OpenStream

def items (s : OpenStream) : List Report × Option Violation :=
  ((Decoder.spans s.body).1.map s.item, (Decoder.spans s.body).2.map .span)

theorem items_of_ended {s : OpenStream} (h : s.next = .ended) : s.items = ([], none) := by
  unfold next at h
  split at h
  · cases h
  · rename_i hs
    rw [items, Decoder.spans_of_end hs]
    rfl
  · cases h

theorem items_of_span {s rest : OpenStream} {r : Report} (h : s.next = .span r rest) :
    s.items = (r :: rest.items.1, rest.items.2) := by
  unfold next at h
  split at h
  · cases h
  · cases h
  · rename_i hs
    cases h
    rw [items, Decoder.spans_of_span hs]
    rfl

theorem items_of_violated {s : OpenStream} {v : Violation} (h : s.next = .violated v) :
    s.items = ([], some v) := by
  unfold next at h
  split at h
  · rename_i hs
    cases h
    rw [items, Decoder.spans_of_error hs]
    rfl
  · cases h
  · cases h

/-- a stream that could not be opened stands for no report -/
theorem items_of_not_opened {body : Body} {v : Violation} (h : open? body = .error v) :
    body.withOtherFailures.items = ([], some v) := by
  unfold open? at h
  split at h
  · rename_i hh
    cases h
    rw [Body.items, hh]
  · cases h

theorem items_of_open? {body : Body} {header : Report} {s : OpenStream}
    (h : open? body = .ok (header, s)) :
    body.withOtherFailures.items = (header :: s.items.1, s.items.2) := by
  unfold open? at h
  split at h
  · cases h
  · rename_i hh
    cases h
    rw [Body.items, hh]
    show (_ :: _, _) = _
    rw [← Decoder.header_eq hh]
    rfl

end OpenStream

/-- every report of a body is made in the name of its own header -/
theorem Body.mem_items {body : Body} {r : Report} (h : r ∈ body.items.1) :
    ∃ header rest, Decoder.header body = (.ok header, rest) ∧ r.reporter = header.reporter ∧
      r.auth = header.auth := by
  unfold Body.items at h
  split at h
  · cases h
  · rename_i header rest hh
    refine ⟨header, rest, hh, ?_⟩
    rcases List.mem_cons.mp h with rfl | span
    · exact ⟨rfl, rfl⟩
    · obtain ⟨s, -, rfl⟩ := List.mem_map.mp span
      exact ⟨rfl, rfl⟩

end MockCollector
