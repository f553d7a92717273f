import MockCollector.Message.Types
import MockCollector.Proofs.Stream.RoundTrip
/-!
# How a body is cut does not show

A client takes steps of a decoder one after the other, those after a failure included.

* `Body.Sequential d`       `d` sees a body as events, and puts nothing back;
* `Decoder.Step`, `Decoder.Answer`   the steps of a client and what they answer;
* `Decoder.steps`           steps in a row;
* `Decoder.own plan as`     of the answers to a plan, those to its steps; its other entries are looks
                            whether the body has ended;
* `Decoder.cuts_and_looks_unseen`   neither the cuts nor the looks change what the steps answer or leave.
-/

namespace MockCollector

open Wire

namespace Body

/-! ## events -/

/-- the bytes up to the first failure, and that failure -/
def Event.lead : List Event → List UInt8 × Option IoError
  | [] => ([], none)
  | .byte b :: es => (b :: (lead es).1, (lead es).2)
  | .failure e :: _ => ([], some e)

theorem Event.lead_bytes (bs : List UInt8) (es : List Event) :
    lead (bs.map .byte ++ es) = (bs ++ (lead es).1, (lead es).2) := by
  induction bs with
  | nil => rfl
  | cons b bs ih => rw [List.map_cons, List.cons_append, lead, ih, List.cons_append]

theorem unread_eq_lead (body : Body) : unread body = Event.lead (events body) := by
  induction body with
  | nil => rfl
  | cons p pieces ih =>
    cases p with
    | bytes bs => rw [unread, ih, events_cons, Piece.events, Event.lead_bytes]
    | failure e => rfl

/-! ## readers -/

/-- where the events are alike, `d` answers alike and leaves the same events, the last of those it
found -/
def Sequential {α : Type} (d : Body → α × Body) : Prop :=
  ∀ ⦃a b : Body⦄, events a = events b → ∃ x restA restB, d a = (x, restA) ∧ d b = (x, restB) ∧
    events restA = events restB ∧ events restA <:+ events a

theorem next_alike {a b : Body} (same : events a = events b) :
    (events a = [] ∧ a.next = .ended ∧ b.next = .ended) ∨
      (∃ c restA restB, a.next = .byte c restA ∧ b.next = .byte c restB ∧
        events restA = events restB ∧ events restA <:+ events a) ∨
      ∃ e restA restB, a.next = .failed e restA ∧ b.next = .failed e restB ∧
        events restA = events restB ∧ events restA <:+ events a := by
  have here := events_eq_next a
  cases ha : a.next with
  | ended =>
    rw [ha] at here
    exact .inl ⟨here, rfl, next_of_events_nil (same ▸ here)⟩
  | byte c rest =>
    rw [ha] at here
    obtain ⟨rest', hb, same'⟩ := next_of_events_cons (same ▸ here)
    exact .inr (.inl ⟨c, rest, rest', rfl, hb, same'.symm, here ▸ List.suffix_cons _ _⟩)
  | failed e rest =>
    rw [ha] at here
    obtain ⟨rest', hb, same'⟩ := next_of_events_failure (same ▸ here)
    exact .inr (.inr ⟨e, rest, rest', rfl, hb, same'.symm, here ▸ List.suffix_cons _ _⟩)

theorem sequential_read (n : Nat) : Sequential (read n) := by
  induction n with
  | zero => exact fun a b same => ⟨_, a, b, rfl, rfl, same, List.suffix_rfl⟩
  | succ n ih =>
    intro a b same
    rw [read, read]
    rcases next_alike same with ⟨-, ha, hb⟩ | ⟨c, _, _, ha, hb, same, less⟩ |
        ⟨e, _, _, ha, hb, same, less⟩
    · rw [ha, hb]
      exact ⟨_, _, _, rfl, rfl, rfl, List.nil_suffix⟩
    · obtain ⟨x, _, _, ra, rb, same, less'⟩ := ih same
      simp only [ha, hb, ra, rb]
      cases x <;> exact ⟨_, _, _, rfl, rfl, same, less'.trans less⟩
    · rw [ha, hb]
      exact ⟨_, _, _, rfl, rfl, same, less⟩

end Body

namespace Decoder

open Body

/-! ## the decoders are such readers -/

theorem sequential_varintFrom (left value : Nat) : Sequential (varintFrom left value) := by
  induction left generalizing value with
  | zero => exact fun a b same => ⟨_, a, b, rfl, rfl, same, List.suffix_rfl⟩
  | succ left ih =>
    intro a b same
    rw [varintFrom, varintFrom]
    rcases next_alike same with ⟨-, ha, hb⟩ | ⟨c, _, _, ha, hb, same, less⟩ |
        ⟨e, _, _, ha, hb, same, less⟩
    · rw [ha, hb]
      exact ⟨_, _, _, rfl, rfl, rfl, List.nil_suffix⟩
    · simp only [ha, hb]
      split
      · exact ⟨_, _, _, rfl, rfl, same, less⟩
      · split
        · exact ⟨_, _, _, rfl, rfl, same, less⟩
        · obtain ⟨x, restA, restB, va, vb, same, less'⟩ := ih _ same
          exact ⟨x, restA, restB, va, vb, same, less'.trans less⟩
    · rw [ha, hb]
      exact ⟨_, _, _, rfl, rfl, same, less⟩

theorem sequential_varint : Sequential varint := sequential_varintFrom _ _

section
variable {M : Type} (L : Layout M) (field : Nat)

theorem sequential_payload : Sequential (payload L) := by
  intro a b same
  obtain ⟨x, midA, midB, hva, hvb, same, less⟩ := sequential_varint same
  rw [payload, payload, hva, hvb]
  cases x with
  | error e => exact ⟨_, _, _, rfl, rfl, same, less⟩
  | ok declared =>
    obtain ⟨y, restA, restB, hra, hrb, same, less'⟩ := sequential_read declared same
    simp only [hra, hrb]
    have less := less'.trans less
    cases y with
    | error e => exact ⟨_, _, _, rfl, rfl, same, less⟩
    | ok bs =>
      simp only
      split
      · exact ⟨_, _, _, rfl, rfl, same, less⟩
      · split <;> exact ⟨_, _, _, rfl, rfl, same, less⟩

theorem sequential_embedded : Sequential (embedded L field) := by
  intro a b same
  obtain ⟨x, midA, midB, hva, hvb, same, less⟩ := sequential_varint same
  rw [embedded, embedded, hva, hvb]
  cases x with
  | error e => exact ⟨_, _, _, rfl, rfl, same, less⟩
  | ok found =>
    simp only
    split
    · exact ⟨_, _, _, rfl, rfl, same, less⟩
    · obtain ⟨y, restA, restB, ha, hb, same, less'⟩ := sequential_payload L same
      exact ⟨y, restA, restB, ha, hb, same, less'.trans less⟩

end

theorem sequential_header : Sequential header := by
  intro a b same
  obtain ⟨x, a₁, b₁, ha, hb, same, less⟩ :=
    sequential_embedded Reporter.layout Report.reporterField same
  rw [header, header, ha, hb]
  cases x with
  | error e => exact ⟨_, _, _, rfl, rfl, same, less⟩
  | ok reporter =>
    obtain ⟨y, a₂, b₂, ha, hb, same, less₂⟩ :=
      sequential_embedded Auth.layout Report.authField same
    simp only [ha, hb]
    cases y with
    | error e => exact ⟨_, _, _, rfl, rfl, same, less₂.trans less⟩
    | ok auth =>
      obtain ⟨z, a₃, b₃, ha, hb, same, less₃⟩ :=
        sequential_embedded InternalMetrics.layout Report.internalMetricsField same
      simp only [ha, hb]
      cases z <;> exact ⟨_, _, _, rfl, rfl, same, less₃.trans (less₂.trans less)⟩

theorem sequential_atEnd : Sequential atEnd := by
  intro a b same
  rw [atEnd, atEnd]
  rcases next_alike same with ⟨-, ha, hb⟩ | ⟨c, _, _, ha, hb, -, -⟩ | ⟨e, _, _, ha, hb, same, less⟩
  · rw [ha, hb]
    exact ⟨_, _, _, rfl, rfl, same, List.suffix_rfl⟩
  · rw [ha, hb]
    exact ⟨_, _, _, rfl, rfl, same, List.suffix_rfl⟩
  · rw [ha, hb]
    exact ⟨_, _, _, rfl, rfl, same, less⟩

theorem sequential_span? : Sequential span? := by
  intro a b same
  obtain ⟨x, midA, midB, ha, hb, same, less⟩ := sequential_atEnd same
  rw [span?, span?, ha, hb]
  cases x with
  | error e => exact ⟨_, _, _, rfl, rfl, same, less⟩
  | ok ended =>
    cases ended with
    | true => exact ⟨_, _, _, rfl, rfl, same, less⟩
    | false =>
      obtain ⟨y, restA, restB, ha, hb, same, less'⟩ :=
        sequential_embedded Span.layout Report.spansField same
      simp only [ha, hb]
      cases y <;> exact ⟨_, _, _, rfl, rfl, same, less'.trans less⟩

/-! ## steps -/

/-- what a client may ask of a decoder -/
inductive Step where
  | header
  | span
  | message (t : MessageType) (field : Nat)
  | atEnd

inductive Answer where
  | header (r : Report)
  | span (s : Option Span)
  | message (t : MessageType) (m : t.Message)
  | atEnd (ended : Bool)
  deriving DecidableEq

def map {α β : Type} (f : α → β) (d : Decoder α) : Decoder β := fun body =>
  ((d body).1.map f, (d body).2)

theorem sequential_map {α β : Type} {f : α → β} {d : Decoder α} (h : Sequential d) :
    Sequential (map f d) := by
  intro a b same
  obtain ⟨x, restA, restB, ha, hb, same, less⟩ := h same
  exact ⟨x.map f, restA, restB, by rw [map, ha], by rw [map, hb], same, less⟩

def Step.take : Step → Decoder Answer
  | .header => map .header Decoder.header
  | .span => map .span span?
  | .message t field => map (.message t) (embedded t.layout field)
  | .atEnd => map .atEnd Decoder.atEnd

theorem Step.sequential_take (s : Step) : Sequential s.take := by
  cases s with
  | header => exact sequential_map sequential_header
  | span => exact sequential_map sequential_span?
  | message t field => exact sequential_map (sequential_embedded t.layout field)
  | atEnd => exact sequential_map sequential_atEnd

/-- what the steps answer, one after the other, and what they leave -/
def steps : List Step → Body → List (Except FrameError Answer) × Body
  | [], body => ([], body)
  | s :: ss, body => ((s.take body).1 :: (steps ss (s.take body).2).1, (steps ss (s.take body).2).2)

theorem sequential_steps (ss : List Step) : Sequential (steps ss) := by
  induction ss with
  | nil => exact fun a b same => ⟨_, a, b, rfl, rfl, same, List.suffix_rfl⟩
  | cons s ss ih =>
    intro a b same
    obtain ⟨x, midA, midB, ha, hb, same, less⟩ := s.sequential_take same
    obtain ⟨xs, restA, restB, hsa, hsb, same, less'⟩ := ih same
    refine ⟨x :: xs, restA, restB, ?_, ?_, same, less'.trans less⟩
    · rw [steps, ha, hsa]
    · rw [steps, hb, hsb]

/-! ## looks -/

/-- the steps that a plan comes to: where it has none, a look whether the body has ended -/
def planned (plan : List (Option Step)) : List Step := plan.map (·.getD .atEnd)

/-- of the answers to a plan, those to its steps -/
def own {α : Type} : List (Option Step) → List α → List α
  | some _ :: plan, a :: as => a :: own plan as
  | none :: plan, _ :: as => own plan as
  | _, _ => []

/-- bytes alone are to come -/
def Unfailing (body : Body) : Prop := ∃ bs : List UInt8, events body = bs.map .byte

theorem Unfailing.of_suffix {a b : Body} (h : Unfailing b) (less : events a <:+ events b) :
    Unfailing a := by
  obtain ⟨bs, hb⟩ := h
  rw [hb] at less
  obtain ⟨_, after, -, -, ha⟩ :=
    List.map_eq_append_iff.mp (List.suffix_iff_eq_append.mp less).symm
  exact ⟨_, ha.symm⟩

/-- a look takes nothing from a body that does not fail -/
theorem take_atEnd_of_unfailing {body : Body} (h : Unfailing body) :
    (Step.atEnd.take body).2 = body := by
  obtain ⟨bs, he⟩ := h
  rw [Step.take, map, atEnd]
  rw [events_eq_next] at he
  cases hn : body.next with
  | ended => rfl
  | byte b rest => rfl
  | failed e rest =>
    rw [hn] at he
    cases bs <;> cases he

theorem steps_planned (plan : List (Option Step)) {body : Body} (h : Unfailing body) :
    own plan (steps (planned plan) body).1 = (steps (plan.filterMap id) body).1 ∧
      (steps (planned plan) body).2 = (steps (plan.filterMap id) body).2 := by
  induction plan generalizing body with
  | nil => exact ⟨rfl, rfl⟩
  | cons entry plan ih =>
    cases entry with
    | none =>
      obtain ⟨answers, left⟩ := ih h
      show own plan (steps (planned plan) (Step.atEnd.take body).2).1 = _ ∧
        (steps (planned plan) (Step.atEnd.take body).2).2 = _
      rw [take_atEnd_of_unfailing h]
      exact ⟨answers, left⟩
    | some s =>
      obtain ⟨_, _, _, ht, -, -, less⟩ := s.sequential_take (a := body) rfl
      obtain ⟨answers, left⟩ := ih (h.of_suffix less)
      show (s.take body).1 :: own plan (steps (planned plan) (s.take body).2).1
          = (s.take body).1 :: (steps (plan.filterMap id) (s.take body).2).1 ∧
        (steps (planned plan) (s.take body).2).2 = (steps (plan.filterMap id) (s.take body).2).2
      rw [ht, answers, left]
      exact ⟨rfl, rfl⟩

/-! ## cuts and looks -/

/-- **Chunking is invisible and peeking is free**: cut in one way or in another, the same bytes give
every step of a client the same answer, whatever the steps before it answered, and leave the same
bytes; and looks among the steps change neither. -/
theorem cuts_and_looks_unseen (chunks others : List (List UInt8))
    (same : chunks.flatten = others.flatten) (ss : List Step) :
    (steps ss (chunks.map .bytes)).1 = (steps ss (others.map .bytes)).1 ∧
      (steps ss (chunks.map .bytes)).2.unread = (steps ss (others.map .bytes)).2.unread ∧
      ∀ plan : List (Option Step), plan.filterMap id = ss →
        own plan (steps (planned plan) (others.map .bytes)).1 = (steps ss (chunks.map .bytes)).1 ∧
          (steps (planned plan) (others.map .bytes)).2.unread
            = (steps ss (chunks.map .bytes)).2.unread := by
  have events : Body.events (chunks.map .bytes) = Body.events (others.map .bytes) := by
    rw [Body.events_map_bytes, Body.events_map_bytes, same]
  obtain ⟨as, restA, restB, ha, hb, left, -⟩ := sequential_steps ss events
  have unread : restA.unread = restB.unread := by
    rw [Body.unread_eq_lead, Body.unread_eq_lead, left]
  rw [ha, hb]
  refine ⟨rfl, unread, ?_⟩
  rintro plan rfl
  obtain ⟨answers, rest⟩ := steps_planned plan ⟨_, Body.events_map_bytes others⟩
  rw [answers, rest, hb]
  exact ⟨rfl, unread.symm⟩

/-- `pieces` with other cuts -/
def otherPieces : List (List UInt8) :=
  [[], [10, 0, 18], [3, 10], [1, 107, 50, 0, 26], [], [3, 18, 1, 97], [26, 0]]

/-- a span is asked for too early, and a message of a field that is never sent -/
def astray : List Step :=
  [.span, .header, .message .auth 2, .atEnd, .message .command 7, .span, .span]

/-- looks in front, behind steps that failed and at the end -/
def curious : List (Option Step) :=
  [none, some .span, none, some .header, some (.message .auth 2), some .atEnd, none,
    some (.message .command 7), some .span, none, some .span, none, none]

/-- a step that fails goes no further than the tag that it did not expect, so others can succeed -/
def astrayAnswers : List (Option Answer) :=
  [none, none, some (.message .auth ⟨"k"⟩), some (.atEnd false), none, none,
    some (.span twoSpans[0]?)]

theorem cuts_and_looks_unseen_by_a_client_astray :
    pieces.flatten = otherPieces.flatten ∧ curious.filterMap id = astray ∧
      (steps astray (otherPieces.map .bytes)).1.map Except.toOption = astrayAnswers ∧
      (own curious (steps (planned curious) (otherPieces.map .bytes)).1).map Except.toOption
        = astrayAnswers ∧
      (steps (planned curious) (otherPieces.map .bytes)).2.unread = ([26, 0], none) := by
  have same : pieces.flatten = otherPieces.flatten := rfl
  obtain ⟨answers, -, looks⟩ := cuts_and_looks_unseen pieces otherPieces same astray
  obtain ⟨told, unread⟩ := looks curious rfl
  have expected : (steps astray (pieces.map .bytes)).1.map Except.toOption = astrayAnswers := by
    decide +kernel
  have left : (steps astray (pieces.map .bytes)).2.unread = ([26, 0], none) := by decide +kernel
  exact ⟨same, rfl, answers ▸ expected, told ▸ expected, unread.trans left⟩

end Decoder

end MockCollector
