import MockCollector.Proofs.Number.Numeral
import MockCollector.Request.Fixed
/-!
# Reports that come whole

* `Body.Holds body bs`     the body delivers the bytes `bs` and does not fail;
* `gather_eq_ok_iff`       these are what is gathered of it, unless they are too many;
* `declaredLength?_eq_some_iff`   the length is what the first header of that name spells;
* `Carries headers body r` the length that is declared is that of the body, which is a message of `r`;
* `fixedReport_eq_ok_iff`  and exactly then `r` is read; otherwise what is wrong is told as of the prologue
                           (`phase_of_fixedReport`).
-/

namespace MockCollector

/-! ## the bytes of a body -/

def Body.Holds (body : Body) (bs : List UInt8) : Prop := body.events = bs.map .byte

variable {body : Body} {bs : List UInt8}

theorem Body.holds_nil : Body.Holds [] bs ↔ bs = [] := by
  rw [Holds, events_nil, eq_comm, List.map_eq_nil_iff]

theorem Body.not_holds_failure {e : IoError} : ¬ Body.Holds (.failure e :: body) bs := by
  intro h
  rw [Holds, events_cons] at h
  cases bs <;> cases h

theorem Body.holds_bytes {cs : List UInt8} :
    Body.Holds (.bytes cs :: body) bs ↔ ∃ ds, bs = cs ++ ds ∧ body.Holds ds := by
  rw [Holds, events_cons, Piece.events]
  constructor
  · intro h
    obtain ⟨as, ds, rfl, first, rest⟩ := List.map_eq_append_iff.mp h.symm
    have same : as = cs := (List.map_inj_right fun _ _ => Event.byte.inj).mp first
    exact ⟨ds, by rw [same], rest.symm⟩
  · rintro ⟨ds, rfl, h⟩
    rw [h, List.map_append]

/-- no piece is too much unless all of them together are -/
theorem gather_eq_ok_iff {limit : Nat} :
    gather limit body = .ok bs ↔ body.Holds bs ∧ bs.length ≤ limit := by
  induction body generalizing limit bs with
  | nil =>
    rw [gather, Except.ok.injEq, Body.holds_nil, eq_comm]
    constructor
    · rintro rfl
      exact ⟨rfl, Nat.zero_le _⟩
    · exact And.left
  | cons piece rest ih =>
    cases piece with
    | failure e => exact ⟨fun h => (by cases h), fun h => absurd h.1 Body.not_holds_failure⟩
    | bytes cs =>
      rw [gather, Body.holds_bytes]
      by_cases more : limit < cs.length
      · rw [if_pos more]
        refine ⟨fun h => (by cases h), ?_⟩
        rintro ⟨⟨ds, rfl, -⟩, small⟩
        rw [List.length_append] at small
        omega
      · rw [if_neg more]
        constructor
        · intro h
          cases read : gather (limit - cs.length) rest with
          | error v =>
            rw [read] at h
            cases h
          | ok ds =>
            rw [read] at h
            cases h
            obtain ⟨holds, small⟩ := ih.mp read
            refine ⟨⟨ds, rfl, holds⟩, ?_⟩
            rw [List.length_append]
            omega
        · rintro ⟨⟨ds, rfl, holds⟩, small⟩
          rw [List.length_append] at small
          have read : gather (limit - cs.length) rest = .ok ds := ih.mpr ⟨holds, by omega⟩
          rw [read]
          rfl

theorem phase_of_gather {limit : Nat} {v : Violation} (h : gather limit body = .error v) :
    v.phase = .prologue := by
  induction body generalizing limit with
  | nil => cases h
  | cons piece rest ih =>
    cases piece with
    | failure e =>
      cases h
      rfl
    | bytes cs =>
      rw [gather] at h
      split at h
      · cases h
        rfl
      · cases read : gather (limit - cs.length) rest with
        | error w =>
          rw [read] at h
          cases h
          exact ih read
        | ok ds =>
          rw [read] at h
          cases h

/-! ## the length that is declared -/

theorem Header.isVisible_of_isDigit {c : Char} (h : c.isDigit = true) : isVisible c = true := by
  obtain ⟨low, high⟩ := Numeral.isDigit_iff.mp h
  refine decide_eq_true (.inr ⟨?_, ?_⟩)
  · exact Char.le_trans (by decide : ' ' ≤ '0') low
  · exact Char.le_trans high (by decide : '9' ≤ '~')

/-- a numeral is made of characters that a header may show -/
theorem Header.visible?_of_spells {n : Nat} {value : String} (h : Numeral.Spells n value.toList) :
    visible? value = some value := by
  refine if_pos (List.all_eq_true.mpr ?_)
  generalize value.toList = cs at h
  cases h with
  | plain h => exact fun c hc => isVisible_of_isDigit (h.digits c hc)
  | plus h =>
    rw [List.forall_mem_cons]
    exact ⟨by decide, fun c hc => isVisible_of_isDigit (h.digits c hc)⟩

theorem declaredLength?_eq_some_iff {headers : List Header} {n : Nat} :
    declaredLength? headers = some n ↔
      ∃ value, (Headers.values "content-length" headers).head? = some value ∧
        Numeral.Spells n value.toList ∧ n < UInt64.size := by
  have limit : n ≤ maxLength ↔ n < UInt64.size := Nat.le_sub_one_iff_lt (by decide)
  rw [declaredLength?]
  cases (Headers.values "content-length" headers).head? with
  | none => exact ⟨fun h => (by cases h), fun ⟨_, h, _⟩ => (by cases h)⟩
  | some value =>
    show ((Header.visible? value).bind fun text =>
      (Numeral.natural maxLength text.toList).toOption) = some n ↔ _
    constructor
    · intro h
      obtain ⟨text, shown, read⟩ := Option.bind_eq_some_iff.mp h
      obtain ⟨-, same⟩ := Option.ite_none_right_eq_some.mp shown
      cases same
      cases spelt : Numeral.natural maxLength value.toList with
      | error e =>
        rw [spelt] at read
        cases read
      | ok m =>
        rw [spelt] at read
        cases read
        obtain ⟨spells, small⟩ := Numeral.natural_eq_ok_iff.mp spelt
        exact ⟨value, rfl, spells, limit.mp small⟩
    · rintro ⟨text, same, spells, small⟩
      cases same
      rw [Header.visible?_of_spells spells]
      show (Numeral.natural maxLength value.toList).toOption = some n
      rw [Numeral.natural_eq_ok_iff.mpr ⟨spells, limit.mpr small⟩]
      rfl

/-! ## the report -/

structure Carries (headers : List Header) (body : Body) (r : Report) : Prop where
  /-- the first length that is declared is that of the bytes that are delivered, all of them -/
  told : ∃ value bs, (Headers.values "content-length" headers).head? = some value ∧
    Numeral.Spells bs.length value.toList ∧ bs.length < UInt64.size ∧ body.Holds bs ∧
      Report.layout.decode bs = .ok r

variable {headers : List Header} {r : Report} {v : Violation}

theorem fixedReport_eq_ok_iff : fixedReport headers body = .ok r ↔ Carries headers body r := by
  constructor
  · intro h
    unfold fixedReport at h
    split at h
    · cases h
    · rename_i declared length
      split at h
      · cases h
      · rename_i bs gathered
        split at h
        · cases h
        · rename_i same
          split at h
          · cases h
          · rename_i read
            cases h
            obtain rfl : bs.length = declared := Decidable.not_not.mp same
            obtain ⟨value, first, spells, small⟩ := declaredLength?_eq_some_iff.mp length
            have holds := (gather_eq_ok_iff.mp gathered).1
            exact ⟨value, bs, first, spells, small, holds, read⟩
  · rintro ⟨value, bs, first, spells, small, holds, read⟩
    have length := declaredLength?_eq_some_iff.mpr ⟨value, first, spells, small⟩
    have gathered := gather_eq_ok_iff.mpr ⟨holds, Nat.le_refl bs.length⟩
    simp only [fixedReport, length, gathered, ne_eq, not_true_eq_false, if_false, read]

theorem phase_of_fixedReport (h : fixedReport headers body = .error v) : v.phase = .prologue := by
  unfold fixedReport at h
  split at h
  · cases h
    rfl
  · split at h
    · rename_i gathered
      cases h
      exact phase_of_gather gathered
    · split at h
      · cases h
        rfl
      · split at h
        · cases h
          rfl
        · cases h

end MockCollector
