import Mathlib.Algebra.GroupWithZero.Nat
import MockCollector.Number.Places
import MockCollector.Number.Shortest
import MockCollector.Text.Quoted
/-!
# Lines of text

* `lineBreaks s`            how many line breaks there are in `s`;
* `lineBreaks_append`, `lineBreaks_commas`   texts put together have those of their parts;
* `lineBreaks_join_mapIdx`  so do numbered ones;
* `lineBreaks_quoted`       quoted text is on one line, and so is every number that is written out.
-/

namespace MockCollector

def lineBreaks (s : String) : Nat := s.toList.count '\n'

theorem lineBreaks_eq_zero_iff {s : String} : lineBreaks s = 0 ↔ '\n' ∉ s.toList := List.count_eq_zero

/-! ## texts put together -/

theorem lineBreaks_append (s t : String) : lineBreaks (s ++ t) = lineBreaks s + lineBreaks t := by
  rw [lineBreaks, String.toList_append, List.count_append]
  rfl

theorem lineBreaks_commas (ss : List String) :
    lineBreaks (", ".intercalate ss) = (ss.map lineBreaks).sum := by
  induction ss with
  | nil => rfl
  | cons s ss ih =>
    cases ss with
    | nil => rw [String.intercalate_singleton, List.map_singleton, List.sum_singleton]
    | cons t ss =>
      have comma : lineBreaks ", " = 0 := rfl
      rw [String.intercalate_cons_cons, lineBreaks_append, lineBreaks_append, ih, comma, Nat.add_zero,
        List.map_cons (l := t :: ss), List.sum_cons]

theorem lineBreaks_commas_of_each {ss : List String} (each : ∀ s ∈ ss, lineBreaks s = 0) :
    lineBreaks (", ".intercalate ss) = 0 := by
  rw [lineBreaks_commas, List.sum_eq_zero_iff_forall_eq_nat, List.forall_mem_map]
  exact each

theorem lineBreaks_join_mapIdx {α : Type} {line : Nat → α → String} {breaks : α → Nat}
    (each : ∀ i a, lineBreaks (line i a) = breaks a) (as : List α) :
    lineBreaks (String.join (as.mapIdx line)) = (as.map breaks).sum := by
  induction as generalizing line with
  | nil => rfl
  | cons a as ih =>
    rw [List.mapIdx_cons, String.join_cons, lineBreaks_append, each, ih fun i => each (i + 1),
      List.map_cons, List.sum_cons]

theorem lineBreaks_ofList (cs : List Char) : lineBreaks (String.ofList cs) = cs.count '\n' := by
  rw [lineBreaks, String.toList_ofList]

theorem lineBreaks_ofList_of_not_mem {cs : List Char} (h : '\n' ∉ cs) :
    lineBreaks (String.ofList cs) = 0 := by
  rw [lineBreaks_ofList, List.count_eq_zero.mpr h]

theorem newline_not_mem_zeros (n : Nat) : '\n' ∉ List.replicate n '0' := by
  intro h
  cases List.eq_of_mem_replicate h

/-! ## numbers -/

theorem newline_not_mem_toDigits {base : Nat} (many : 1 < base) (n : Nat) :
    '\n' ∉ Nat.toDigits base n := by
  have digit (d : Nat) : '\n' ∉ [d.digitChar] := by
    rw [List.mem_singleton]
    exact (Nat.digitChar_ne '\n' (by decide)).symm
  induction n using Nat.strongRecOn with
  | ind n ih =>
    rw [Nat.toDigits_eq_if many]
    split
    · exact digit n
    · rename_i more
      have less : n / base < n := Nat.div_lt_self (by omega) many
      rw [List.mem_append, not_or]
      exact ⟨ih _ less, digit _⟩

theorem lineBreaks_nat (n : Nat) : lineBreaks (toString n) = 0 := by
  rw [Nat.toString_eq_ofList_toDigits]
  exact lineBreaks_ofList_of_not_mem (newline_not_mem_toDigits (by decide) n)

theorem lineBreaks_int (i : Int) : lineBreaks (toString i) = 0 := by
  cases i with
  | ofNat n => exact lineBreaks_nat n
  | negSucc n =>
    have sign : lineBreaks "-" = 0 := rfl
    show lineBreaks ("-" ++ toString (n + 1)) = 0
    rw [lineBreaks_append, sign, lineBreaks_nat]

theorem lineBreaks_bool (b : Bool) : lineBreaks (toString b) = 0 := by
  cases b <;> rfl

namespace Double

theorem lineBreaks_signText (negative : Bool) : lineBreaks (signText negative) = 0 := by
  cases negative <;> rfl

theorem lineBreaks_padded (width n : Nat) : lineBreaks (padded width n) = 0 := by
  have digits : '\n' ∉ Nat.toDigits 10 n := newline_not_mem_toDigits (by decide) n
  refine lineBreaks_ofList_of_not_mem ?_
  rw [List.mem_append, not_or]
  exact ⟨newline_not_mem_zeros _, digits⟩

theorem lineBreaks_placesText (places : Nat) (d : Double) : lineBreaks (d.placesText places) = 0 := by
  unfold placesText
  split
  · rfl
  · rename_i negative _
    cases negative <;> rfl
  · have point : lineBreaks "." = 0 := rfl
    simp only [lineBreaks_append, lineBreaks_signText, lineBreaks_nat, lineBreaks_padded, point]

end Double

/-- digits on one line are written on one line, wherever the point comes to stand -/
theorem lineBreaks_decimalText {ds : List Char} (digits : '\n' ∉ ds) (k : Int) :
    lineBreaks (decimalText ds k) = 0 := by
  have taken (n : Nat) := lineBreaks_ofList_of_not_mem fun h => digits (List.mem_of_mem_take (i := n) h)
  have dropped (n : Nat) := lineBreaks_ofList_of_not_mem fun h => digits (List.mem_of_mem_drop (i := n) h)
  have padded (n : Nat) := lineBreaks_ofList_of_not_mem fun h =>
    (List.mem_append.mp h).elim digits (newline_not_mem_zeros n)
  have led (n : Nat) := lineBreaks_ofList_of_not_mem fun h =>
    (List.mem_append.mp h).elim (newline_not_mem_zeros n) digits
  have labels : lineBreaks ".0" = 0 ∧ lineBreaks "." = 0 ∧ lineBreaks "0." = 0 ∧ lineBreaks "" = 0 ∧
      lineBreaks "e" = 0 ∧ lineBreaks "-" = 0 ∧ lineBreaks "+" = 0 := by decide
  unfold decimalText
  simp only
  split
  · rw [lineBreaks_append, padded, labels.1]
  · split
    · simp only [lineBreaks_append, taken, dropped, labels]
    · split
      · rw [lineBreaks_append, led, labels.2.2.1]
      · split <;> split <;>
          simp only [lineBreaks_append, taken, dropped, lineBreaks_nat, labels]

theorem newline_not_mem_shortestDigits (m : Nat) (q : Int) : '\n' ∉ (shortestDigits m q).1 := by
  unfold shortestDigits
  simp only
  split
  · exact List.not_mem_nil
  · rename_i n _ _
    intro h
    have kept := (List.dropWhile_sublist _).subset (List.mem_reverse.mp h)
    exact newline_not_mem_toDigits (by decide) n (List.mem_reverse.mp kept)

theorem Double.lineBreaks_shortestText (d : Double) : lineBreaks d.shortestText = 0 := by
  unfold shortestText
  split
  · rfl
  · split <;> rfl
  · rename_i negative m q _
    have sign : lineBreaks (if negative then "-" else "") = 0 := by cases negative <;> rfl
    have zero : lineBreaks "0.0" = 0 := rfl
    have number := lineBreaks_decimalText (newline_not_mem_shortestDigits m q) (shortestDigits m q).2
    simp only
    split
    · rw [lineBreaks_append, sign, zero]
    · rw [lineBreaks_append, sign, number]

/-! ## quoted text -/

theorem newline_not_mem_escapeChar (c : Char) : '\n' ∉ escapeChar c := by
  unfold escapeChar
  iterate 6
    split
    · decide
  split
  · have number : '\n' ∉ Nat.toDigits 16 c.toNat := newline_not_mem_toDigits (by decide) _
    simp only [List.mem_append, not_or]
    exact ⟨⟨by decide, number⟩, by decide⟩
  · -- a character that stands for itself is none that a letter stands for
    rename_i newline _ _ _
    exact fun h => newline (List.mem_singleton.mp h).symm

theorem lineBreaks_quoted (s : String) : lineBreaks (quoted s) = 0 := by
  have mark : lineBreaks "\"" = 0 := rfl
  have inside : '\n' ∉ escaped s.toList := by
    rw [escaped, List.mem_flatMap]
    rintro ⟨c, -, h⟩
    exact newline_not_mem_escapeChar c h
  rw [quoted, lineBreaks_append, lineBreaks_append, mark, lineBreaks_ofList_of_not_mem inside]

end MockCollector
