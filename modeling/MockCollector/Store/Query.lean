import MockCollector.Store.Summary
/-!
# Queries

A query asks which items of a list, reports or spans, meet some criteria, and whether there are as many as
there should be.

* `Query`              the items, the criteria as a test and as text, and how items are listed;
* `Query.found`        the items that meet the criteria, in order;
* `Check`              what the number of them should be;
* `Query.failure? q c` the message if it is not so.
-/

namespace MockCollector

structure Query (α : Type) where
  plural : String
  items : List α
  isMatch : α → Bool
  criteria : String
  /-- the line of an item that meets the criteria -/
  matchLine : α → String
  /-- the line of an item where none meets them -/
  itemLine : α → String

inductive Check where
  | exists
  | notExists
  | countIs (n : Nat)
  | atLeast (n : Nat)
  | atMost (n : Nat)
  deriving DecidableEq, Repr

namespace Query

variable {α : Type}

def found (q : Query α) : List α := q.items.filter q.isMatch

def count (q : Query α) : Nat := q.items.countP q.isMatch

def holds (q : Query α) : Check → Bool
  | .exists => q.items.any q.isMatch
  | .notExists => !q.items.any q.isMatch
  | .countIs n => q.count == n
  | .atLeast n => n ≤ q.count
  | .atMost n => q.count ≤ n

/-! ## messages -/

/-- numbered lines -/
def lines (line : α → String) (items : List α) : String :=
  String.join (items.mapIdx fun i a => "  [" ++ toString i ++ "] " ++ line a ++ "\n")

/-- how many items a message shows where none meets the criteria -/
def shownItems : Nat := 10

def foundText (q : Query α) : String :=
  if q.found.isEmpty then "" else "Matching " ++ q.plural ++ ":\n" ++ lines q.matchLine q.found

/-- `reports` is the plural of `report` -/
def itemsText (q : Query α) : String :=
  "Found " ++ toString q.items.length ++ " " ++ String.ofList q.plural.toList.dropLast
    ++ "(s) in store"
    ++ (if q.items.isEmpty then "" else
      ":\n" ++ lines q.itemLine (q.items.take shownItems)
        ++ (if shownItems < q.items.length then
          "  ... and " ++ toString (q.items.length - shownItems) ++ " more\n" else ""))

def message (q : Query α) : Check → String
  | .exists =>
    "No " ++ q.plural ++ " matched the assertion.\n\nExpected:\n  " ++ q.criteria ++ "\n\n" ++ q.itemsText
  | .notExists =>
    "Expected no " ++ q.plural ++ " to match, but found " ++ toString q.count
      ++ " matching.\nCriteria: " ++ q.criteria
  | .countIs n =>
    "Expected " ++ toString n ++ " matching " ++ q.plural ++ ", but found " ++ toString q.count
      ++ ".\nCriteria: " ++ q.criteria ++ "\n\n" ++ q.foundText
  | .atLeast n =>
    "Expected at least " ++ toString n ++ " matching " ++ q.plural ++ ", but found "
      ++ toString q.count ++ ".\nCriteria: " ++ q.criteria
  | .atMost n =>
    "Expected at most " ++ toString n ++ " matching " ++ q.plural ++ ", but found "
      ++ toString q.count ++ ".\nCriteria: " ++ q.criteria

def failure? (q : Query α) (c : Check) : Option String :=
  if q.holds c then none else some (q.message c)

/-! ## counting -/

theorem count_eq_length_found (q : Query α) : q.count = q.found.length :=
  List.countP_eq_length_filter

theorem failure?_eq_none_iff (q : Query α) (c : Check) : q.failure? c = none ↔ q.holds c = true := by
  unfold failure?
  split <;> simp_all

end Query

end MockCollector
