import WhereClause.Sql.Clause

/-!
# Calls

What a caller can ask of a clause that is being written.

A whole filter is one of the things that can be written, and the parts that
filters are made of are the others. A caller who has conditions of another
shape writes them part by part, between filters or inside of a group, to a
clause that may already have a text and values. So a clause is what a
sequence of calls makes of another clause.

A group does not care what its items are. Each of them is a sequence of calls
again, and a filter is the case of a single one.

## Main definitions

* `Call`: What can be asked.
* `Call.fragments`: What one call writes.
* `Clause.perform`: The clause after several calls.

## Theorems

* `runFragments_eq_flatMap`, `groupFragments_eq_map`: Calls write one after
  another.
* `perform_eq_appendAll`: Several calls write what their fragments are, in one
  go.
-/

namespace WhereClause

namespace Sql

/-- What can be asked of a clause. -/
inductive Call where
  /-- The name of a column. -/
  | name (column : String)
  /-- A literal, or the items of one that is a list. -/
  | value (operand : Literal)
  /-- Several literals with commas between them. -/
  | values (operands : List Literal)
  /-- A literal that is passed apart in any case, and as a whole. -/
  | bound (operand : Literal)
  /-- Items with a separator between them, in parentheses. -/
  | grouped (separator : String) (items : List (List Call))
  /-- A filter. -/
  | filter (condition : Filter)

namespace Call

mutual

/-- What a call writes. -/
def fragments : Call → List Fragment
  | .name column => [.name column]
  | .value operand => operand.fragments
  | .values operands => joined ", " (Literal.itemFragments operands)
  | .bound operand => [.bound operand]
  | .grouped separator items => parenthesized separator (groupFragments items)
  | .filter condition => condition.fragments

/-- What calls write one after another. -/
def runFragments : List Call → List Fragment
  | [] => []
  | call :: rest => call.fragments ++ runFragments rest

/-- What each item of a group writes. -/
def groupFragments : List (List Call) → List (List Fragment)
  | [] => []
  | item :: rest => runFragments item :: groupFragments rest

end

theorem runFragments_eq_flatMap (calls : List Call) :
    runFragments calls = calls.flatMap fragments := by
  induction calls with
  | nil => rfl
  | cons call rest ih => rw [runFragments, ih, List.flatMap_cons]

theorem groupFragments_eq_map (items : List (List Call)) :
    groupFragments items = items.map runFragments := by
  induction items with
  | nil => rfl
  | cons item rest ih => rw [groupFragments, ih, List.map_cons]

end Call

namespace Clause

/-- The clause after several calls. -/
def perform (dialect : Dialect) (mode : Mode) (clause : Clause) (calls : List Call) : Clause :=
  calls.foldl (fun clause call => clause.appendAll dialect mode call.fragments) clause

/-- Several calls write what their fragments are, in one go. -/
theorem perform_eq_appendAll (dialect : Dialect) (mode : Mode) (clause : Clause)
    (calls : List Call) :
    clause.perform dialect mode calls =
      clause.appendAll dialect mode (calls.flatMap Call.fragments) := by
  induction calls generalizing clause with
  | nil => rfl
  | cons call rest ih => rw [perform, List.foldl_cons, ← perform, ih, List.flatMap_cons,
      appendAll_append]

end Clause

end Sql

end WhereClause
