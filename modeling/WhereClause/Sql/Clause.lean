import WhereClause.Sql.Dialect
import WhereClause.Sql.Fragment

/-!
# Clauses

Conditions as text, with the values that are passed apart.

A clause is written by appending one fragment after another. What a fragment
appends depends on the dialect, on whether operands are written into the
text, and on nothing else of the clause so far but the number of values it
already has: a value that is passed apart leaves a placeholder in the text,
and the placeholder is told the position of the value.

## Main definitions

* `Mode`: What becomes of operands.
* `Clause`: A text and the values that go with it.
* `Clause.append`, `Clause.appendAll`: Writing fragments.
* `Filter.toSql`, `Filter.toParameterized`: A filter as text alone, and with
  all its literals apart.
* `whereClause`: A filter to append to a statement.

## Theorems

* `appendAll_append`: Fragments can be written in two goes.
-/

namespace WhereClause

namespace Sql

/-- What becomes of operands. -/
inductive Mode where
  /-- They are written into the text. -/
  | inline
  /-- They are passed apart. -/
  | parameterized
deriving DecidableEq, Repr

/-- A condition as text, with the values for its placeholders in order. -/
structure Clause where
  text : String := ""
  values : Array Literal := #[]
deriving Repr

namespace Clause

/-- The clause with a text behind it. -/
def write (clause : Clause) (text : String) : Clause :=
  { clause with text := clause.text ++ text }

/-- The clause with a placeholder behind it and a value for that. -/
def bind (dialect : Dialect) (clause : Clause) (value : Literal) : Clause where
  text := clause.text ++ dialect.placeholder clause.values.size
  values := clause.values.push value

/-- The clause with a fragment behind it. -/
def append (dialect : Dialect) (mode : Mode) (clause : Clause) : Fragment → Clause
  | .text s => clause.write s
  | .name column => clause.write (dialect.quoteName column)
  | .operand value =>
      match mode with
      | .inline => clause.write (dialect.literal value)
      | .parameterized => clause.bind dialect value
  | .bound value => clause.bind dialect value

/-- The clause with several fragments behind it. -/
def appendAll (dialect : Dialect) (mode : Mode) (clause : Clause) (fragments : List Fragment) :
    Clause :=
  fragments.foldl (append dialect mode) clause

theorem appendAll_append (dialect : Dialect) (mode : Mode) (clause : Clause)
    (first second : List Fragment) :
    clause.appendAll dialect mode (first ++ second) =
      (clause.appendAll dialect mode first).appendAll dialect mode second :=
  List.foldl_append

end Clause

end Sql

open Sql

namespace Filter

/-- The filter as a clause. -/
def toClause (dialect : Dialect) (mode : Mode) (filter : Filter) : Clause :=
  ({} : Clause).appendAll dialect mode filter.fragments

/-- The filter as text, with its literals written into it. -/
def toSql (dialect : Dialect) (filter : Filter) : String :=
  (filter.toClause dialect .inline).text

/-- The filter as text with placeholders, and its literals. -/
def toParameterized (dialect : Dialect) (filter : Filter) : Clause :=
  filter.toClause dialect .parameterized

end Filter

/-- A filter to append to a statement, and nothing if there is none. -/
def whereClause (dialect : Dialect) : Option Filter → String
  | none => ""
  | some filter => " WHERE " ++ filter.toSql dialect

end WhereClause
