import WhereClause.Filter.Basic

/-!
# Fragments

The parts a condition is written from, before any of them has a spelling.

A filter becomes a list of fragments: fixed words and punctuation, the names
of columns, and operands. This step walks the filter and knows nothing of
dialects, nor whether operands are written into the statement or passed
apart. The other step, `Sql.Clause`, spells the fragments one after another
and knows nothing of filters. Two ways of writing the same filter can
therefore only differ in how single fragments are spelled.

A list is no operand itself. Its items are, however deeply they are nested,
with commas between them.

## Main definitions

* `Fragment`: The parts of a condition.
* `joined`, `parenthesized`: Parts with a separator between them, and with
  parentheses around that.
* `Literal.fragments`: The operands of a literal.
* `Filter.fragments`: The parts of a filter.
-/

namespace WhereClause

namespace Sql

/-- A part of a condition. -/
inductive Fragment where
  /-- Words and punctuation that are written as they are. -/
  | text (s : String)
  /-- The name of a column. -/
  | name (column : String)
  /-- A literal that is written into the statement or passed apart. -/
  | operand (value : Literal)
  /-- A literal that is passed apart in any case. -/
  | bound (value : Literal)
deriving Repr

/-- Several parts with a separator between them. -/
def joined (separator : String) (parts : List (List Fragment)) : List Fragment :=
  (parts.intersperse [.text separator]).flatten

/-- Several parts with a separator between them, in parentheses. -/
def parenthesized (separator : String) (parts : List (List Fragment)) : List Fragment :=
  .text "(" :: joined separator parts ++ [.text ")"]

end Sql

open Sql

namespace Literal

mutual

/-- The operands of a literal. -/
def fragments : Literal → List Fragment
  | .list items => joined ", " (itemFragments items)
  | .int n => [.operand (.int n)]
  | .uint n => [.operand (.uint n)]
  | .float x => [.operand (.float x)]
  | .bool b => [.operand (.bool b)]
  | .text s => [.operand (.text s)]
  | .timestamp t => [.operand (.timestamp t)]
  | .null => [.operand .null]

/-- The operands of each item of a list. -/
def itemFragments : List Literal → List (List Fragment)
  | [] => []
  | item :: rest => item.fragments :: itemFragments rest

end

theorem itemFragments_eq_map (items : List Literal) :
    itemFragments items = items.map fragments := by
  induction items with
  | nil => rfl
  | cons item rest ih => rw [itemFragments, ih, List.map_cons]

/-- A literal that is no list is its own operand. -/
theorem fragments_of_not_list (value : Literal) (h : value.isList = false) :
    value.fragments = [.operand value] := by
  cases value with
  | list _ => exact Bool.noConfusion h
  | _ => rfl

end Literal

namespace Filter

/-- The parts of a column compared with a literal. Set operators have their
    operand in parentheses. -/
def compareFragments (column : String) (op : Comparison) (operand : Literal) : List Fragment :=
  [.name column, .text (" " ++ op.sql ++ " ")] ++
    if op.isSet then parenthesized "" [operand.fragments] else operand.fragments

/-- The separator between the children of a connective. -/
def separator (op : Connective) : String :=
  " " ++ op.sql ++ " "

mutual

/-- The parts of a filter. -/
def fragments : Filter → List Fragment
  | .compare column op operand => compareFragments column op operand
  | .isNull column => [.name column, .text " IS NULL"]
  | .regex column pattern ignoreCase =>
      -- The plain operator follows the collation, which seldom regards case.
      [.name column, .text (if ignoreCase then " REGEXP " else " REGEXP BINARY "),
        .operand (.text pattern)]
  | .logical op children => parenthesized (separator op) (childFragments children)
  | .group children => parenthesized (separator .and) (childFragments children)

/-- The parts of each of several filters. -/
def childFragments : List Filter → List (List Fragment)
  | [] => []
  | child :: rest => child.fragments :: childFragments rest

end

theorem childFragments_eq_map (children : List Filter) :
    childFragments children = children.map fragments := by
  induction children with
  | nil => rfl
  | cons child rest ih => rw [childFragments, ih, List.map_cons]

end Filter

end WhereClause
