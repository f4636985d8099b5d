import WhereClause.Filter.Operator
import WhereClause.Literal.Basic

/-!
# Filters

Conditions on the columns of a row, as trees.

The leaves compare a column with a literal, ask whether it is null, or match
it against a pattern. There are two kinds of inner nodes. A `logical` node
was asked for by a connective, with any number of children. A `group` is the
conjunction of conditions that merely stood side by side. Both are written in
parentheses, so the difference matters only where a single condition stands
alone: `ofConditions` makes no group of it.

Nothing here says that a tree came from a document. A set operator may have
an operand that is no list, and an inner node may have no children.

## Main definitions

* `Filter`: The trees.
* `Filter.ofConditions`: The conjunction of conditions side by side.
* `Filter.mentions`: The columns of the leaves, from left to right.
* `Filter.columns`: The columns in increasing order, each of them once.

## Theorems

* `mem_insertColumn`: Inserting a column adds that column and no other.
* `pairwise_insertColumn`: Inserting keeps columns strictly increasing.
-/

namespace WhereClause

/-- A condition on the columns of a row. -/
inductive Filter where
  /-- The column compares with a literal, or with a list for a set
      operator. -/
  | compare (column : String) (op : Comparison) (operand : Literal)
  | isNull (column : String)
  /-- The column matches a pattern, with or without regard to case. -/
  | regex (column pattern : String) (ignoreCase : Bool)
  /-- Filters combined by a connective. -/
  | logical (op : Connective) (children : List Filter)
  /-- Conditions that stood side by side, all of which have to hold. -/
  | group (children : List Filter)
deriving Repr

namespace Filter

/-- The conjunction of conditions that stand side by side. A single one
    stands on its own. -/
def ofConditions : List Filter → Filter
  | [condition] => condition
  | conditions => .group conditions

mutual

/-- The columns of the leaves, from left to right. -/
def mentions : Filter → List String
  | .compare column _ _ => [column]
  | .isNull column => [column]
  | .regex column _ _ => [column]
  | .logical _ children => mentionsAll children
  | .group children => mentionsAll children

/-- The columns of the leaves of several filters. -/
def mentionsAll : List Filter → List String
  | [] => []
  | child :: rest => child.mentions ++ mentionsAll rest

end

theorem mentionsAll_eq_flatMap (children : List Filter) :
    mentionsAll children = children.flatMap mentions := by
  induction children with
  | nil => rfl
  | cons child rest ih => rw [mentionsAll, ih, List.flatMap_cons]

/-- A column inserted into a strictly increasing list, unless it is there. -/
def insertColumn (column : String) : List String → List String
  | [] => [column]
  | first :: rest =>
      if column < first then column :: first :: rest
      else if column = first then first :: rest
      else first :: insertColumn column rest

/-- The columns of a filter in increasing order, each of them once. The order
    is that of code points, which is also that of the bytes of UTF-8. -/
def columns (filter : Filter) : List String :=
  filter.mentions.foldr insertColumn []

theorem mem_insertColumn (column : String) (columns : List String) (name : String) :
    name ∈ insertColumn column columns ↔ name = column ∨ name ∈ columns := by
  induction columns with
  | nil => simp only [insertColumn, List.mem_singleton, List.not_mem_nil, or_false]
  | cons first rest ih =>
      rw [insertColumn]
      split
      · simp only [List.mem_cons]
      · split
        · rename_i heq
          subst heq
          simp only [List.mem_cons, or_self_left]
        · simp only [List.mem_cons, ih]
          exact or_left_comm

theorem pairwise_insertColumn (column : String) (columns : List String)
    (h : columns.Pairwise (· < ·)) : (insertColumn column columns).Pairwise (· < ·) := by
  induction columns with
  | nil => exact List.pairwise_singleton _ _
  | cons first rest ih =>
      have hrest := List.pairwise_cons.1 h
      rw [insertColumn]
      split
      · rename_i hlt
        refine List.pairwise_cons.2 ⟨fun name hname => ?_, h⟩
        rcases List.mem_cons.1 hname with rfl | hmem
        · exact hlt
        · exact String.lt_trans hlt (hrest.1 name hmem)
      · split
        · exact h
        · rename_i hlt hne
          refine List.pairwise_cons.2 ⟨fun name hname => ?_, ih hrest.2⟩
          rcases (mem_insertColumn column rest name).1 hname with rfl | hmem
          -- The inserted column is neither below the first one nor equal to it.
          · exact String.not_le.1 fun hle => hne (String.le_antisymm hle (String.not_lt.1 hlt))
          · exact hrest.1 name hmem

end Filter

end WhereClause
