/-!
# Operators

The operators of filters and how they are spelled.

Comparisons relate a column to a literal, or for the two set operators to a
list of literals. Connectives combine filters. Each operator has three
spellings: the keyword in a filter document, the name in an encoded filter
tree, and the words of a statement.

## Main definitions

* `Comparison`, `Connective`: The operators.
* `keyword`, `tag`, `sql`: The three spellings of each.
* `Comparison.isSet`: Whether the operand is a list.
-/

namespace WhereClause

/-- How a column is compared with a literal. -/
inductive Comparison where
  | eq
  | gt
  | gte
  | lt
  | lte
  | ne
  /-- The column has one of several values. -/
  | oneOf
  /-- The column has none of several values. -/
  | noneOf
deriving DecidableEq, Repr

namespace Comparison

/-- All comparisons. -/
def all : List Comparison :=
  [.eq, .gt, .gte, .lt, .lte, .ne, .oneOf, .noneOf]

/-- The keyword in a filter document. -/
def keyword : Comparison → String
  | .eq => "$eq"
  | .gt => "$gt"
  | .gte => "$gte"
  | .lt => "$lt"
  | .lte => "$lte"
  | .ne => "$ne"
  | .oneOf => "$in"
  | .noneOf => "$nin"

/-- The name in an encoded filter. -/
def tag : Comparison → String
  | .eq => "Eq"
  | .gt => "Gt"
  | .gte => "Gte"
  | .lt => "Lt"
  | .lte => "Lte"
  | .ne => "Ne"
  | .oneOf => "In"
  | .noneOf => "Nin"

/-- The operator in a statement. -/
def sql : Comparison → String
  | .eq => "="
  | .gt => ">"
  | .gte => ">="
  | .lt => "<"
  | .lte => "<="
  | .ne => "!="
  | .oneOf => "IN"
  | .noneOf => "NOT IN"

/-- Whether the column is compared with a list of literals. -/
def isSet : Comparison → Bool
  | .oneOf | .noneOf => true
  | _ => false

/-- The comparison with a name. -/
def ofTag? (tag : String) : Option Comparison :=
  all.find? fun op => op.tag = tag

theorem ofTag?_tag (op : Comparison) : ofTag? op.tag = some op := by
  cases op <;> decide

end Comparison

/-- How filters are combined. -/
inductive Connective where
  | and
  | or
deriving DecidableEq, Repr

namespace Connective

/-- All connectives. -/
def all : List Connective :=
  [.and, .or]

/-- The keyword in a filter document. -/
def keyword : Connective → String
  | .and => "$and"
  | .or => "$or"

/-- The name in an encoded filter. -/
def tag : Connective → String
  | .and => "And"
  | .or => "Or"

/-- The operator in a statement. -/
def sql : Connective → String
  | .and => "AND"
  | .or => "OR"

/-- The connective with a name. -/
def ofTag? (tag : String) : Option Connective :=
  all.find? fun op => op.tag = tag

theorem ofTag?_tag (op : Connective) : ofTag? op.tag = some op := by
  cases op <;> decide

end Connective

end WhereClause
