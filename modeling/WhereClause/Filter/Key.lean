import WhereClause.Filter.Fault

/-!
# Keys of Filter Documents

What a key of a filter document means.

A key that begins with a dollar sign is an operator, and every other key is
the name of a column. The operators are a closed set. A key that begins like
an operator without being one is a fault and never a column, so a misspelled
operator cannot turn into a condition on a column of that name.

## Main definitions

* `Key`: The meanings of keys.
* `Key.keyword`: The key of an operator.
* `Key.classify`: The meaning of a key.

## Theorems

* `classify_of_not_sigil`: Keys without the dollar sign are columns.
* `classify_keyword`: Every operator is what its keyword means.
-/

namespace WhereClause

/-- What a key of a filter document means. -/
inductive Key where
  /-- The name of a column. -/
  | field (name : String)
  | comparison (op : Comparison)
  | logical (op : Connective)
  /-- A pattern that the column has to match. -/
  | regex
  /-- Flags for the pattern that stands beside them. -/
  | options
deriving DecidableEq, Repr

namespace Key

/-- The character that operators begin with. -/
def sigil : Char := '$'

/-- All operators. -/
def operators : List Key :=
  Comparison.all.map .comparison ++ Connective.all.map .logical ++ [.regex, .options]

/-- The key that has a meaning. -/
def keyword : Key → String
  | .field name => name
  | .comparison op => op.keyword
  | .logical op => op.keyword
  | .regex => "$regex"
  | .options => "$options"

/-- Whether a key begins like an operator. -/
def hasSigil (raw : String) : Bool :=
  raw.toList.head? = some sigil

/-- The meaning of a key. -/
def classify (raw : String) : Except Fault Key :=
  if hasSigil raw then
    match operators.find? fun key => key.keyword = raw with
    | some key => .ok key
    | none => .error (.unsupported raw)
  else .ok (.field raw)

theorem classify_of_not_sigil (raw : String) (h : hasSigil raw = false) :
    classify raw = .ok (.field raw) := by
  simp only [classify, h, Bool.false_eq_true, if_false]

theorem classify_keyword (key : Key) (h : key ∈ operators) : classify key.keyword = .ok key := by
  have hall : ∀ key ∈ operators, hasSigil key.keyword = true ∧
      operators.find? (fun other => other.keyword = key.keyword) = some key := by decide
  simp only [classify, (hall key h).1, if_true, (hall key h).2]

end Key

end WhereClause
