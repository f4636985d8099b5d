import WhereClause.Literal.Basic
import WhereClause.Text.Quoted

/-!
# Shown Literals

The text of a literal for a person: numbers in plain notation, texts in
double quotes with whatever cannot be seen written as an escape, and lists
between brackets.

No statement is made of this text; for that see `Sql.Dialect`.

## Main definitions

* `Literal.display`: The text of a literal for a person.
-/

namespace WhereClause

namespace Literal

mutual

/-- The text of a literal for a person. -/
def display : Literal → String
  | .int n => String.ofList (Decimal.ofInt n.toInt)
  | .uint n => String.ofList (Decimal.ofNat n.toNat)
  | .float x => String.ofList (Decimal.plainText x)
  | .bool b => if b then "true" else "false"
  | .text s => Text.quote s
  | .timestamp t => t.display
  | .list items => "[" ++ ", ".intercalate (displayItems items) ++ "]"
  | .null => "null"

/-- The texts of the items of a list. -/
def displayItems : List Literal → List String
  | [] => []
  | item :: rest => item.display :: displayItems rest

end

end Literal

end WhereClause
