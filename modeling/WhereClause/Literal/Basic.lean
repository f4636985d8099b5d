import WhereClause.Json.Basic
import WhereClause.Timestamp.Text

/-!
# Literals

What a column can be compared with.

Literals are a closed set: integers of both 64-bit types, doubles, truth
values, texts, timestamps, lists of literals, and null. Everything in a
filter document that is none of these, which leaves only objects, stands for
null.

Literals and JSON values convert into each other, and what gets lost is small
in both directions. JSON has one kind of whole number, so an unsigned integer
that a signed one could hold as well comes back as the signed one. A
timestamp becomes its text, and a double that is not finite becomes null.

## Main definitions

* `Literal`: The literals.
* `Literal.ofJson`: The literal of a JSON value.
* `Literal.toJson`: The plain JSON value of a literal.
-/

namespace WhereClause

/-- A value that a column can be compared with. -/
inductive Literal where
  | int (n : Int64)
  | uint (n : UInt64)
  | float (x : Float)
  | bool (b : Bool)
  | text (s : String)
  | timestamp (t : Timestamp)
  | list (items : List Literal)
  | null
deriving Repr

namespace Literal

/-- The literal of a JSON number: a signed integer if one holds it, an
    unsigned one if not, and a double for real numbers. -/
def ofNumber : Json.Number → Literal
  | .whole n _ =>
      if n < 0x8000000000000000 then .int (Int64.ofInt n) else .uint (UInt64.ofNat n.toNat)
  | .real x _ => .float x

mutual

/-- The literal of a JSON value. Objects have none and become null. -/
def ofJson : Json → Literal
  | .null => .null
  | .bool b => .bool b
  | .number n => ofNumber n
  | .text s => .text s
  | .array items => .list (ofItems items)
  | .object _ => .null

/-- The literals of the items of an array. -/
def ofItems : List Json → List Literal
  | [] => []
  | item :: rest => ofJson item :: ofItems rest

end

mutual

/-- The plain JSON value of a literal. -/
def toJson : Literal → Json
  | .int n => .number (.ofInt64 n)
  | .uint n => .number (.ofUInt64 n)
  | .float x => ((Json.Number.ofFloat? x).map Json.number).getD .null
  | .bool b => .bool b
  | .text s => .text s
  | .timestamp t => .text t.display
  | .list items => .array (toItems items)
  | .null => .null

/-- The plain JSON values of the items of a list. -/
def toItems : List Literal → List Json
  | [] => []
  | item :: rest => item.toJson :: toItems rest

end

theorem ofItems_eq_map (items : List Json) : ofItems items = items.map ofJson := by
  induction items with
  | nil => rfl
  | cons item rest ih => rw [ofItems, ih, List.map_cons]

theorem toItems_eq_map (items : List Literal) : toItems items = items.map toJson := by
  induction items with
  | nil => rfl
  | cons item rest ih => rw [toItems, ih, List.map_cons]

/-- Whether a literal is a list. -/
def isList : Literal → Bool
  | .list _ => true
  | _ => false

end Literal

end WhereClause
