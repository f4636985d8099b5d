import WhereClause.Filter.Operator
import WhereClause.Filter.Route
import WhereClause.Json.Printer

/-!
# Faults in Filter Documents

Why a document is no filter.

There are three kinds of faults: an operator that does not exist, a value in
the wrong place or of the wrong shape, and more nesting than was allowed. The
second kind comes with the route to the value and the reason.

## Main definitions

* `Fault.Reason`: What is wrong with a value.
* `Fault`: What is wrong with a document.
* `Fault.message`: The text of a fault.
-/

namespace WhereClause

/-- What is wrong with a value in a filter document. -/
inductive Fault.Reason where
  /-- The document itself is no object. -/
  | rootNotObject (found : Json.Kind)
  /-- An object has no keys. -/
  | emptyObject
  /-- There are flags without a pattern. -/
  | flagsAlone
  /-- An operator that needs a column stands where there is none. -/
  | outsideField (key : String)
  /-- The operand of a set operator is no array. -/
  | setNotArray (op : Comparison) (found : Json.Kind)
  /-- The operand of a set operator is empty. -/
  | setEmpty (op : Comparison)
  /-- The operand of a set operator has an array in it. -/
  | setNested (op : Comparison)
  /-- The operand of another comparison is an array. -/
  | operandArray (op : Comparison)
  /-- A pattern is no text. -/
  | patternNotText (found : Json.Kind)
  /-- The flags of a pattern are not those that exist. -/
  | unknownFlags (flags : Json)
  /-- The operand of a connective is no array. -/
  | logicalNotArray (op : Connective) (found : Json.Kind)
  /-- The operand of a connective is empty. -/
  | logicalEmpty (op : Connective)
  /-- An item of a connective's operand is no object. -/
  | itemNotObject (found : Json.Kind)
  /-- A column is given an array. -/
  | fieldArray
deriving Repr

/-- What is wrong with a filter document. -/
inductive Fault where
  /-- A key looks like an operator and is none. -/
  | unsupported (key : String)
  /-- A value does not fit where it stands. -/
  | malformed (route : Route) (reason : Fault.Reason)
  /-- Objects are nested more deeply than the limit. -/
  | tooDeep (limit : Nat)
deriving Repr

namespace Fault

/-- The text of a reason. -/
def Reason.message : Reason → String
  | .rootNotObject found => "filter must be an object, found " ++ found.name
  | .emptyObject => "empty filter object"
  | .flagsAlone => "$options is only valid alongside $regex"
  | .outsideField key => key ++ " must be nested under a field"
  | .setNotArray op found => op.keyword ++ " expects an array, found " ++ found.name
  | .setEmpty op => op.keyword ++ " needs at least one value"
  | .setNested op => op.keyword ++ " values must be scalars, found array"
  | .operandArray op => op.keyword ++ " expects a single value, found array"
  | .patternNotText found => "$regex expects a string pattern, found " ++ found.name
  | .unknownFlags flags =>
      "unsupported $options " ++ flags.toText ++ ", only \"i\" is recognized"
  | .logicalNotArray op found =>
      op.keyword ++ " expects an array of filters, found " ++ found.name
  | .logicalEmpty op => op.keyword ++ " needs at least one filter"
  | .itemNotObject found => "expected a filter object, found " ++ found.name
  | .fieldArray => "a field cannot be compared to an array directly, use $in"

/-- The text of a fault. -/
def message : Fault → String
  | .unsupported key => "Unsupported operator: " ++ key
  | .malformed route reason => "Malformed filter at `" ++ route.text ++ "`: " ++ reason.message
  | .tooDeep limit => "Filter nesting exceeds the maximum depth of " ++ toString limit

end Fault

end WhereClause
