import WhereClause.Json.Basic

/-!
# Tags and Records

How values of fixed shapes are laid out in JSON.

A value with several shapes is written with the name of its shape: as an
object with that name as its only key and the contents as its value, or as
the name alone when there are no contents. Contents with named parts are an
object with these parts as entries. They may also be given as an array, in
the order of the names.

Decoding asks for every part exactly once and does not care about other
entries of an object. In an array there is no room for anything else.

## Main definitions

* `tagged`: Contents with the name of a shape.
* `variant?`: The name of a shape and the contents.
* `isUnit`: Whether the contents are those of a shape without any.
* `only?`: The value of a key that occurs exactly once.
* `record?`: The parts with given names, in the order of the names.
* `int64?`, `uint64?`, `double?`, `bool?`, `text?`: Contents without parts.
-/

namespace WhereClause

namespace Json

/-- Contents with the name of a shape. -/
def tagged (tag : String) (contents : Json) : Json :=
  .object [(tag, contents)]

/-- The name of a shape, with the contents if there are any. -/
def variant? : Json → Option (String × Option Json)
  | .text tag => some (tag, none)
  | .object [(tag, contents)] => some (tag, some contents)
  | _ => none

/-- Whether the contents are those of a shape without any: left out, or
    null. -/
def isUnit : Option Json → Bool
  | none => true
  | some .null => true
  | some _ => false

/-- The value of a key that occurs exactly once. -/
def only? (key : String) : List (String × Json) → Option Json
  | [] => none
  | (k, value) :: rest =>
      if k = key then if rest.any (·.1 = key) then none else some value
      else only? key rest

/-- The parts with the given names, in the order of the names. -/
def record? (names : List String) : Json → Option (List Json)
  | .object entries => names.mapM fun name => only? name entries
  | .array items => if items.length = names.length then some items else none
  | _ => none

/-- A whole number that a signed 64-bit word holds. -/
def int64? : Json → Option Int64
  | .number (.whole n _) => if n < 0x8000000000000000 then some (Int64.ofInt n) else none
  | _ => none

/-- A whole number that an unsigned 64-bit word holds. -/
def uint64? : Json → Option UInt64
  | .number (.whole n _) => if 0 ≤ n then some (UInt64.ofNat n.toNat) else none
  | _ => none

/-- A number as a double. -/
def double? : Json → Option Float
  | .number n => some n.toFloat
  | _ => none

/-- A truth value. -/
def bool? : Json → Option Bool
  | .bool b => some b
  | _ => none

/-- A text. -/
def text? : Json → Option String
  | .text s => some s
  | _ => none

end Json

end WhereClause
