import WhereClause.Json.Record
import WhereClause.Literal.Basic

/-!
# Encoded Literals

Literals in JSON with their types.

The plain JSON value of a literal does not say whether a number was a signed
or an unsigned integer, or a text a timestamp. The encoded form does: every
literal is tagged with its type, as `Json.tagged` lays it out. Decoding takes
back whatever encoding gives, with one exception: a double that is not finite
has no number in JSON, so its encoding is refused.

A double may be given by a whole number. An integer may not be given by a
real one, even when that is whole.

## Main definitions

* `Literal.encode`: The encoded form of a literal.
* `Literal.decode?`: The literal of an encoded form.
-/

namespace WhereClause

namespace Literal

mutual

/-- The encoded form of a literal. -/
def encode : Literal → Json
  | .int n => .tagged "Int" (.number (.ofInt64 n))
  | .uint n => .tagged "Uint" (.number (.ofUInt64 n))
  | .float x => .tagged "Float" (((Json.Number.ofFloat? x).map Json.number).getD .null)
  | .bool b => .tagged "Boolean" (.bool b)
  | .text s => .tagged "Text" (.text s)
  | .timestamp t => .tagged "Timestamp" (.text t.encoded)
  | .list items => .tagged "List" (.array (encodeItems items))
  | .null => .text "Null"

/-- The encoded forms of the items of a list. -/
def encodeItems : List Literal → List Json
  | [] => []
  | item :: rest => item.encode :: encodeItems rest

end

/-- The literal of tagged contents that are not a list. -/
def decodeScalar? (tag : String) (contents : Json) : Option Literal :=
  match tag with
  | "Int" => contents.int64?.map .int
  | "Uint" => contents.uint64?.map .uint
  | "Float" => contents.double?.map .float
  | "Boolean" => contents.bool?.map .bool
  | "Text" => contents.text?.map .text
  | "Timestamp" => (contents.text?.bind Timestamp.decode?).map .timestamp
  | "Null" => if Json.isUnit (some contents) then some .null else none
  | _ => none

mutual

/-- The literal of an encoded form. -/
def decode? : Json → Option Literal
  | .text tag => if tag = "Null" then some .null else none
  | .object [(tag, contents)] =>
      if tag = "List" then
        match contents with
        | .array items => (decodeItems? items).map .list
        | _ => none
      else decodeScalar? tag contents
  | _ => none

/-- The literals of several encoded forms. -/
def decodeItems? : List Json → Option (List Literal)
  | [] => some []
  | item :: rest =>
      match decode? item, decodeItems? rest with
      | some item, some rest => some (item :: rest)
      | _, _ => none

end

end Literal

end WhereClause
