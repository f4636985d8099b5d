import WhereClause.Filter.Basic
import WhereClause.Json.Selective
import WhereClause.Literal.Codec

/-!
# Encoded Filters

Filters in JSON, for storing them and for looking at them.

A filter is tagged with the kind of its node, and its parts are a record, as
`Json.Record` lays them out. The literals in it are encoded with their types,
so nothing about a filter is lost. Encoding always writes a record as an
object with its parts in order; decoding also takes the other layouts of a
record. Entries of a record that are no part of it are skipped, so a stored
filter may have more in it than the filter.

## Main definitions

* `Comparison.decode?`, `Connective.decode?`: The operator of a tag.
* `Filter.encode`: The encoded form of a filter.
* `Filter.decode?`: The filter of an encoded form.
* `Filter.decodeText?`: The filter of the text of one.
-/

namespace WhereClause

/-- The encoded form of a comparison. -/
def Comparison.encode (op : Comparison) : Json :=
  .text op.tag

/-- The comparison of an encoded form. -/
def Comparison.decode? (encoded : Json) : Option Comparison :=
  match Json.variant? encoded with
  | some (tag, contents) => if Json.isUnit contents then ofTag? tag else none
  | none => none

/-- The encoded form of a connective. -/
def Connective.encode (op : Connective) : Json :=
  .text op.tag

/-- The connective of an encoded form. -/
def Connective.decode? (encoded : Json) : Option Connective :=
  match Json.variant? encoded with
  | some (tag, contents) => if Json.isUnit contents then ofTag? tag else none
  | none => none

namespace Filter

mutual

/-- The encoded form of a filter. -/
def encode : Filter → Json
  | .compare column op operand =>
      .tagged "Comparison"
        (.object [("field", .text column), ("op", op.encode), ("value", operand.encode)])
  | .isNull column => .tagged "IsNull" (.object [("field", .text column)])
  | .regex column pattern ignoreCase =>
      .tagged "Regex" (.object [("field", .text column), ("pattern", .text pattern),
        ("case_insensitive", .bool ignoreCase)])
  | .logical op children =>
      .tagged "Logical"
        (.object [("op", op.encode), ("children", .array (encodeAll children))])
  | .group children => .tagged "Group" (.array (encodeAll children))

/-- The encoded forms of several filters. -/
def encodeAll : List Filter → List Json
  | [] => []
  | child :: rest => child.encode :: encodeAll rest

end

/-- The names of the parts of tagged contents, if these are a record. -/
def partNames (tag : String) : List String :=
  match tag with
  | "Comparison" => ["field", "op", "value"]
  | "IsNull" => ["field"]
  | "Regex" => ["field", "pattern", "case_insensitive"]
  | "Logical" => ["op", "children"]
  | _ => []

/-- The filter of tagged contents without filters in them. -/
def decodeLeaf? (tag : String) (contents : Json) : Option Filter :=
  match tag with
  | "Comparison" => do
      let [column, op, operand] ← contents.record? (partNames "Comparison") | none
      pure (.compare (← column.text?) (← Comparison.decode? op) (← Literal.decode? operand))
  | "IsNull" => do
      let [column] ← contents.record? (partNames "IsNull") | none
      pure (.isNull (← column.text?))
  | "Regex" => do
      let [column, pattern, ignoreCase] ← contents.record? (partNames "Regex") | none
      pure (.regex (← column.text?) (← pattern.text?) (← ignoreCase.bool?))
  | _ => none

/-- A connective with its children, if both are there. -/
def combine (op : Option Connective) (children : Option (List Filter)) : Option Filter := do
  pure (.logical (← op) (← children))

mutual

/-- The filter of an encoded form. -/
def decode? : Json → Option Filter
  | .object [(tag, contents)] =>
      if tag = "Group" then (decodeList? contents).map .group
      else if tag = "Logical" then
        match contents with
        | .object entries =>
            combine ((Json.only? "op" entries).bind Connective.decode?)
              (decodeAt? "children" entries)
        | .array [op, children] => combine (Connective.decode? op) (decodeList? children)
        | _ => none
      else decodeLeaf? tag contents
  | _ => none

/-- The filters of an encoded list. -/
def decodeList? : Json → Option (List Filter)
  | .array items => decodeItems? items
  | _ => none

/-- The filters of the items of an encoded list. -/
def decodeItems? : List Json → Option (List Filter)
  | [] => some []
  | item :: rest =>
      match decode? item, decodeItems? rest with
      | some child, some children => some (child :: children)
      | _, _ => none

/-- The filters of the encoded list at a key that occurs exactly once. -/
def decodeAt? (key : String) : List (String × Json) → Option (List Filter)
  | [] => none
  | (k, value) :: rest =>
      if k = key then if rest.any (·.1 = key) then none else decodeList? value
      else decodeAt? key rest

end

/-- Whether a filter does not ask for the part of an encoded form that some
    steps lead to: for what stands in a record under any other name. -/
def skips : List (Option String) → Bool
  | some "Group" :: none :: inner => skips inner
  | some "Logical" :: none :: none :: inner => skips inner
  | some "Logical" :: some "children" :: none :: inner => skips inner
  | some tag :: some name :: _ => !(partNames tag).isEmpty && !(partNames tag).contains name
  | _ => false

/-- The filter of an encoded form as a text. -/
def decodeText? (text : String) : Option Filter :=
  (Json.selected? skips text).bind decode?

end Filter

end WhereClause
