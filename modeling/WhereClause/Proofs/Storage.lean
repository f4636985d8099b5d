import WhereClause.Filter.Codec
import WhereClause.Proofs.Stamps

/-!
# Stored Filters

Decoding undoes encoding.

An encoded filter is a JSON value that says of each part what it is, and
decoding asks each part for exactly that. Nothing has to be known of the
filter for this to work. It may be one that no document is built to, with a set
operator and no list, or a connective without children.

The one thing that JSON cannot say is a double that is not finite. Encoding
writes null in its place, and decoding does not take that for a double. So such
a filter is not given back, and neither is any other in its stead, however deep
inside it the double is.

This is about values. Texts, and how deeply a text may nest them, are another
matter.

## Main definitions

* `Literal.isFinite`, `Filter.isFinite`: Whether all doubles are finite.

## Theorems

* `int64?_ofInt64`, `uint64?_ofUInt64`, `double?_ofFloat`: Numbers are taken
  back, if they were numbers.
* `Literal.decode?_encode`, `Filter.decode?_encode`: Decoding an encoded
  literal, and an encoded filter.
* `stored_is_recovered`: Both of them.
-/

namespace WhereClause

namespace Literal

mutual

/-- Whether all doubles in a literal are finite. -/
def isFinite : Literal → Bool
  | .float x => x.isFinite
  | .list items => areFinite items
  | .int _ => true
  | .uint _ => true
  | .bool _ => true
  | .text _ => true
  | .timestamp _ => true
  | .null => true

/-- Whether all doubles in several literals are finite. -/
def areFinite : List Literal → Bool
  | [] => true
  | item :: rest => item.isFinite && areFinite rest

end

end Literal

namespace Filter

mutual

/-- Whether all doubles in a filter are finite. -/
def isFinite : Filter → Bool
  | .compare _ _ operand => operand.isFinite
  | .isNull _ => true
  | .regex _ _ _ => true
  | .logical _ children => areFinite children
  | .group children => areFinite children

/-- Whether all doubles in several filters are finite. -/
def areFinite : List Filter → Bool
  | [] => true
  | child :: rest => child.isFinite && areFinite rest

end

end Filter

/-! ## Numbers -/

namespace Json

theorem int64?_ofInt64 (n : Int64) : (Json.number (.ofInt64 n)).int64? = some n := by
  have hlt := n.toInt_lt
  rw [Number.ofInt64, int64?, if_pos (by omega), Int64.ofInt_toInt]

theorem uint64?_ofUInt64 (n : UInt64) : (Json.number (.ofUInt64 n)).uint64? = some n := by
  rw [Number.ofUInt64, uint64?, if_pos (by omega), Int.toNat_natCast, UInt64.ofNat_toNat]

/-- A double is taken back if it is finite. Null is no double. -/
theorem double?_ofFloat (x : Float) :
    (((Number.ofFloat? x).map Json.number).getD .null).double? =
      if x.isFinite = true then some x else none := by
  rw [Number.ofFloat?]
  -- A double that is not finite has become null, which is not a number.
  by_cases h : x.isFinite = true
  · rw [dif_pos h, if_pos h]
    rfl
  · rw [dif_neg h, if_neg h]
    rfl

end Json

/-! ## Literals -/

namespace Literal

theorem decode?_tagged {tag : String} (htag : tag ≠ "List") (contents : Json) :
    decode? (.tagged tag contents) = decodeScalar? tag contents := by
  rw [Json.tagged, decode?.eq_def]
  exact if_neg htag

theorem decode?_list (items : List Json) :
    decode? (.tagged "List" (.array items)) = (decodeItems? items).map .list := by
  rw [Json.tagged, decode?.eq_def]
  exact if_pos rfl

theorem decode?_null : decode? (.text "Null") = some .null := by
  rw [decode?.eq_def]
  exact if_pos rfl

theorem decode?_encode_float (x : Float) :
    decode? (Literal.float x).encode = if x.isFinite = true then some (.float x) else none := by
  rw [encode, decode?_tagged (by decide), decodeScalar?, Json.double?_ofFloat]
  split <;> rfl

mutual

/-- Decoding an encoded literal gives that literal, if all its doubles are
    finite, and nothing if not. -/
theorem decode?_encode :
    (value : Literal) → decode? value.encode = if value.isFinite then some value else none
  | .int n => by
      rw [encode, decode?_tagged (by decide), decodeScalar?, Json.int64?_ofInt64]
      rfl
  | .uint n => by
      rw [encode, decode?_tagged (by decide), decodeScalar?, Json.uint64?_ofUInt64]
      rfl
  | .float x => by
      rw [decode?_encode_float, isFinite]
  | .bool b => by
      rw [encode, decode?_tagged (by decide), decodeScalar?]
      rfl
  | .text s => by
      rw [encode, decode?_tagged (by decide), decodeScalar?]
      rfl
  | .timestamp t => by
      rw [encode, decode?_tagged (by decide), decodeScalar?, Json.text?, Option.bind_some,
        t.decode?_encoded]
      rfl
  | .list items => by
      rw [encode, decode?_list, decodeItems?_encodeItems items, isFinite]
      split <;> rfl
  | .null => by
      rw [encode, decode?_null]
      rfl

theorem decodeItems?_encodeItems :
    (items : List Literal) →
      decodeItems? (encodeItems items) = if areFinite items then some items else none
  | [] => rfl
  | item :: rest => by
      rw [encodeItems, decodeItems?, decode?_encode item, decodeItems?_encodeItems rest, areFinite]
      -- One item that is lost is enough to lose the list.
      cases item.isFinite <;> cases areFinite rest <;> rfl

end

end Literal

/-! ## Filters -/

theorem Comparison.decode?_encode (op : Comparison) : decode? op.encode = some op :=
  ofTag?_tag op

theorem Connective.decode?_encode (op : Connective) : decode? op.encode = some op :=
  ofTag?_tag op

namespace Filter

theorem decode?_encode_compare (column : String) (op : Comparison) (operand : Literal) :
    decode? (Filter.compare column op operand).encode =
      if operand.isFinite then some (.compare column op operand) else none := by
  -- The parts of the record are decoded one by one, each by its own decoder.
  have hleaf : decode? (Filter.compare column op operand).encode =
      (Comparison.decode? op.encode).bind fun op =>
        (Literal.decode? operand.encode).bind fun operand =>
          some (.compare column op operand) := rfl
  rw [hleaf, op.decode?_encode, operand.decode?_encode]
  cases operand.isFinite <;> rfl

theorem decode?_encode_logical (op : Connective) (children : List Filter) :
    decode? (Filter.logical op children).encode =
      (decodeItems? (encodeAll children)).map (.logical op) := by
  have hlogical : decode? (Filter.logical op children).encode =
      combine (Connective.decode? op.encode) (decodeItems? (encodeAll children)) := rfl
  rw [hlogical, op.decode?_encode]
  cases decodeItems? (encodeAll children) <;> rfl

mutual

/-- Decoding an encoded filter gives that filter, if all its doubles are
    finite, and nothing if not. -/
theorem decode?_encode :
    (filter : Filter) → decode? filter.encode = if filter.isFinite then some filter else none
  | .compare column op operand => decode?_encode_compare column op operand
  | .isNull _ => rfl
  | .regex _ _ _ => rfl
  | .logical op children => by
      rw [decode?_encode_logical, decodeItems?_encodeAll children, isFinite]
      cases areFinite children <;> rfl
  | .group children => by
      have hgroup : decode? (Filter.group children).encode =
          (decodeItems? (encodeAll children)).map .group := rfl
      rw [hgroup, decodeItems?_encodeAll children, isFinite]
      cases areFinite children <;> rfl

theorem decodeItems?_encodeAll :
    (children : List Filter) →
      decodeItems? (encodeAll children) = if areFinite children then some children else none
  | [] => rfl
  | child :: rest => by
      rw [encodeAll, decodeItems?, decode?_encode child, decodeItems?_encodeAll rest, areFinite]
      -- One child that is lost is enough to lose them all.
      cases child.isFinite <;> cases areFinite rest <;> rfl

end

end Filter

/-- Decoding undoes encoding, for literals and for filters. It gives nothing
    exactly if there is a double that is not finite. -/
theorem stored_is_recovered :
    (∀ value : Literal,
      Literal.decode? value.encode = if value.isFinite then some value else none) ∧
    ∀ filter : Filter,
      Filter.decode? filter.encode = if filter.isFinite then some filter else none :=
  ⟨Literal.decode?_encode, Filter.decode?_encode⟩

end WhereClause
