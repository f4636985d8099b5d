import WhereClause.Proofs.Image
import WhereClause.Proofs.Parameters

/-!
# There and Back

What is left of a value that was made a literal, and of a literal that was made
a value.

A value comes back as it was, down to the form of its numbers, but for its
objects, which have no literal and are null from then on. A literal comes back
with three changes, which are those of the kinds that JSON does not have. A
timestamp is a text, a double that is not finite is null, and an unsigned
integer is a signed one if there is one for it. Nothing else is changed, and
lists keep their items in place.

There are three kinds of numbers on the one side and two on the other, and their
ranges overlap. A whole number is signed up to the largest signed integer, and
no number is both, so which kind it had can be told from it. What was a double
stays one, even if it is whole.

The literals that are bound to a statement come from a document, so they have
none of the three, and come back as they were.

## Main definitions

* `Json.withoutObjects`: A value with null for its objects.
* `Literal.settled`: A literal as it comes back.

## Theorems

* `toJson_ofJson`: A value comes back without its objects.
* `toInt_ofInt_toNat`: An unsigned integer and the signed one it becomes are the
  same number.
* `ofJson_toJson_eq_settled`: A literal comes back settled.
* `settled_eq_self_iff`: The literals that come back as they were.
* `conversions_keep_values`: All of this, and that it holds for what is bound to
  a statement.
-/

namespace WhereClause

/-! ## Values -/

namespace Json

mutual

/-- A value with null in the place of every object. What is in an object goes
    with it. -/
def withoutObjects : Json → Json
  | .array items => .array (withoutObjectsAll items)
  | .object _ => .null
  | .null => .null
  | .bool b => .bool b
  | .number n => .number n
  | .text s => .text s

/-- The items of an array with null in the place of every object. -/
def withoutObjectsAll : List Json → List Json
  | [] => []
  | item :: rest => item.withoutObjects :: withoutObjectsAll rest

end

end Json

namespace Literal

/-- A number keeps its form. -/
theorem toJson_ofNumber (n : Json.Number) : (ofNumber n).toJson = .number n := by
  cases n with
  | real x finite =>
      rw [ofNumber, toJson, Json.Number.ofFloat?, dif_pos finite]
      rfl
  | whole n bounds =>
      rw [ofNumber]
      by_cases hsmall : n < 0x8000000000000000
      · -- Below the bound the number is a signed integer.
        have hn : (Int64.ofInt n).toInt = n := Int64.toInt_ofInt_of_le bounds.1 hsmall
        rw [if_pos hsmall, toJson]
        simp only [Json.Number.ofInt64, hn]
      · -- Otherwise the range of JSON numbers makes it an unsigned one.
        have hn : ((UInt64.ofNat n.toNat).toNat : Int) = n := by
          rw [UInt64.toNat_ofNat_of_lt' (show n.toNat < 2 ^ 64 by omega)]
          omega
        rw [if_neg hsmall, toJson]
        simp only [Json.Number.ofUInt64, hn]

mutual

/-- A value that was made a literal has lost its objects and nothing else. -/
theorem toJson_ofJson : (value : Json) → (ofJson value).toJson = value.withoutObjects
  | .number n => by rw [ofJson, toJson_ofNumber, Json.withoutObjects]
  | .array items => by rw [ofJson, toJson, toItems_ofItems items, Json.withoutObjects]
  | .null | .bool _ | .text _ | .object _ => rfl

theorem toItems_ofItems : (items : List Json) →
    toItems (ofItems items) = Json.withoutObjectsAll items
  | [] => rfl
  | item :: rest => by
      rw [ofItems, toItems, toJson_ofJson item, toItems_ofItems rest, Json.withoutObjectsAll]

end

/-! ## Literals -/

mutual

/-- A literal without what JSON has none of: timestamps are texts, doubles that
    are not finite are null, and unsigned integers are signed where they can
    be. -/
def settled : Literal → Literal
  | .uint n =>
      if n.toNat ≤ Int64.maxValue.toInt then .int (Int64.ofInt n.toNat) else .uint n
  | .timestamp t => .text t.display
  | .float x => if x.isFinite = true then .float x else .null
  | .list items => .list (settledItems items)
  | .int n => .int n
  | .bool b => .bool b
  | .text s => .text s
  | .null => .null

/-- The items of a list, each of them settled. -/
def settledItems : List Literal → List Literal
  | [] => []
  | item :: rest => item.settled :: settledItems rest

end

/-- The signed integer that an unsigned one becomes is the same number. -/
theorem toInt_ofInt_toNat (n : UInt64) (h : n.toNat ≤ Int64.maxValue.toInt) :
    (Int64.ofInt n.toNat).toInt = n.toNat := by
  have hmax : Int64.maxValue.toInt = 0x7FFFFFFFFFFFFFFF := by decide
  exact Int64.toInt_ofInt_of_le (by omega) (by omega)

/-- An unsigned integer comes back as a signed one exactly if there is one for
    it. -/
theorem ofJson_toJson_uint (n : UInt64) : ofJson (uint n).toJson = (uint n).settled := by
  have hmax : Int64.maxValue.toInt = 0x7FFFFFFFFFFFFFFF := by decide
  rw [toJson, Json.Number.ofUInt64, ofJson, ofNumber, settled, hmax, Int.toNat_natCast,
    UInt64.ofNat_toNat]
  -- The two bounds are next to each other.
  by_cases hsmall : (n.toNat : Int) ≤ 0x7FFFFFFFFFFFFFFF
  · rw [if_pos hsmall, if_pos (by omega)]
  · rw [if_neg hsmall, if_neg (by omega)]

/-- A double comes back if it is finite, and is null otherwise. -/
theorem ofJson_toJson_float (x : Float) : ofJson (float x).toJson = (float x).settled := by
  rw [toJson, Json.Number.ofFloat?, settled]
  by_cases hfinite : x.isFinite = true
  · rw [dif_pos hfinite, if_pos hfinite]
    rfl
  · rw [dif_neg hfinite, if_neg hfinite]
    rfl

mutual

/-- A literal that was made a value comes back settled. -/
theorem ofJson_toJson_eq_settled : (literal : Literal) → ofJson literal.toJson = literal.settled
  | .uint n => ofJson_toJson_uint n
  | .float x => ofJson_toJson_float x
  | .list items => by rw [toJson, ofJson, ofItems_toItems_eq_settled items, settled]
  | .int n => by
      rw [settled]
      exact ofJson_toJson (.int n) trivial
  | .timestamp _ | .bool _ | .text _ | .null => rfl

theorem ofItems_toItems_eq_settled : (items : List Literal) →
    ofItems (toItems items) = settledItems items
  | [] => rfl
  | item :: rest => by
      rw [toItems, ofItems, ofJson_toJson_eq_settled item, ofItems_toItems_eq_settled rest,
        settledItems]

end

/-- The literals that come back as they were are those of JSON values. -/
theorem settled_eq_self_iff (literal : Literal) : literal.settled = literal ↔ literal.IsPlain := by
  rw [← ofJson_toJson_eq_settled]
  -- A literal that comes back is the literal of a value, and these are plain.
  refine ⟨fun h => ?_, ofJson_toJson literal⟩
  rw [← h]
  exact plain_ofJson _

/-! ## Bound values -/

/-- The values that are bound to a compiled statement are literals of JSON
    values. -/
theorem plain_of_bound (settings : Settings) (document : Json) (clause : Sql.Clause)
    (h : (compileParameterized settings document).outcome = .ok clause) :
    ∀ literal ∈ clause.values.toList, literal.IsPlain := by
  intro literal hliteral
  rw [compileParameterized, Traced.outcome_bind_eq_ok_iff] at h
  rcases h with ⟨filter, hbuild, hclause⟩
  rw [← Except.ok.inj hclause] at hliteral
  rcases Filter.isDocument_of_build _ document filter hbuild with ⟨hdocument, rfl⟩
  -- What is bound are literals of values in the document.
  rw [Filter.values_ofDocument document hdocument] at hliteral
  rcases List.mem_map.1 hliteral with ⟨value, _, rfl⟩
  exact plain_ofJson value

/-- Converting values and literals into each other loses nothing but objects on
    the one side and the kinds that JSON does not have on the other. What is
    bound to a compiled statement comes back as it was. -/
theorem conversions_keep_values :
    (∀ value : Json, (ofJson value).toJson = value.withoutObjects) ∧
      (∀ literal : Literal, ofJson literal.toJson = literal.settled) ∧
      (∀ n : UInt64, n.toNat ≤ Int64.maxValue.toInt → (Int64.ofInt n.toNat).toInt = n.toNat) ∧
      ∀ (settings : Settings) (document : Json) (clause : Sql.Clause),
        (compileParameterized settings document).outcome = .ok clause →
          ∀ literal ∈ clause.values.toList, ofJson literal.toJson = literal := by
  refine ⟨toJson_ofJson, ofJson_toJson_eq_settled, toInt_ofInt_toNat, ?_⟩
  intro settings document clause h literal hliteral
  exact ofJson_toJson literal (plain_of_bound settings document clause h literal hliteral)

/-- The largest signed integer, and the next one, which is bound in a list. -/
theorem conversions_keep_values_bounds :
    (0x7FFFFFFFFFFFFFFF : UInt64).toNat ≤ Int64.maxValue.toInt ∧
      (Int64.ofInt (0x7FFFFFFFFFFFFFFF : UInt64).toNat).toInt =
        (0x7FFFFFFFFFFFFFFF : UInt64).toNat ∧
      ∃ clause, (compileParameterized {} (.object [("a", .object [("$in",
          .array [.text "t", .number (.ofUInt64 0x8000000000000000)])])])).outcome = .ok clause ∧
        .uint 0x8000000000000000 ∈ clause.values.toList ∧
        ofJson (uint 0x8000000000000000).toJson = .uint 0x8000000000000000 := by
  have hclause : (compileParameterized {} (.object [("a", .object [("$in",
      .array [.text "t", .number (.ofUInt64 0x8000000000000000)])])])).outcome =
      .ok ⟨"\x60a\x60 IN (?, ?)", #[.text "t", .uint 0x8000000000000000]⟩ := rfl
  have hmem : uint 0x8000000000000000 ∈ [.text "t", uint 0x8000000000000000] :=
    List.mem_cons_of_mem _ List.mem_cons_self
  exact ⟨by decide, conversions_keep_values.2.2.1 _ (by decide), _, hclause, hmem,
    conversions_keep_values.2.2.2 _ _ _ hclause _ hmem⟩

end Literal

end WhereClause
