import WhereClause.Json.Reader
import WhereClause.Literal.Basic

/-!
# Distinct Keys

Values none of whose objects repeats a key.

The type of JSON values allows an object to have the same key twice, since a
text can say so. A document does not: reading it gives every object one entry
per key, at every depth. `Distinct` says that of a value, so a theorem that is
about documents, and not about values at large, can ask for it or has to
provide it.

## Main definitions

* `Json.Distinct`: A value none of whose objects repeats a key.

## Theorems

* `distinct_merged`: Merging leaves no repeated key.
* `distinct_document`: A document that is read repeats no key.
* `distinct_toJson`: The JSON value of a literal repeats no key.
-/

namespace WhereClause

namespace Json

mutual

/-- No object in the value repeats a key. -/
def Distinct : Json → Prop
  | .array items => DistinctItems items
  | .object entries => (entries.map Prod.fst).Nodup ∧ DistinctEntries entries
  | .null => True
  | .bool _ => True
  | .number _ => True
  | .text _ => True

/-- The same of all items of an array. -/
def DistinctItems : List Json → Prop
  | [] => True
  | item :: rest => item.Distinct ∧ DistinctItems rest

/-- The same of all values of an object. -/
def DistinctEntries : List (String × Json) → Prop
  | [] => True
  | (_, value) :: rest => value.Distinct ∧ DistinctEntries rest

end

theorem distinctEntries_iff (entries : List (String × Json)) :
    DistinctEntries entries ↔ ∀ entry ∈ entries, entry.2.Distinct := by
  induction entries with
  | nil => exact ⟨fun _ => nofun, fun _ => trivial⟩
  | cons entry rest ih => rw [DistinctEntries, List.forall_mem_cons, ih]

/-- Setting an entry adds that one, and the others were there before. -/
theorem mem_setEntry (key : String) (value : Json) (entries : List (String × Json))
    (entry : String × Json) (h : entry ∈ setEntry key value entries) :
    entry = (key, value) ∨ entry ∈ entries := by
  induction entries with
  | nil => exact Or.inl (List.mem_singleton.1 h)
  | cons first rest ih =>
      rw [setEntry] at h
      -- Either the key is here, and the value replaces the one of before, or it is
      -- further on.
      split at h
      · exact (List.mem_cons.1 h).imp id fun hrest => List.mem_cons_of_mem _ hrest
      · rcases List.mem_cons.1 h with heq | hrest
        · exact Or.inr (heq ▸ List.mem_cons_self)
        · exact (ih hrest).imp id fun hmem => List.mem_cons_of_mem _ hmem

/-- Merging makes no entry up. -/
theorem mem_mergeEntries (entries : List (String × Json)) :
    ∀ entry ∈ mergeEntries entries, entry ∈ entries := by
  -- The fold starts with what was merged already, so the induction is about any
  -- such start.
  suffices h : ∀ (done : List (String × Json)) (entry : String × Json),
      entry ∈ entries.foldl (fun done entry => setEntry entry.1 entry.2 done) done →
        entry ∈ done ∨ entry ∈ entries by
    exact fun entry hmem => (h [] entry hmem).resolve_left List.not_mem_nil
  induction entries with
  | nil => exact fun done entry hmem => Or.inl hmem
  | cons first rest ih =>
      intro done entry hmem
      rcases ih _ entry hmem with hdone | hrest
      · rcases mem_setEntry _ _ _ entry hdone with heq | hbefore
        · exact Or.inr (heq ▸ List.mem_cons_self)
        · exact Or.inl hbefore
      · exact Or.inr (List.mem_cons_of_mem _ hrest)

mutual

/-- Merging is done at every depth, so no key is left twice at any. -/
theorem distinct_merged : (value : Json) → value.merged.Distinct
  | .array items => by
      rw [merged, Distinct]
      exact distinctItems_mergedItems items
  | .object entries => by
      rw [merged, Distinct, distinctEntries_iff]
      refine ⟨nodup_mergeEntries _, fun entry hmem => ?_⟩
      exact (distinctEntries_iff _).1 (distinctEntries_mergedEntries entries) entry
        (mem_mergeEntries _ entry hmem)
  | .null | .bool _ | .number _ | .text _ => trivial

theorem distinctItems_mergedItems : (items : List Json) → DistinctItems (mergedItems items)
  | [] => trivial
  | item :: rest => ⟨distinct_merged item, distinctItems_mergedItems rest⟩

theorem distinctEntries_mergedEntries :
    (entries : List (String × Json)) → DistinctEntries (mergedEntries entries)
  | [] => trivial
  | (_, value) :: rest => ⟨distinct_merged value, distinctEntries_mergedEntries rest⟩

end

/-- A document that is read repeats no key, since reading ends with merging. -/
theorem distinct_document (text : String) (value : Json) (h : document text = .ok value) :
    value.Distinct := by
  rw [document] at h
  cases hparse : parse text with
  | error fault =>
      rw [hparse] at h
      cases h
  | ok read =>
      rw [hparse] at h
      rw [← Except.ok.inj h]
      exact distinct_merged read

end Json

namespace Literal

mutual

/-- The value of a literal has no objects, so no key either. -/
theorem distinct_toJson : (literal : Literal) → literal.toJson.Distinct
  | .list items => distinctItems_toItems items
  | .float x => by
      rw [toJson]
      cases Json.Number.ofFloat? x <;> trivial
  | .int _ | .uint _ | .bool _ | .text _ | .timestamp _ | .null => trivial

theorem distinctItems_toItems : (items : List Literal) → Json.DistinctItems (toItems items)
  | [] => trivial
  | item :: rest => ⟨distinct_toJson item, distinctItems_toItems rest⟩

end

end Literal

end WhereClause
