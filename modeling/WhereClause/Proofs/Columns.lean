import WhereClause.Proofs.Image

/-!
# Columns and Keys

Where the columns of a filter come from.

Building a filter makes no names up. A leaf is about the column that encloses
its key, or about its key itself, and both were keys of the document that mean
a column. This is proved of the filter that the grammar reads off a document:
a column of it either encloses the document from outside, or is among the keys
of the document, at some depth. Around a whole document there is no column, so
only the second is left.

The keys of a document are collected without regard to what they mean. Those
that begin like an operator never become columns, so they are in nobody's way.

## Main definitions

* `Json.keys`: The keys of all objects in a value.

## Theorems

* `mentions_ofConditions`: A group has the columns of its conditions.
* `mem_mentions_ofDocument`: A column encloses the document, or is a key of it.
* `mentions_of_build`: The columns of a built filter are keys of the document.
-/

namespace WhereClause

namespace Json

mutual

/-- The keys of all objects in a value, from left to right. -/
def keys : Json → List String
  | .object entries => entriesKeys entries
  | .array items => itemsKeys items
  | _ => []

/-- The keys of an object, and of the objects below them. -/
def entriesKeys : List (String × Json) → List String
  | [] => []
  | (key, value) :: rest => key :: (value.keys ++ entriesKeys rest)

/-- The keys of the objects in several values. -/
def itemsKeys : List Json → List String
  | [] => []
  | item :: rest => item.keys ++ itemsKeys rest

end

/-- The keys of an object are its own and those below their values. -/
theorem mem_entriesKeys {entries : List (String × Json)} {entry : String × Json}
    (hentry : entry ∈ entries) {key : String} (h : key = entry.1 ∨ key ∈ entry.2.keys) :
    key ∈ entriesKeys entries := by
  induction entries with
  | nil => exact absurd hentry List.not_mem_nil
  | cons other rest ih =>
      rw [entriesKeys]
      rcases List.mem_cons.1 hentry with rfl | hrest
      · rcases h with rfl | hbelow
        · exact List.mem_cons_self
        · exact List.mem_cons_of_mem _ (List.mem_append_left _ hbelow)
      · exact List.mem_cons_of_mem _ (List.mem_append_right _ (ih hrest))

/-- The keys of an item are keys of the array. -/
theorem mem_itemsKeys {items : List Json} {item : Json} (hitem : item ∈ items) {key : String}
    (h : key ∈ item.keys) : key ∈ itemsKeys items := by
  induction items with
  | nil => exact absurd hitem List.not_mem_nil
  | cons other rest ih =>
      rw [itemsKeys]
      rcases List.mem_cons.1 hitem with rfl | hrest
      · exact List.mem_append_left _ h
      · exact List.mem_append_right _ (ih hrest)

end Json

/-- A key that means a column means the column of that name. -/
theorem Key.name_of_ofText {raw name : String} (h : ofText raw = .field name) : name = raw := by
  rw [ofText] at h
  cases hfind : operators.find? fun key => key.keyword = raw with
  | none =>
      rw [hfind] at h
      exact (Key.field.inj h).symm
  | some key =>
      -- No operator is a column.
      rw [hfind, Option.getD_some] at h
      have hmem := List.mem_of_find?_eq_some hfind
      rw [h] at hmem
      simp [operators] at hmem

namespace Filter

/-- Whether conditions get a group around them makes no difference to their
    columns. -/
theorem mentions_ofConditions (conditions : List Filter) :
    (ofConditions conditions).mentions = mentionsAll conditions := by
  rcases conditions with _ | ⟨first, _ | ⟨second, rest⟩⟩
  · rfl
  · -- A single condition stands without a group around it.
    exact (List.append_nil first.mentions).symm
  · rfl

mutual

/-- The columns of a filter are the column around its document and keys of the
    document. -/
theorem mem_mentions_ofDocument {field : Option String} {document : Json} :
    IsDocument field document → ∀ column ∈ (ofDocument field document).mentions,
      field = some column ∨ column ∈ document.keys
  | .object field entries inhabited flags known conditions => by
      intro column hcolumn
      rw [ofDocument, mentions_ofConditions, mentionsAll_eq_flatMap] at hcolumn
      rcases List.mem_flatMap.1 hcolumn with ⟨condition, hcondition, hmention⟩
      rcases (mem_ofEntries_iff ..).1 hcondition with ⟨entry, hentry, _, rfl⟩
      have hvalue := mem_mentions_ofKey _ (conditions entry hentry) column hmention
      -- From outside, from this key, or from below it.
      rcases hvalue with houter | hkey | hbelow
      · exact Or.inl houter
      · exact Or.inr (Json.mem_entriesKeys hentry (Or.inl (Key.name_of_ofText hkey)))
      · exact Or.inr (Json.mem_entriesKeys hentry (Or.inr hbelow))

/-- The column of a leaf below a key is the one from outside, or the key, or it
    comes from further below. -/
theorem mem_mentions_ofKey {field : Option String} {key : Key} {value : Json}
    (flags : Option Json) :
    IsCondition field key value → ∀ column ∈ (ofKey field flags key value).mentions,
      field = some column ∨ key = .field column ∨ column ∈ value.keys
  | .scalar field name value single closed => by
      intro column hcolumn
      -- Whether it is compared or asked for null, the leaf is about the key.
      have hname : (ofKey field flags (.field name) value).mentions = [name] := by
        rcases ofKey_single field flags name single closed with hleaf | hleaf
        · rw [hleaf, mentions]
        · rw [hleaf, mentions]
      rw [hname] at hcolumn
      exact Or.inr (Or.inl (congrArg Key.field (List.mem_singleton.1 hcolumn).symm))
  | .nested field name entries document => by
      intro column hcolumn
      -- The column around the document below is the key.
      rcases mem_mentions_ofDocument document column hcolumn with hname | hbelow
      · exact Or.inr (Or.inl (congrArg Key.field (Option.some.inj hname)))
      · exact Or.inr (Or.inr hbelow)
  | .comparison column op value ordinary single => by
      intro other hother
      rw [ofKey_comparison] at hother
      exact Or.inl (congrArg some (List.mem_singleton.1 hother).symm)
  | .membership column op items set inhabited flat => by
      intro other hother
      rw [ofKey_comparison] at hother
      exact Or.inl (congrArg some (List.mem_singleton.1 hother).symm)
  | .regex column pattern => by
      intro other hother
      exact Or.inl (congrArg some (List.mem_singleton.1 hother).symm)
  | .options field value => by
      intro column hcolumn
      -- Flags are no condition, so they have no column.
      have hnone : (ofKey field flags .options value).mentions = [] := by
        cases value <;> rfl
      rw [hnone] at hcolumn
      exact absurd hcolumn List.not_mem_nil
  | .logical field op items inhabited documents => by
      intro column hcolumn
      rw [ofKey, mentions, mentionsAll_eq_flatMap, ofItems_eq_map] at hcolumn
      rcases List.mem_flatMap.1 hcolumn with ⟨child, hchild, hmention⟩
      rcases List.mem_map.1 hchild with ⟨item, hitem, rfl⟩
      -- No column reaches the items under a connective.
      rcases mem_mentions_ofDocument (documents item hitem) column hmention with hnone | hbelow
      · cases hnone
      · exact Or.inr (Or.inr (Json.mem_itemsKeys hitem hbelow))

end

mutual

/-- No column of a plain filter begins like an operator. -/
theorem hasSigil_of_mem_mentions : (filter : Filter) → filter.IsPlain →
    ∀ column ∈ filter.mentions, Key.hasSigil column = false
  | .compare _ _ _, plain => List.forall_mem_singleton.2 plain.1
  | .isNull _, plain => List.forall_mem_singleton.2 plain
  | .regex _ _ _, plain => List.forall_mem_singleton.2 plain
  | .logical _ children, plain => hasSigil_of_mem_mentionsAll children plain
  | .group children, plain => hasSigil_of_mem_mentionsAll children plain

theorem hasSigil_of_mem_mentionsAll : (children : List Filter) → ArePlain children →
    ∀ column ∈ mentionsAll children, Key.hasSigil column = false
  | [], _ => nofun
  | child :: rest, plain => by
      intro column hcolumn
      rcases List.mem_append.1 hcolumn with hchild | hrest
      · exact hasSigil_of_mem_mentions child plain.1 column hchild
      · exact hasSigil_of_mem_mentionsAll rest plain.2 column hrest

end

/-- The columns of a built filter are keys of its document, and none of them
    begins like an operator. -/
theorem mentions_of_build (limit : Nat) (document : Json) (filter : Filter)
    (h : (build limit document).outcome = .ok filter) :
    ∀ column ∈ filter.mentions, column ∈ document.keys ∧ Key.hasSigil column = false := by
  intro column hcolumn
  have hsigil := hasSigil_of_mem_mentions filter (wellFormed_of_build limit document filter h).plain
  rcases isDocument_of_build limit document filter h with ⟨hdocument, heq⟩
  rw [heq] at hcolumn
  -- Nothing encloses a whole document.
  rcases mem_mentions_ofDocument hdocument column hcolumn with hnone | hkey
  · cases hnone
  · exact ⟨hkey, hsigil column (heq ▸ hcolumn)⟩

end Filter

end WhereClause
