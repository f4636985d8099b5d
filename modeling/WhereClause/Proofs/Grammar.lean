import WhereClause.Filter.Build

/-!
# The Grammar of Filter Documents

Which documents are filters, and which filters they are, in two steps.

Building a filter decides everything in one pass: it classifies a key, looks
for a sibling, counts how deep it is, and stops at the first fault. Here the
same is said without a pass. `IsDocument` is a grammar, with a production for
each kind of condition, and knows nothing about trees, routes or limits.
`nesting` counts how deep the objects of a document lie that are filters
themselves. `ofDocument` reads a document off as a tree, without looking for
faults, and means something only where the grammar holds.

A column reaches the conditions below it through exactly one object. That is
why the grammar has the column as an index: an object under a connective has
none again, however deep the connective itself lies.

The entries of an object are read with `Json.lookup`, which takes the first
one of a repeated key. In a document without repeated keys that is the value
of the key.

## Main definitions

* `Key.ofText`, `Key.IsKnown`: What a key means, and whether it means
  anything.
* `FlagsKnown`, `FlagsFit`: What flags have to look like, and what has to
  stand beside them.
* `IsDocument`, `IsCondition`: The grammar.
* `nesting`: How deep the filters of a document are nested.
* `ofDocument`: The filter of a document of the grammar.

## Theorems

* `classify_eq_ok_iff`: Classifying a key, in the words of the grammar.
* `isDocument_object_iff`, `isCondition_field_iff`,
  `isCondition_comparison_iff`, `isCondition_regex_iff`,
  `isCondition_logical_iff`: The productions read backwards.
-/

namespace WhereClause

namespace Key

/-- What a key means, if it means anything: the operator that is spelled like
    that, and a column if there is none. -/
def ofText (raw : String) : Key :=
  (operators.find? fun key => key.keyword = raw).getD (.field raw)

/-- A key that begins like an operator is one. -/
def IsKnown (raw : String) : Prop :=
  hasSigil raw = true → ∃ key ∈ operators, key.keyword = raw

/-- Every operator begins like one, so none is found for another key. -/
theorem find?_of_not_sigil (raw : String) (h : hasSigil raw = false) :
    (operators.find? fun key => key.keyword = raw) = none := by
  have hall : ∀ key ∈ operators, hasSigil key.keyword = true := by decide
  refine List.find?_eq_none.2 fun key hkey heq => ?_
  rw [← of_decide_eq_true heq, hall key hkey] at h
  exact Bool.noConfusion h

/-- A key is classified if it is known, as what it means. -/
theorem classify_eq_ok_iff (raw : String) (key : Key) :
    classify raw = .ok key ↔ IsKnown raw ∧ key = ofText raw := by
  by_cases h : hasSigil raw = true
  · rw [classify, if_pos h, ofText]
    cases hfind : operators.find? fun key => key.keyword = raw with
    | none =>
        constructor
        · intro hok
          cases hok
        · intro hkey
          rcases hkey.1 h with ⟨other, hmem, heq⟩
          exact absurd (decide_eq_true heq) (List.find?_eq_none.1 hfind other hmem)
    | some found =>
        -- The operator that was found is spelled like the key.
        have hspelled := List.find?_some hfind
        constructor
        · intro hok
          exact ⟨fun _ => ⟨found, List.mem_of_find?_eq_some hfind, of_decide_eq_true hspelled⟩,
            (Except.ok.inj hok).symm⟩
        · intro hkey
          rw [hkey.2, Option.getD_some]
  · -- A key without the sigil is a column, and it is known whatever it is.
    have hno := eq_false_of_ne_true h
    rw [classify_of_not_sigil raw hno, ofText, find?_of_not_sigil raw hno, Option.getD_none]
    constructor
    · intro hok
      exact ⟨fun hyes => absurd hyes h, (Except.ok.inj hok).symm⟩
    · intro hkey
      rw [hkey.2]

end Key

namespace Filter

/-- Flags, if there are any, are the letter i any number of times. -/
def FlagsKnown (flags : Option Json) : Prop :=
  ∀ value, flags = some value →
    ∃ letters : String, value = .text letters ∧ ∀ c ∈ letters.toList, c = 'i'

/-- Whether there is a flag at all. -/
def hasFlag : Option Json → Bool
  | some (.text letters) => !letters.toList.isEmpty
  | _ => false

/-- The flags in an object stand beside a pattern and are known. -/
structure FlagsFit (entries : List (String × Json)) : Prop where
  beside : (Json.lookup Key.options.keyword entries).isSome →
    (Json.lookup Key.regex.keyword entries).isSome
  known : FlagsKnown (Json.lookup Key.options.keyword entries)

mutual

/-- A document that is a filter, in an object of its own. `field` is the
    column that encloses it, if there is one. -/
inductive IsDocument : Option String → Json → Prop where
  | object (field : Option String) (entries : List (String × Json)) (inhabited : entries ≠ [])
      (flags : FlagsFit entries) (known : ∀ entry ∈ entries, Key.IsKnown entry.1)
      (conditions : ∀ entry ∈ entries, IsCondition field (Key.ofText entry.1) entry.2) :
      IsDocument field (.object entries)

/-- A value that fits below a key, in an object that `field` encloses. -/
inductive IsCondition : Option String → Key → Json → Prop where
  /-- A column is given a single value, or null. -/
  | scalar (field : Option String) (name : String) (value : Json)
      (single : value.kind ≠ .array) (closed : value.kind ≠ .object) :
      IsCondition field (.field name) value
  /-- A column is given conditions. -/
  | nested (field : Option String) (name : String) (entries : List (String × Json))
      (document : IsDocument (some name) (.object entries)) :
      IsCondition field (.field name) (.object entries)
  /-- The enclosing column is compared with a single value. -/
  | comparison (column : String) (op : Comparison) (value : Json) (ordinary : op.isSet = false)
      (single : value.kind ≠ .array) : IsCondition (some column) (.comparison op) value
  /-- The enclosing column is compared with several values. -/
  | membership (column : String) (op : Comparison) (items : List Json) (set : op.isSet = true)
      (inhabited : items ≠ []) (flat : ∀ item ∈ items, item.kind ≠ .array) :
      IsCondition (some column) (.comparison op) (.array items)
  /-- The enclosing column has to match a pattern. -/
  | regex (column pattern : String) : IsCondition (some column) .regex (.text pattern)
  /-- Flags are looked at in the object as a whole. -/
  | options (field : Option String) (flags : Json) : IsCondition field .options flags
  /-- Filters of their own are combined, without an enclosing column. -/
  | logical (field : Option String) (op : Connective) (items : List Json)
      (inhabited : items ≠ []) (documents : ∀ item ∈ items, IsDocument none item) :
      IsCondition field (.logical op) (.array items)

end

mutual

/-- How deep filters are nested in a document, the document included. -/
def nesting : Json → Nat
  | .object entries => 1 + entriesNesting entries
  | _ => 0

/-- How deep filters are nested below the keys of an object. -/
def entriesNesting : List (String × Json) → Nat
  | [] => 0
  | (raw, value) :: rest => max (keyNesting (Key.ofText raw) value) (entriesNesting rest)

/-- How deep filters are nested below a key. Objects are filters below a
    column, and operands everywhere else. -/
def keyNesting (key : Key) : Json → Nat
  | .object entries =>
      match key with
      | .field _ => 1 + entriesNesting entries
      | _ => 0
  | .array items =>
      match key with
      | .logical _ => itemsNesting items
      | _ => 0
  | _ => 0

/-- How deep filters are nested in the items under a connective. -/
def itemsNesting : List Json → Nat
  | [] => 0
  | item :: rest => max (nesting item) (itemsNesting rest)

end

/-- The condition of a key with no filters below it. There is none below a
    connective, and flags are no condition. -/
def ofLeaf (field : Option String) (flags : Option Json) (key : Key) (value : Json) : Filter :=
  match key, value with
  | .field name, .null => .isNull name
  | .field name, value => .compare name .eq (.ofJson value)
  | .comparison op, value => .compare (field.getD "") op (.ofJson value)
  | .regex, .text pattern => .regex (field.getD "") pattern (hasFlag flags)
  | _, _ => .group []

mutual

/-- The filter of a document that `field` encloses. -/
def ofDocument (field : Option String) : Json → Filter
  | .object entries =>
      ofConditions (ofEntries field (Json.lookup Key.options.keyword entries) entries)
  | _ => .group []

/-- The conditions of the keys of an object in order, the flags left out. -/
def ofEntries (field : Option String) (flags : Option Json) :
    List (String × Json) → List Filter
  | [] => []
  | (raw, value) :: rest =>
      if Key.ofText raw = .options then ofEntries field flags rest
      else ofKey field flags (Key.ofText raw) value :: ofEntries field flags rest

/-- The condition of a key. -/
def ofKey (field : Option String) (flags : Option Json) (key : Key) : Json → Filter
  | .object entries =>
      match key with
      | .field name =>
          ofConditions (ofEntries (some name) (Json.lookup Key.options.keyword entries) entries)
      | key => ofLeaf field flags key (.object entries)
  | .array items =>
      match key with
      | .logical op => .logical op (ofItems items)
      | key => ofLeaf field flags key (.array items)
  | value => ofLeaf field flags key value

/-- The filters of the items under a connective. -/
def ofItems : List Json → List Filter
  | [] => []
  | item :: rest => ofDocument none item :: ofItems rest

end

/-- The one production for documents. -/
theorem isDocument_object_iff (field : Option String) (entries : List (String × Json)) :
    IsDocument field (.object entries) ↔
      entries ≠ [] ∧ FlagsFit entries ∧ ∀ entry ∈ entries,
        Key.IsKnown entry.1 ∧ IsCondition field (Key.ofText entry.1) entry.2 := by
  constructor
  · intro h
    cases h with
    | object _ _ inhabited flags known conditions =>
        exact ⟨inhabited, flags, fun entry hmem => ⟨known entry hmem, conditions entry hmem⟩⟩
  · intro ⟨inhabited, flags, h⟩
    exact .object field entries inhabited flags (fun entry hmem => (h entry hmem).1)
      fun entry hmem => (h entry hmem).2

/-- A column takes anything but an array, and an object only if it is a
    document. -/
theorem isCondition_field_iff (field : Option String) (name : String) (value : Json) :
    IsCondition field (.field name) value ↔
      value.kind ≠ .array ∧ (value.kind = .object → IsDocument (some name) value) := by
  constructor
  · intro h
    cases h with
    | scalar _ _ _ single closed => exact ⟨single, fun hobject => absurd hobject closed⟩
    | nested _ _ _ document => exact ⟨nofun, fun _ => document⟩
  · intro ⟨single, document⟩
    cases value with
    | object entries => exact .nested field name entries (document rfl)
    | array items => exact absurd rfl single
    | _ => exact .scalar _ _ _ single nofun

/-- A comparison needs a column around it, and its operand is an array exactly
    for the set operators. -/
theorem isCondition_comparison_iff (field : Option String) (op : Comparison) (value : Json) :
    IsCondition field (.comparison op) value ↔
      (∃ column, field = some column) ∧
        if op.isSet then
          ∃ items, value = .array items ∧ items ≠ [] ∧ ∀ item ∈ items, item.kind ≠ .array
        else value.kind ≠ .array := by
  constructor
  · intro h
    cases h with
    | comparison column _ _ ordinary single =>
        rw [ordinary]
        exact ⟨⟨column, rfl⟩, single⟩
    | membership column _ items set inhabited flat =>
        rw [set]
        exact ⟨⟨column, rfl⟩, items, rfl, inhabited, flat⟩
  · intro ⟨⟨column, hfield⟩, h⟩
    -- The kind of operator says which of the two productions it is.
    subst hfield
    by_cases hset : op.isSet = true
    · rw [if_pos hset] at h
      rcases h with ⟨items, rfl, inhabited, flat⟩
      exact .membership column op items hset inhabited flat
    · rw [if_neg hset] at h
      exact .comparison column op value (eq_false_of_ne_true hset) h

/-- A pattern needs a column around it, and is a text. -/
theorem isCondition_regex_iff (field : Option String) (value : Json) :
    IsCondition field .regex value ↔
      (∃ column, field = some column) ∧ ∃ pattern, value = .text pattern := by
  constructor
  · intro h
    cases h with
    | regex column pattern => exact ⟨⟨column, rfl⟩, pattern, rfl⟩
  · intro ⟨⟨column, hfield⟩, pattern, hvalue⟩
    rw [hfield, hvalue]
    exact .regex column pattern

/-- A connective takes an array of documents, and it has an item at least. -/
theorem isCondition_logical_iff (field : Option String) (op : Connective) (value : Json) :
    IsCondition field (.logical op) value ↔
      ∃ items, value = .array items ∧ items ≠ [] ∧ ∀ item ∈ items, IsDocument none item := by
  constructor
  · intro h
    cases h with
    | logical _ _ items inhabited documents => exact ⟨items, rfl, inhabited, documents⟩
  · intro ⟨items, hvalue, inhabited, documents⟩
    rw [hvalue]
    exact .logical field op items inhabited documents

end Filter

end WhereClause
