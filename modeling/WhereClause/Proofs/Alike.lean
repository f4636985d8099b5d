import WhereClause.Proofs.Faults

/-!
# Documents that Differ in Literals

Which values of a document are literals, and what a refusal says about them.

Two documents are alike here if they have the same keys in the same order and
arrays of the same length, and differ in literals alone. What counts as a
literal depends on where a value stands. Below a column it is a single value
that is not null: null asks whether the column is null, which is another
condition. Below a comparison, and as an item under a set operator, it is
anything but an array, even an object, since an object becomes null there. A
pattern is a literal and its flags are not.

`Alike` lets these vary and fixes everything else. It does not ask for
documents of the grammar. Two documents that are alike can also be refused,
and then alike as well: faults name the kind of a value at most, and where a
fault names the kind, literals have no other. So the findings are equal.

## Main definitions

* `Json.Role`: What a value is to its document.
* `Json.Alike`: Documents that differ in literals alone.

## Theorems

* `AlikeEntries.keys`, `AlikeEntries.flags`: What alike objects have in common.
* `findings_of_alike`: Alike documents have the same findings.
* `build_of_alike`: They are refused for the same fault, or both are built.
-/

namespace WhereClause

namespace Json

/-- What a value is to the document that it stands in. -/
inductive Role where
  /-- The document itself, or an item that a comparison has nothing to do
      with. -/
  | document
  /-- What a key is given. -/
  | value (key : Key)
  /-- An item of what a comparison is given. -/
  | element (op : Comparison)

/-- The role of the items of an array. -/
def Role.item : Role → Role
  | .value (.comparison op) => .element op
  | _ => .document

/-- A single value that is not null. -/
def IsScalar (value : Json) : Prop :=
  value.kind ≠ .null ∧ value.kind ≠ .array ∧ value.kind ≠ .object

mutual

/-- Values that differ in literals alone, in a role. -/
inductive Alike : Role → Json → Json → Prop where
  | same (role : Role) (value : Json) : Alike role value value
  /-- A column is given another value. -/
  | scalar (name : String) (first second : Json) (hfirst : first.IsScalar)
      (hsecond : second.IsScalar) : Alike (.value (.field name)) first second
  /-- A column is compared with another value. -/
  | operand (op : Comparison) (ordinary : op.isSet = false) (first second : Json)
      (hfirst : first.kind ≠ .array) (hsecond : second.kind ≠ .array) :
      Alike (.value (.comparison op)) first second
  /-- A column is compared with other values. -/
  | element (op : Comparison) (set : op.isSet = true) (first second : Json)
      (hfirst : first.kind ≠ .array) (hsecond : second.kind ≠ .array) :
      Alike (.element op) first second
  /-- A column has to match another pattern. -/
  | pattern (first second : String) : Alike (.value .regex) (.text first) (.text second)
  /-- The difference is further down, and not in flags. -/
  | object (role : Role) (hrole : role ≠ .value .options)
      (first second : List (String × Json)) (entries : AlikeEntries first second) :
      Alike role (.object first) (.object second)
  | array (role : Role) (hrole : role ≠ .value .options) (first second : List Json)
      (items : AlikeItems role.item first second) : Alike role (.array first) (.array second)

/-- Entries with the same keys whose values are alike. -/
inductive AlikeEntries : List (String × Json) → List (String × Json) → Prop where
  | nil : AlikeEntries [] []
  | cons (raw : String) (first second : Json) (firsts seconds : List (String × Json))
      (value : Alike (.value (Key.ofText raw)) first second)
      (rest : AlikeEntries firsts seconds) :
      AlikeEntries ((raw, first) :: firsts) ((raw, second) :: seconds)

inductive AlikeItems : Role → List Json → List Json → Prop where
  | nil (role : Role) : AlikeItems role [] []
  | cons (role : Role) (first second : Json) (firsts seconds : List Json)
      (item : Alike role first second) (rest : AlikeItems role firsts seconds) :
      AlikeItems role (first :: firsts) (second :: seconds)

end

-- Flags and keys are fixed, so looking for them makes no difference.
theorem AlikeEntries.keys {first second : List (String × Json)} (h : AlikeEntries first second) :
    first.map Prod.fst = second.map Prod.fst := by
  induction first generalizing second with
  | nil =>
      cases h
      rfl
  | cons entry rest ih =>
      cases h with
      | cons raw _ _ _ seconds value hrest => rw [List.map_cons, List.map_cons, ih hrest]

/-- Alike objects have the same flags, since flags are not a literal and alike
    values of their key are equal. -/
theorem AlikeEntries.flags {first second : List (String × Json)} (h : AlikeEntries first second) :
    lookup Key.options.keyword first = lookup Key.options.keyword second := by
  induction first generalizing second with
  | nil =>
      cases h
      rfl
  | cons entry rest ih =>
      cases h with
      | cons raw value other _ seconds hvalue hrest =>
          simp only [lookup, List.find?_cons]
          by_cases hraw : raw = Key.options.keyword
          · have hoptions : Key.ofText raw = .options := by
              rw [hraw]
              decide
            rw [hoptions] at hvalue
            -- The only entries that a lookup of flags can stop at are those of flags.
            have heq : value = other := by
              cases hvalue with
              | same => rfl
              | object _ hrole => exact absurd rfl hrole
              | array _ hrole => exact absurd rfl hrole
            rw [decide_eq_true hraw, heq]
          · rw [decide_eq_false hraw]
            exact ih hrest

/-- Of alike values both are arrays or none is. -/
theorem Alike.array_iff {role : Role} {first second : Json} (h : Alike role first second) :
    first.kind = .array ↔ second.kind = .array := by
  cases h with
  | same => exact Iff.rfl
  | scalar _ _ _ hfirst hsecond => exact iff_of_false hfirst.2.1 hsecond.2.1
  | operand _ _ _ _ hfirst hsecond => exact iff_of_false hfirst hsecond
  | element _ _ _ _ hfirst hsecond => exact iff_of_false hfirst hsecond
  | pattern => exact Iff.rfl
  | object => exact Iff.rfl
  | array => exact Iff.rfl

end Json

namespace Filter

open Json

/-! ## The same findings -/

/-- What is noted of an object before its keys depends on which keys it has. -/
theorem objectFindings_of_alike (place : Place) (depth : Nat)
    {first second : List (String × Json)} (h : AlikeEntries first second) :
    objectFindings place depth first = objectFindings place depth second := by
  have hempty : first.isEmpty = second.isEmpty := by
    cases h <;> rfl
  -- Both lists have the same keys in the same order.
  have hkeys : ∀ key, HasKey key first ↔ HasKey key second := by
    intro key
    have hmem : ∀ entries, HasKey key entries ↔ key ∈ entries.map Prod.fst := fun entries =>
      List.mem_map.symm
    rw [hmem, hmem, h.keys]
  simp only [objectFindings, hempty, hkeys]

theorem isEmpty_of_alike {role : Role} {first second : List Json}
    (h : AlikeItems role first second) : first.isEmpty = second.isEmpty := by
  cases h <;> rfl

/-- Among alike items there is an array in both lists or in none. -/
theorem any_array_of_alike {role : Role} {first second : List Json}
    (h : AlikeItems role first second) :
    first.any (·.kind = .array) = second.any (·.kind = .array) := by
  induction first generalizing second with
  | nil =>
      cases h
      rfl
  | cons item rest ih =>
      cases h with
      | cons _ _ other _ others hitem hrest =>
          rw [List.any_cons, List.any_cons, ih hrest, decide_eq_decide.2 hitem.array_iff]

-- No operand of an ordinary comparison but an array is refused.
theorem operandReasons_of_ordinary (op : Comparison) (ordinary : op.isSet = false) (value : Json)
    (h : value.kind ≠ .array) : operandReasons op value = [] := by
  cases value with
  | array items => exact absurd rfl h
  | _ => simp only [operandReasons, ordinary, Bool.false_eq_true, if_false]

/-- What is wrong with a value is the same for those that are alike. -/
theorem valueReasons_of_alike (field : Option String) (flags : Option Json) (key : Key)
    {first second : Json} (h : Alike (.value key) first second) :
    valueReasons field flags key first = valueReasons field flags key second := by
  cases h with
  | same => rfl
  | scalar name _ _ hfirst hsecond =>
      rw [valueReasons, valueReasons, if_neg hfirst.2.1, if_neg hsecond.2.1]
  | operand op ordinary _ _ hfirst hsecond =>
      rw [valueReasons, valueReasons, operandReasons_of_ordinary op ordinary first hfirst,
        operandReasons_of_ordinary op ordinary second hsecond]
  | pattern => rfl
  | object => cases key <;> rfl
  | array _ _ firsts seconds items =>
      cases key with
      | comparison op =>
          simp only [valueReasons, operandReasons, isEmpty_of_alike items,
            any_array_of_alike items]
      | logical op => simp only [valueReasons, logicalReasons, isEmpty_of_alike items]
      | field name | regex | options => rfl

-- The induction is on the relation, over all of it at once. Its role is an
-- index, so what the role has to be is an equation beside it.

mutual

/-- Alike documents have the same findings at the same place. -/
theorem findings_of_alike (field : Option String) (place : Place) (depth : Nat)
    (notObject : Json.Kind → Fault.Reason) {role : Role} (hrole : role = .document)
    {first second : Json} :
    Alike role first second →
      documentFindings field place depth notObject first =
        documentFindings field place depth notObject second
  | .same _ _ => rfl
  | .object _ _ firsts seconds entries => by
      rw [documentFindings, documentFindings, objectFindings_of_alike place depth entries,
        entries.flags, entriesFindings_of_alike field place depth _ entries]
  | .array _ _ _ _ _ => rfl
  -- The other rules are about values in other roles.
  | .scalar .. | .operand .. | .element .. | .pattern .. => nomatch hrole

/-- So do alike objects key by key, each with its own flags. -/
theorem entriesFindings_of_alike (field : Option String) (place : Place) (depth : Nat)
    (flags : Option Json) {first second : List (String × Json)} :
    AlikeEntries first second →
      entriesFindings field place depth flags first =
        entriesFindings field place depth flags second
  | .nil => rfl
  | .cons raw _ _ _ _ value rest => by
      rw [entriesFindings, entriesFindings, valueReasons_of_alike field flags _ value,
        innerFindings_of_alike _ depth _ rfl value,
        entriesFindings_of_alike field place depth flags rest]

/-- So do alike values below a key. A literal has no documents below it, so what
    it is makes no difference there. -/
theorem innerFindings_of_alike (place : Place) (depth : Nat) (key : Key) {role : Role}
    (hrole : role = .value key) {first second : Json} :
    Alike role first second →
      innerFindings place depth key first = innerFindings place depth key second
  | .same _ _ => rfl
  | .scalar name first second hfirst hsecond => by
      cases hrole
      rw [innerFindings_eq_nil place depth (.field name) first (fun _ _ => hfirst.2.2) nofun,
        innerFindings_eq_nil place depth (.field name) second (fun _ _ => hsecond.2.2) nofun]
  | .operand op _ first second _ _ => by
      cases hrole
      rw [innerFindings_eq_nil place depth (.comparison op) first nofun nofun,
        innerFindings_eq_nil place depth (.comparison op) second nofun nofun]
  | .element .. => nomatch hrole
  | .pattern _ _ => rfl
  | .object _ _ firsts seconds entries => by
      cases key with
      | field name =>
          rw [innerFindings, innerFindings, objectFindings_of_alike place _ entries,
            entries.flags, entriesFindings_of_alike (some name) place _ _ entries]
      | comparison op | logical op | regex | options => rfl
  | .array role _ firsts seconds items => by
      cases key with
      | logical op =>
          -- Below a connective the items are documents.
          have hitem : role.item = .document := by rw [hrole, Role.item]; nofun
          rw [innerFindings, innerFindings, itemsFindings_of_alike place depth 0 hitem items]
      | field name | comparison op | regex | options => rfl

theorem itemsFindings_of_alike (place : Place) (depth index : Nat) {role : Role}
    (hrole : role = .document) {first second : List Json} :
    AlikeItems role first second →
      itemsFindings place depth index first = itemsFindings place depth index second
  | .nil _ => rfl
  | .cons _ _ _ _ _ item rest => by
      rw [itemsFindings, itemsFindings, findings_of_alike none _ _ _ hrole item,
        itemsFindings_of_alike place depth (index + 1) hrole rest]

end

/-- Alike documents are refused for the same fault, or both are built. -/
theorem build_of_alike (limit : Nat) {first second : Json} (h : Alike .document first second) :
    (∃ fault, (build limit first).outcome = .error fault ∧
      (build limit second).outcome = .error fault) ∨
    ∃ filter other, (build limit first).outcome = .ok filter ∧
      (build limit second).outcome = .ok other := by
  have hfaults : faults limit first = faults limit second :=
    congrArg (faultsIn limit) (findings_of_alike none [] 1 .rootNotObject rfl h)
  have hfirst := reports_build limit first
  have hsecond := reports_build limit second
  rw [hfaults] at hfirst
  -- The faults are the same, so each is the first of both or of none.
  have hiff : ∀ fault, (build limit first).outcome = .error fault ↔
      (build limit second).outcome = .error fault := fun fault =>
    (hfirst fault).trans (hsecond fault).symm
  cases hbuild : (build limit first).outcome with
  | error fault => exact Or.inl ⟨fault, rfl, (hiff fault).1 hbuild⟩
  | ok filter =>
      cases hother : (build limit second).outcome with
      | error fault =>
          have herror := (hiff fault).2 hother
          rw [hbuild] at herror
          cases herror
      | ok other => exact Or.inr ⟨filter, other, rfl, rfl⟩

end Filter

end WhereClause
