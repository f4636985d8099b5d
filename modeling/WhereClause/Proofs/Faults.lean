import WhereClause.Proofs.Building
import WhereClause.Proofs.Places

/-!
# The First Fault

Which of its faults a document is refused for.

A document can have many faults, and the pass over it reports one. Here all
of them are listed, in the order in which they stand in the document, and
nothing in the list stops at anything: the faults behind a fault are listed
just as they would be without it. The pass reports the first of the list, and
it succeeds exactly where the list is empty.

An object comes before its keys, and a key before what lies below it. What
can be wrong with an object as a whole is how deep it lies, that it is empty,
and that its flags have no pattern beside them. What can be wrong with a key
is the key itself, or else the value that it has been given. A key that is
unknown has no meaning, so nothing is said about its value, and flags are
looked at by the pattern beside them.

How deep an object lies is a fault only if the limit is lower. The list is
therefore made in two steps. `findings` notes the depth of each object along
with the faults, and no limit enters. `faults` turns the depths that exceed a
limit into faults and drops the others.

A fault of a value comes with the steps to it from the root, and each part of
the list writes out the steps that it adds. Every such place is a place in the
document: the steps lead to a value in it, through keys and positions that are
there. The flags of an object are reported at their key, everything else that
is wrong with an object at the object.

That the first of a list is what a computation ends with is the relation
`Reports`. It survives sequencing: the faults of one part come before the
faults of the next, and if the first part has any, the second is never run.

## Main definitions

* `Finding`: What is noted about a document, whatever the limit is.
* `valueReasons`: What is wrong with the value of a key.
* `findings`: What is noted about a document, in order.
* `faults`: The faults of a document under a limit, in order.
* `Reports`: A computation that fails with the first of several faults.
* `Within`: Findings at places inside of a value.

## Theorems

* `Reports.bind`: Reports follow each other like the parts of a sequence.
* `reports_checkObject`, `reports_condition`, `reports_conjunction`: The parts
  of the pass that are not recursive.
* `reports_buildEntries`, `reports_buildKey`, `reports_buildItems`: The
  recursion.
* `reports_build`: The pass reports the faults of the document.
* `within_documentFindings`, `leads_of_mem_faults`: The places of the faults.
* `build_eq_error_iff`: So it is refused if it has a fault, for the first one.
-/

namespace WhereClause

/-- What is noted about a document, whatever the limit is. -/
inductive Finding where
  /-- An object that is a filter lies so deep. -/
  | level (depth : Nat)
  /-- A key looks like an operator and is none. -/
  | unsupported (key : String)
  /-- A value does not fit where it stands. -/
  | malformed (place : Place) (reason : Fault.Reason)
deriving Repr

/-- The fault that a finding is under a limit. -/
def Finding.fault? (limit : Nat) : Finding → Option Fault
  | .level depth => if limit < depth then some (.tooDeep limit) else none
  | .unsupported key => some (.unsupported key)
  | .malformed place reason => some (.malformed ⟨place⟩ reason)

namespace Filter

/-! ## The faults of a document -/

/-- An object that has a key, at least once. -/
def HasKey (key : String) (entries : List (String × Json)) : Prop :=
  ∃ entry ∈ entries, entry.1 = key

instance (key : String) (entries : List (String × Json)) : Decidable (HasKey key entries) :=
  inferInstanceAs (Decidable (∃ entry ∈ entries, entry.1 = key))

instance (raw : String) : Decidable (Key.IsKnown raw) :=
  inferInstanceAs (Decidable (Key.hasSigil raw = true → ∃ key ∈ Key.operators, key.keyword = raw))

/-- What is noted about an object before its keys. -/
def objectFindings (place : Place) (depth : Nat) (entries : List (String × Json)) :
    List Finding :=
  .level depth ::
    ((if entries.isEmpty then [.malformed place .emptyObject] else []) ++
      if HasKey "$options" entries ∧ ¬HasKey "$regex" entries then
        [.malformed (place ++ [.key "$options"]) .flagsAlone]
      else [])

/-- What is wrong with a key that needs a column around it. -/
def fieldReasons (field : Option String) (key : Key) : List Fault.Reason :=
  if field.isNone then [.outsideField key.keyword] else []

/-- What is wrong with the operand of a comparison. -/
def operandReasons (op : Comparison) : Json → List Fault.Reason
  | .array items =>
      if op.isSet then
        (if items.isEmpty then [.setEmpty op] else []) ++
          if items.any (·.kind = .array) then [.setNested op] else []
      else [.operandArray op]
  | operand => if op.isSet then [.setNotArray op operand.kind] else []

/-- What is wrong with the flags beside a pattern. -/
def flagReasons : Option Json → List Fault.Reason
  | none => []
  | some (.text letters) =>
      if letters.toList.all (· = 'i') then [] else [.unknownFlags (.text letters)]
  | some flags => [.unknownFlags flags]

/-- What is wrong with a pattern. -/
def patternReasons : Json → List Fault.Reason
  | .text _ => []
  | value => [.patternNotText value.kind]

/-- What is wrong with the operand of a connective. -/
def logicalReasons (op : Connective) : Json → List Fault.Reason
  | .array items => if items.isEmpty then [.logicalEmpty op] else []
  | operand => [.logicalNotArray op operand.kind]

/-- What is wrong with the value of a key, apart from what lies below it. -/
def valueReasons (field : Option String) (flags : Option Json) (key : Key) (value : Json) :
    List Fault.Reason :=
  match key with
  | .field _ => if value.kind = .array then [.fieldArray] else []
  | .comparison op => fieldReasons field key ++ operandReasons op value
  | .logical op => logicalReasons op value
  | .regex => fieldReasons field key ++ (patternReasons value ++ flagReasons flags)
  | .options => []

mutual

/-- What is noted about a value that has to be a document, in the object that
    `field` encloses if there is one. -/
def documentFindings (field : Option String) (place : Place) (depth : Nat)
    (notObject : Json.Kind → Fault.Reason) : Json → List Finding
  | .object entries =>
      objectFindings place depth entries ++
        entriesFindings field place depth (Json.lookup Key.options.keyword entries) entries
  | value => [.malformed place (notObject value.kind)]

/-- What is noted about the keys of an object, from one of them on. -/
def entriesFindings (field : Option String) (place : Place) (depth : Nat)
    (flags : Option Json) : List (String × Json) → List Finding
  | [] => []
  | (raw, value) :: rest =>
      -- A value has no meaning below a key that has none.
      (if Key.IsKnown raw then
        (valueReasons field flags (Key.ofText raw) value).map
            (.malformed (place ++ [.key raw])) ++
          innerFindings (place ++ [.key raw]) depth (Key.ofText raw) value
      else [.unsupported raw]) ++
        entriesFindings field place depth flags rest

/-- What is noted about the documents below a key. -/
def innerFindings (place : Place) (depth : Nat) (key : Key) : Json → List Finding
  | .object entries =>
      match key with
      | .field name =>
          objectFindings place (depth + 1) entries ++
            entriesFindings (some name) place (depth + 1)
              (Json.lookup Key.options.keyword entries) entries
      | _ => []
  | .array items =>
      match key with
      | .logical _ => itemsFindings place depth 0 items
      | _ => []
  | _ => []

/-- What is noted about the items of a connective, from one of them on. -/
def itemsFindings (place : Place) (depth index : Nat) : List Json → List Finding
  | [] => []
  | item :: rest =>
      documentFindings none (place ++ [.item index]) (depth + 1) .itemNotObject item ++
        itemsFindings place depth (index + 1) rest

end

/-- What is noted about a document, in the order of the document. -/
def findings (document : Json) : List Finding :=
  documentFindings none [] 1 .rootNotObject document

/-- The findings that are faults under a limit. -/
def faultsIn (limit : Nat) (findings : List Finding) : List Fault :=
  findings.filterMap (Finding.fault? limit)

/-- The faults of a document, in the order of the document. -/
def faults (limit : Nat) (document : Json) : List Fault :=
  faultsIn limit (findings document)

theorem faultsIn_append (limit : Nat) (first second : List Finding) :
    faultsIn limit (first ++ second) = faultsIn limit first ++ faultsIn limit second :=
  List.filterMap_append

-- Faults of values do not depend on the limit.
theorem faultsIn_malformed (limit : Nat) (place : Place) (reasons : List Fault.Reason) :
    faultsIn limit (reasons.map (.malformed place)) = reasons.map (.malformed ⟨place⟩) := by
  induction reasons with
  | nil => rfl
  | cons reason rest ih => exact congrArg (Fault.malformed ⟨place⟩ reason :: ·) ih

/-- An object that lies too deep is a fault before all that is in it. -/
theorem faultsIn_level (limit depth : Nat) (rest : List Finding) :
    faultsIn limit (.level depth :: rest) =
      (if limit < depth then [.tooDeep limit] else []) ++ faultsIn limit rest := by
  by_cases h : limit < depth
  · simp only [faultsIn, List.filterMap_cons, Finding.fault?, h, if_true, List.singleton_append]
  · simp only [faultsIn, List.filterMap_cons, Finding.fault?, h, if_false, List.nil_append]

-- Nothing lies below a key but documents below a column or a connective.
theorem innerFindings_eq_nil (place : Place) (depth : Nat) (key : Key) (value : Json)
    (hfield : ∀ name, key = .field name → value.kind ≠ .object)
    (hlogical : ∀ op, key = .logical op → value.kind ≠ .array) :
    innerFindings place depth key value = [] := by
  cases value with
  | object entries =>
      cases key with
      | field name => exact absurd rfl (hfield name rfl)
      | _ => rfl
  | array items =>
      cases key with
      | logical op => exact absurd rfl (hlogical op rfl)
      | _ => rfl
  | _ => rfl

/-! ## Reports -/

variable {α β : Type}

/-- A computation fails with the first of several faults, and succeeds if
    there are none. -/
def Reports (outcome : Except Fault α) (faults : List Fault) : Prop :=
  ∀ fault, outcome = .error fault ↔ faults.head? = some fault

theorem reports_ok (a : α) : Reports (.ok a) [] :=
  fun _ => ⟨nofun, nofun⟩

theorem reports_error (fault : Fault) (rest : List Fault) :
    Reports (.error fault : Except Fault α) (fault :: rest) := by
  intro other
  rw [List.head?_cons, Option.some.injEq, Except.error.injEq]

-- No fault is ahead of those of the second part if the first part succeeds.
theorem Reports.eq_nil {a : α} {faults : List Fault} (h : Reports (.ok a) faults) :
    faults = [] := by
  cases faults with
  | nil => rfl
  | cons fault rest =>
      have herror := (h fault).2 rfl
      cases herror

/-- In a sequence the faults of the first part come first. The second part
    has to report its own only if it is run. -/
theorem Reports.bind {first : Except Fault α} {second : α → Except Fault β}
    {faults rest : List Fault} (h : Reports first faults)
    (hrest : ∀ a, first = .ok a → Reports (second a) rest) :
    Reports (first >>= second) (faults ++ rest) := by
  cases first with
  | error fault =>
      -- The sequence ends here, and so does what counts of the list.
      have hhead := (h fault).1 rfl
      intro other
      rw [List.head?_append, hhead, Option.some_or, Option.some.injEq]
      show Except.error fault = Except.error other ↔ fault = other
      rw [Except.error.injEq]
  | ok a =>
      rw [h.eq_nil, List.nil_append]
      exact hrest a rfl

theorem Reports.bind_pure {first : Except Fault α} {faults : List Fault} (f : α → β)
    (h : Reports first faults) : Reports (first >>= fun a => .ok (f a)) faults := by
  have hseq : Reports (first >>= fun a => .ok (f a)) (faults ++ []) :=
    h.bind fun a _ => reports_ok (f a)
  rw [List.append_nil] at hseq
  exact hseq

/-! ## The parts of the pass -/

/-- An object is refused for the first thing that is wrong with it as a whole. -/
theorem reports_checkObject (limit : Nat) (route : Route) (depth : Nat)
    (entries : List (String × Json)) :
    Reports (checkObject limit route depth entries)
      (faultsIn limit (objectFindings route.steps depth entries)) := by
  have hhas : ∀ key, HasKey key entries ↔ (Json.lookup key entries).isSome := fun key =>
    (isSome_lookup_iff key entries).symm
  have halone : ((Json.lookup Key.options.keyword entries).isSome &&
      (Json.lookup Key.regex.keyword entries).isNone) = true ↔
      HasKey "$options" entries ∧ ¬HasKey "$regex" entries := by
    show _ ↔ HasKey Key.options.keyword entries ∧ ¬HasKey Key.regex.keyword entries
    rw [Bool.and_eq_true, hhas, hhas, Option.isNone_iff_eq_none, Option.not_isSome_iff_eq_none]
  unfold checkObject objectFindings
  -- The three checks in the order in which they are made. The first that fails
  -- decides.
  by_cases hdepth : limit < depth
  · rw [if_pos hdepth, faultsIn_level, if_pos hdepth]
    exact reports_error _ _
  · rw [if_neg hdepth, faultsIn_level, if_neg hdepth, List.nil_append]
    by_cases hempty : entries.isEmpty = true
    · rw [if_pos hempty, if_pos hempty]
      exact reports_error _ _
    · rw [if_neg hempty, if_neg hempty, List.nil_append]
      by_cases hflags : HasKey "$options" entries ∧ ¬HasKey "$regex" entries
      · rw [if_pos hflags, if_pos (halone.2 hflags)]
        exact reports_error _ _
      · rw [if_neg hflags, if_neg fun h => hflags (halone.1 h)]
        exact reports_ok ()

theorem reports_requireField (field : Option String) (key : Key) (route : Route) :
    Reports (requireField field key route) ((fieldReasons field key).map (.malformed route)) := by
  cases field with
  | none => exact reports_error _ _
  | some column => exact reports_ok column

/-- A set operator needs a list that has items, and no list among them. -/
theorem reports_membership (column : String) (op : Comparison) (route : Route) (operand : Json)
    (hset : op.isSet = true) :
    Reports (membership column op route operand)
      ((operandReasons op operand).map (.malformed route)) := by
  cases operand with
  | array items =>
      simp only [operandReasons, hset, if_true]
      cases items with
      | nil => exact reports_error _ _
      | cons first rest =>
          unfold membership
          by_cases hnested : (first :: rest).any (·.kind = .array) = true
          · simp only [hnested, if_true]
            exact reports_error _ _
          · simp only [hnested]
            exact reports_ok _
  | null | bool _ | number _ | text _ | object _ =>
      simp only [operandReasons, hset, if_true]
      exact reports_error _ _

/-- The operands of all comparisons are checked, those of set operators and the
    others. -/
theorem reports_comparison (column : String) (op : Comparison) (route : Route) (operand : Json) :
    Reports (comparison column op route operand).outcome
      ((operandReasons op operand).map (.malformed route)) := by
  unfold comparison
  -- A set operator needs a list, and any other one must not have one.
  by_cases hset : op.isSet = true
  · rw [if_pos hset]
    exact reports_membership column op route operand hset
  · rw [if_neg hset]
    cases operand with
    | array items =>
        simp only [operandReasons, hset]
        exact reports_error _ _
    | null | bool _ | number _ | text _ | object _ =>
        simp only [operandReasons, hset]
        exact reports_ok _

/-- Flags have to be a text, in which there is only the one letter. -/
theorem reports_ignoresCase (flags : Option Json) (route : Route) :
    Reports (ignoresCase flags route) ((flagReasons flags).map (.malformed route)) := by
  cases flags with
  | none => exact reports_ok false
  | some flags =>
      cases flags with
      | text letters =>
          unfold ignoresCase flagReasons
          by_cases hall : letters.toList.all (· = 'i') = true
          · simp only [hall, if_true]
            exact reports_ok _
          · simp only [hall]
            exact reports_error _ _
      | null | bool _ | number _ | array _ | object _ => exact reports_error _ _

/-- The pattern is looked at before its flags. -/
theorem reports_pattern (column : String) (flags : Option Json) (route : Route) (value : Json) :
    Reports (pattern column flags route value)
      ((patternReasons value ++ flagReasons flags).map (.malformed route)) := by
  cases value with
  | text text =>
      -- Behind a pattern that is a text only the flags can be wrong.
      have hpattern : pattern column flags route (.text text) =
          ignoresCase flags route >>= fun ignoreCase => .ok (.regex column text ignoreCase) := by
        unfold pattern
        cases ignoresCase flags route <;> rfl
      rw [hpattern]
      exact (reports_ignoresCase flags route).bind_pure _
  | null | bool _ | number _ | array _ | object _ => exact reports_error _ _

/-- The condition of a key that has no documents below it. -/
theorem reports_condition (limit : Nat) (field : Option String) (route : Route) (depth : Nat)
    (flags : Option Json) (key : Key) (value : Json) (hkey : key ≠ .options)
    (hfield : ∀ name, key = .field name → value.kind ≠ .object)
    (hlogical : ∀ op, key = .logical op → value.kind ≠ .array) :
    Reports (condition field route flags key value).outcome
      (faultsIn limit ((valueReasons field flags key value).map (.malformed route.steps) ++
        innerFindings route.steps depth key value)) := by
  rw [innerFindings_eq_nil route.steps depth key value hfield hlogical, List.append_nil,
    faultsIn_malformed]
  cases key with
  | field name =>
      cases value with
      | array items => exact reports_error _ _
      | null | bool _ | number _ | text _ | object _ => exact reports_ok _
  | comparison op =>
      -- The column is asked for before the operand is looked at.
      simp only [condition, valueReasons, Traced.outcome_bind, List.map_append]
      exact (reports_requireField field _ route).bind fun column _ =>
        reports_comparison column op route value
  | logical op =>
      cases value with
      | array items => exact absurd rfl (hlogical op rfl)
      | null | bool _ | number _ | text _ | object _ => exact reports_error _ _
  | regex =>
      simp only [condition, valueReasons, Traced.outcome_bind]
      rw [List.map_append]
      exact (reports_requireField field _ route).bind fun column _ =>
        reports_pattern column flags route value
  | options => exact absurd rfl hkey

/-- An object, if the lemma about its keys is there already. -/
theorem reports_conjunction (limit : Nat) (route : Route) (depth : Nat)
    (entries : List (String × Json)) (conditions : Traced Fault (List Filter))
    (rest : List Finding) (h : Reports conditions.outcome (faultsIn limit rest)) :
    Reports (conjunction limit route depth entries conditions).outcome
      (faultsIn limit (objectFindings route.steps depth entries ++ rest)) := by
  rw [faultsIn_append]
  simp only [conjunction, Traced.outcome_bind]
  exact (reports_checkObject limit route depth entries).bind fun _ _ =>
    h.bind_pure ofConditions

/-- A key that is not known is refused as unsupported. -/
theorem classify_of_not_known (raw : String) (h : ¬Key.IsKnown raw) :
    Key.classify raw = .error (.unsupported raw) := by
  have hsigil : Key.hasSigil raw = true := by
    by_cases hyes : Key.hasSigil raw = true
    · exact hyes
    · exact absurd (fun hno => absurd hno hyes) h
  have hnone : (Key.operators.find? fun key => key.keyword = raw) = none := by
    refine List.find?_eq_none.2 fun key hmem heq => ?_
    exact h fun _ => ⟨key, hmem, of_decide_eq_true heq⟩
  rw [Key.classify, if_pos hsigil, hnone]

/-! ## The recursion -/

-- The induction is on the document, for all routes and depths under one limit.

mutual

/-- The keys of an object are taken in order, so the first key with a fault
    decides. -/
theorem reports_buildEntries (limit : Nat) (field : Option String) (route : Route) (depth : Nat)
    (flags : Option Json) :
    (entries : List (String × Json)) →
      Reports (buildEntries limit field route depth flags entries).outcome
        (faultsIn limit (entriesFindings field route.steps depth flags entries))
  | [] => reports_ok []
  | (raw, value) :: rest => by
      have hrest := reports_buildEntries limit field route depth flags rest
      rw [buildEntries, entriesFindings, faultsIn_append, Traced.outcome_bind,
        Traced.outcome_ofExcept]
      by_cases hknown : Key.IsKnown raw
      · rw [if_pos hknown, (Key.classify_eq_ok_iff raw _).2 ⟨hknown, rfl⟩]
        by_cases hoptions : Key.ofText raw = .options
        · rw [hoptions, innerFindings_eq_nil _ depth .options value nofun nofun]
          exact hrest
        · -- The condition of the key, and then those of the other keys.
          have hvalue := reports_buildKey limit field (route.key raw) depth flags
            (Key.ofText raw) hoptions value
          show Reports (if Key.ofText raw = .options then _ else _ : Traced Fault _).outcome _
          rw [if_neg hoptions]
          simp only [Traced.outcome_bind]
          exact hvalue.bind fun condition _ => hrest.bind_pure (condition :: ·)
      · rw [if_neg hknown, classify_of_not_known raw hknown]
        exact reports_error _ _

/-- A key reports what is wrong with its value, and then what is wrong below it. -/
theorem reports_buildKey (limit : Nat) (field : Option String) (route : Route) (depth : Nat)
    (flags : Option Json) (key : Key) (hkey : key ≠ .options) :
    (value : Json) →
      Reports (buildKey limit field route depth flags key value).outcome
        (faultsIn limit ((valueReasons field flags key value).map (.malformed route.steps) ++
          innerFindings route.steps depth key value))
  | .object entries => by
      cases key with
      | field name =>
          exact reports_conjunction limit route (depth + 1) entries _ _
            (reports_buildEntries limit (some name) route (depth + 1) _ entries)
      | comparison op | logical op | regex | options =>
          exact reports_condition limit field route depth flags _ _ hkey nofun nofun
  | .array items => by
      cases key with
      | logical op =>
          have hitems := reports_buildItems limit route depth 0 items
          cases items with
          | nil => exact reports_error _ _
          | cons first rest =>
              -- With an item in it the array itself is fine.
              have hbuild : (buildKey limit field route depth flags (.logical op)
                  (.array (first :: rest))).outcome =
                  (buildItems limit route depth 0 (first :: rest)).outcome >>=
                    fun children => .ok (Filter.logical op children) := by
                show Traced.outcome (_ >>= fun children => pure (Filter.logical op children)) = _
                rw [Traced.outcome_bind]
                rfl
              rw [hbuild]
              exact hitems.bind_pure (Filter.logical op)
      | field name | comparison op | regex | options =>
          exact reports_condition limit field route depth flags _ _ hkey nofun nofun
  | .null | .bool _ | .number _ | .text _ =>
      reports_condition limit field route depth flags key _ hkey nofun nofun

/-- The items of a connective are taken in order as well. -/
theorem reports_buildItems (limit : Nat) (route : Route) (depth index : Nat) :
    (items : List Json) →
      Reports (buildItems limit route depth index items).outcome
        (faultsIn limit (itemsFindings route.steps depth index items))
  | [] => reports_ok []
  | .object entries :: rest => by
      have hrest := reports_buildItems limit route depth (index + 1) rest
      have hfirst := reports_conjunction limit (route.item index) (depth + 1) entries _ _
        (reports_buildEntries limit none (route.item index) (depth + 1)
          (Json.lookup Key.options.keyword entries) entries)
      rw [buildItems, itemsFindings, documentFindings, faultsIn_append]
      simp only [Traced.outcome_bind]
      exact hfirst.bind fun child _ => hrest.bind_pure (child :: ·)
  | .array _ :: _ | .null :: _ | .bool _ :: _ | .number _ :: _ | .text _ :: _ =>
      reports_error _ _

end

/-- The pass reports the faults of the document. -/
theorem reports_build (limit : Nat) (document : Json) :
    Reports (build limit document).outcome (faults limit document) := by
  cases document with
  | object entries =>
      exact reports_conjunction limit .root 1 entries _ _
        (reports_buildEntries limit none .root 1 _ entries)
  | null | bool _ | number _ | text _ | array _ => exact reports_error _ _

/-! ## The places -/

/-- What is found is at places inside of a value, which is itself at a place. -/
def Within (place : Place) (value : Json) (found : List Finding) : Prop :=
  ∀ spot reason, .malformed spot reason ∈ found →
    ∃ steps inner, spot = place ++ steps ∧ Leads value steps inner

theorem within_nil (place : Place) (value : Json) : Within place value [] :=
  nofun

/-- Two parts can be found one after another. -/
theorem Within.append {place : Place} {value : Json} {first second : List Finding}
    (h : Within place value first) (h' : Within place value second) :
    Within place value (first ++ second) := by
  intro spot reason hmem
  rcases List.mem_append.1 hmem with hmem | hmem
  · exact h spot reason hmem
  · exact h' spot reason hmem

/-- The value itself is inside of the value. -/
theorem within_reasons (place : Place) (value : Json) (reasons : List Fault.Reason) :
    Within place value (reasons.map (.malformed place)) := by
  intro spot reason hmem
  rcases List.mem_map.1 hmem with ⟨other, _, heq⟩
  cases heq
  exact ⟨[], value, (List.append_nil place).symm, .here value⟩

/-- What is inside of a value is inside of any value that a step leads to it
    from. -/
theorem Within.step {place : Place} {step : Route.Step} {outer inner : Json}
    {found : List Finding} (h : Within (place ++ [step]) inner found)
    (hstep : ∀ rest value, Leads inner rest value → Leads outer (step :: rest) value) :
    Within place outer found := by
  intro spot reason hspot
  rcases h spot reason hspot with ⟨steps, value, rfl, hleads⟩
  exact ⟨step :: steps, value, List.append_assoc .., hstep steps value hleads⟩

theorem Within.entry {place : Place} {entries : List (String × Json)} {name : String}
    {inner : Json} {found : List Finding} (h : Within (place ++ [.key name]) inner found)
    (hmem : (name, inner) ∈ entries) : Within place (.object entries) found :=
  h.step fun _ _ hleads => .key hmem hleads

theorem Within.item {place : Place} {items : List Json} {index : Nat} {inner : Json}
    {found : List Finding} (h : Within (place ++ [.item index]) inner found)
    (hget : items[index]? = some inner) : Within place (.array items) found :=
  h.step fun _ _ hleads => .item hget hleads

/-- An object as a whole is refused at itself, or at the key of its flags. -/
theorem within_objectFindings (place : Place) (depth : Nat) (entries : List (String × Json)) :
    Within place (.object entries) (objectFindings place depth entries) := by
  intro spot reason hmem
  rcases List.mem_cons.1 hmem with heq | hmem
  · cases heq
  · refine Within.append ?_ ?_ spot reason hmem
    · by_cases h : entries.isEmpty = true
      · rw [if_pos h]
        exact within_reasons place _ [.emptyObject]
      · rw [if_neg h]
        exact within_nil place _
    · by_cases h : HasKey "$options" entries ∧ ¬HasKey "$regex" entries
      · rw [if_pos h]
        -- The flags are there, since they are what is refused.
        rcases h.1 with ⟨entry, hentry, hkey⟩
        rw [← hkey]
        exact (within_reasons _ entry.2 [.flagsAlone]).entry hentry
      · rw [if_neg h]
        exact within_nil place _

-- The induction is on the document. The keys and the items that are left are
-- followed together with the object or the array that they belong to.

mutual

/-- What is found in a document is found inside of it. -/
theorem within_documentFindings (field : Option String) (place : Place) (depth : Nat)
    (notObject : Json.Kind → Fault.Reason) :
    (document : Json) →
      Within place document (documentFindings field place depth notObject document)
  | .object entries => by
      rw [documentFindings]
      exact (within_objectFindings place depth entries).append
        (within_entriesFindings field place depth _ entries entries fun _ hmem => hmem)
  | .null | .bool _ | .number _ | .text _ | .array _ => within_reasons place _ [_]

/-- What is found behind some of the keys is found inside of the object. -/
theorem within_entriesFindings (field : Option String) (place : Place) (depth : Nat)
    (flags : Option Json) (entries : List (String × Json)) :
    (left : List (String × Json)) → (∀ entry ∈ left, entry ∈ entries) →
      Within place (.object entries) (entriesFindings field place depth flags left)
  | [], _ => within_nil place _
  | (raw, value) :: rest, hsub => by
      have hmem : (raw, value) ∈ entries := hsub _ List.mem_cons_self
      have hrest := within_entriesFindings field place depth flags entries rest
        fun entry hentry => hsub entry (List.mem_cons_of_mem _ hentry)
      rw [entriesFindings]
      refine Within.append ?_ hrest
      by_cases hknown : Key.IsKnown raw
      · rw [if_pos hknown]
        exact ((within_reasons _ value _).append
          (within_innerFindings _ depth (Key.ofText raw) value)).entry hmem
      · rw [if_neg hknown]
        intro spot reason hspot
        cases List.mem_singleton.1 hspot

/-- What is found below a key is found inside of its value. -/
theorem within_innerFindings (place : Place) (depth : Nat) (key : Key) :
    (value : Json) → Within place value (innerFindings place depth key value)
  | .object entries => by
      cases key with
      | field name =>
          rw [innerFindings]
          exact (within_objectFindings place (depth + 1) entries).append
            (within_entriesFindings (some name) place (depth + 1) _ entries entries
              fun _ hmem => hmem)
      | comparison op | logical op | regex | options => exact within_nil place _
  | .array items => by
      cases key with
      | logical op =>
          refine within_itemsFindings place depth items 0 items fun offset => ?_
          rw [Nat.zero_add]
      | field name | comparison op | regex | options => exact within_nil place _
  | .null | .bool _ | .number _ | .text _ => within_nil place _

/-- What is found behind some of the items is found inside of the array. -/
theorem within_itemsFindings (place : Place) (depth : Nat) (items : List Json) (index : Nat) :
    (left : List Json) → (∀ offset, items[index + offset]? = left[offset]?) →
      Within place (.array items) (itemsFindings place depth index left)
  | [], _ => within_nil place _
  | item :: rest, hget => by
      -- The items that are left begin where the index says, so the next ones begin
      -- one later.
      have hrest := within_itemsFindings place depth items (index + 1) rest fun offset => by
        rw [Nat.add_assoc, Nat.add_comm 1, hget, List.getElem?_cons_succ]
      rw [itemsFindings]
      exact ((within_documentFindings none _ (depth + 1) _ item).item (hget 0)).append hrest

end

/-- The place of a fault is a place in the document. -/
theorem leads_of_mem_faults {limit : Nat} {document : Json} {route : Route}
    {reason : Fault.Reason} (h : .malformed route reason ∈ faults limit document) :
    ∃ value, Leads document route.steps value := by
  rcases List.mem_filterMap.1 h with ⟨finding, hmem, hfault⟩
  cases finding with
  | malformed place other =>
      cases hfault
      rcases within_documentFindings none [] 1 _ document place reason hmem with
        ⟨steps, value, rfl, hleads⟩
      exact ⟨value, hleads⟩
  | unsupported key => cases hfault
  | level depth =>
      -- A depth becomes a fault that has no place.
      by_cases hdeep : limit < depth
      · rw [Finding.fault?, if_pos hdeep] at hfault
        cases hfault
      · rw [Finding.fault?, if_neg hdeep] at hfault
        cases hfault

/-- A document is refused exactly if it has a fault, and for the first one. What
    a fault of a value names is a place in the document, as it is written. -/
theorem build_eq_error_iff (limit : Nat) (document : Json) :
    ((∃ fault, (build limit document).outcome = .error fault) ↔ faults limit document ≠ []) ∧
      (∀ fault, (build limit document).outcome = .error fault ↔
        (faults limit document).head? = some fault) ∧
      ∀ route reason, .malformed route reason ∈ faults limit document →
        route.text = Place.shown route.steps ∧ ∃ value, Leads document route.steps value := by
  have hreports := reports_build limit document
  refine ⟨?_, hreports, fun route reason hmem => ?_⟩
  · constructor
    · intro ⟨fault, herror⟩ hnil
      have hhead := (hreports fault).1 herror
      rw [hnil] at hhead
      cases hhead
    · intro hne
      rcases List.exists_cons_of_ne_nil hne with ⟨fault, rest, hcons⟩
      exact ⟨fault, (hreports fault).2 (by rw [hcons, List.head?_cons])⟩
  · exact ⟨Route.text_mk route.steps, leads_of_mem_faults hmem⟩

/-- A pattern that is none, below an item of a connective. -/
def refusedDocument : Json :=
  .object [("$or", .array [.object [("a", .null)],
    .object [("b", .object [("$regex", .bool true)])]])]

/-- It is refused for the pattern, which is named by the keys and the position on
    the way to it. -/
theorem build_eq_error_iff_nested :
    (build 3 refusedDocument).outcome =
        .error (.malformed ⟨[.key "$or", .item 1, .key "b", .key "$regex"]⟩
          (.patternNotText .boolean)) ∧
      Route.text ⟨[.key "$or", .item 1, .key "b", .key "$regex"]⟩ = "$or[1].b.$regex" ∧
      ∃ value, Leads refusedDocument [.key "$or", .item 1, .key "b", .key "$regex"] value := by
  have hiff := build_eq_error_iff 3 refusedDocument
  have hplace := hiff.2.2 ⟨[.key "$or", .item 1, .key "b", .key "$regex"]⟩
    (.patternNotText .boolean) List.mem_cons_self
  refine ⟨(hiff.2.1 _).2 rfl, ?_, hplace.2⟩
  rw [hplace.1]
  decide

-- The list does not end at a fault, and an object is noted before its keys.
example : faults 1 (.object [("$gt", .array []), ("a", .object [("$or", .text "x")]),
    ("$none", .null)]) =
      [.malformed ⟨[.key "$gt"]⟩ (.outsideField "$gt"),
        .malformed ⟨[.key "$gt"]⟩ (.operandArray .gt), .tooDeep 1,
        .malformed ⟨[.key "a", .key "$or"]⟩ (.logicalNotArray .or .text),
        .unsupported "$none"] := by
  rfl

end Filter

end WhereClause
