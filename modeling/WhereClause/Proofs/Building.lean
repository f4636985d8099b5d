import WhereClause.Proofs.Grammar

/-!
# Building and the Grammar

The pass over a document accepts the grammar and builds what it says.

Each function of the pass has a lemma that says when it succeeds and with
what, and all of them have the same shape: it succeeds if the grammar holds
of its part, no object in it lies too deep, and the result is what that part
means. The lemmas about the three functions of the recursion are proved
together, along the document, and each of them uses the lemmas about the
others for smaller parts.

The pass and the grammar disagree about where the flags of a pattern are
looked at. The grammar asks for them in the object, the pass looks at them
when it comes to the pattern, and not at all where there is none. `Fits` is
the grammar with the question asked at the pattern. Over a whole object both
are the same, since flags without a pattern are a fault of the object.

## Main definitions

* `Fits`: A condition, with the flags that stand beside it.

## Theorems

* `checkObject_eq_ok_iff`, `condition_eq_ok_iff`, `conjunction_eq_ok_iff`:
  The parts of the pass that are not recursive.
* `buildEntries_eq_ok_iff`, `buildKey_eq_ok_iff`, `buildItems_eq_ok_iff`: The
  recursion.
* `isDocument_of_build`: What is built is in the grammar.
* `build_of_isDocument_iff`: What is in the grammar is built unless it is
  nested too deeply.
* `build_eq_ok_iff`: A document is built if it is in the grammar and nested
  no deeper than allowed, and then into the filter it means.
-/

namespace WhereClause

namespace Filter

/-- A key is found in an object exactly if an entry has it. -/
theorem isSome_lookup_iff (key : String) (entries : List (String × Json)) :
    (Json.lookup key entries).isSome ↔ ∃ entry ∈ entries, entry.1 = key := by
  rw [Json.lookup, Option.isSome_map, List.find?_isSome]
  simp only [decide_eq_true_eq]

/-- An object passes as a whole if it is not too deep, has a key, and has a
    pattern wherever it has flags. -/
theorem checkObject_eq_ok_iff (limit : Nat) (route : Route) (depth : Nat)
    (entries : List (String × Json)) :
    checkObject limit route depth entries = .ok () ↔
      depth ≤ limit ∧ entries ≠ [] ∧
        ((Json.lookup Key.options.keyword entries).isSome →
          (Json.lookup Key.regex.keyword entries).isSome) := by
  unfold checkObject
  by_cases hdepth : limit < depth
  · rw [if_pos hdepth]
    exact ⟨nofun, fun h => absurd h.1 (Nat.not_le.2 hdepth)⟩
  · rw [if_neg hdepth]
    cases entries with
    | nil => exact ⟨nofun, fun h => absurd rfl h.2.1⟩
    | cons entry rest =>
        have hcons : (entry :: rest).isEmpty = false := rfl
        rw [hcons, if_neg Bool.false_ne_true]
        -- Only whether the two keys are there matters from here on.
        generalize Json.lookup Key.options.keyword (entry :: rest) = options
        generalize Json.lookup Key.regex.keyword (entry :: rest) = regex
        by_cases halone : (options.isSome && regex.isNone) = true
        · rw [if_pos halone]
          refine ⟨nofun, fun h => ?_⟩
          rcases Bool.and_eq_true_iff.1 halone with ⟨hoptions, hregex⟩
          rw [Option.isNone_iff_eq_none.1 hregex] at h
          exact absurd (h.2.2 hoptions) Bool.false_ne_true
        · rw [if_neg halone]
          refine ⟨fun _ => ⟨Nat.not_lt.1 hdepth, nofun, fun hoptions => ?_⟩, fun _ => rfl⟩
          cases regex with
          | some _ => rfl
          | none => exact absurd (Bool.and_eq_true_iff.2 ⟨hoptions, rfl⟩) halone

theorem requireField_eq_ok_iff (field : Option String) (key : Key) (route : Route)
    (column : String) : requireField field key route = .ok column ↔ field = some column := by
  cases field with
  | none => exact ⟨nofun, nofun⟩
  | some name => exact ⟨fun h => congrArg some (Except.ok.inj h), fun h => by cases h; rfl⟩

/-- The operand of a set operator has to be an array with an item at least and
    with no array among its items. -/
theorem membership_eq_ok_iff (column : String) (op : Comparison) (route : Route)
    (operand : Json) (filter : Filter) :
    membership column op route operand = .ok filter ↔
      (∃ items, operand = .array items ∧ items ≠ [] ∧ ∀ item ∈ items, item.kind ≠ .array) ∧
        filter = .compare column op (.ofJson operand) := by
  cases operand with
  | array items =>
      cases items with
      | nil => exact ⟨nofun, fun ⟨⟨_, h, hne, _⟩, _⟩ => absurd (Json.array.inj h).symm hne⟩
      | cons first rest =>
          -- Only an array that is not empty gets as far as its items.
          unfold membership
          dsimp only
          by_cases hnested : (first :: rest).any (·.kind = .array) = true
          · rw [if_pos hnested]
            refine ⟨nofun, fun ⟨⟨items, h, _, flat⟩, _⟩ => ?_⟩
            rcases List.any_eq_true.1 hnested with ⟨item, hmem, hkind⟩
            exact absurd (of_decide_eq_true hkind) (flat item (Json.array.inj h ▸ hmem))
          · rw [if_neg hnested]
            constructor
            · intro hok
              refine ⟨⟨_, rfl, nofun, fun item hmem hkind => ?_⟩, (Except.ok.inj hok).symm⟩
              exact hnested (List.any_eq_true.2 ⟨item, hmem, decide_eq_true hkind⟩)
            · intro h
              rw [h.2]
  | _ => exact ⟨nofun, nofun⟩

/-- What the operand of a comparison has to be depends on whether the comparison
    is a set operator. The filter is the same in either case. -/
theorem comparison_eq_ok_iff (column : String) (op : Comparison) (route : Route)
    (operand : Json) (filter : Filter) :
    (comparison column op route operand).outcome = .ok filter ↔
      (if op.isSet then
          ∃ items, operand = .array items ∧ items ≠ [] ∧ ∀ item ∈ items, item.kind ≠ .array
        else operand.kind ≠ .array) ∧ filter = .compare column op (.ofJson operand) := by
  unfold comparison
  by_cases hset : op.isSet = true
  · rw [if_pos hset, if_pos hset]
    exact membership_eq_ok_iff column op route operand filter
  · rw [if_neg hset, if_neg hset]
    cases operand with
    | array items => exact ⟨nofun, fun h => absurd rfl h.1⟩
    | _ => exact ⟨fun h => ⟨nofun, (Except.ok.inj h).symm⟩, fun h => congrArg Except.ok h.2.symm⟩

/-- Flags that are known decide about case, and no others do. -/
theorem ignoresCase_eq_ok_iff (flags : Option Json) (route : Route) (ignoreCase : Bool) :
    ignoresCase flags route = .ok ignoreCase ↔ FlagsKnown flags ∧ ignoreCase = hasFlag flags := by
  cases flags with
  | none => exact ⟨fun h => ⟨nofun, (Except.ok.inj h).symm⟩, fun h => congrArg Except.ok h.2.symm⟩
  | some flags =>
      cases flags with
      | text letters =>
          unfold ignoresCase
          dsimp only
          by_cases hall : letters.toList.all (· = 'i') = true
          · rw [if_pos hall]
            constructor
            · intro hok
              refine ⟨fun value hvalue => ?_, (Except.ok.inj hok).symm⟩
              refine ⟨letters, (Option.some.inj hvalue).symm, fun c hc => ?_⟩
              exact of_decide_eq_true (List.all_eq_true.1 hall c hc)
            · intro h
              rw [h.2]
              rfl
          · rw [if_neg hall]
            refine ⟨nofun, fun ⟨known, _⟩ => ?_⟩
            -- The flags are a text, so what is wrong is one of its letters.
            rcases known _ rfl with ⟨other, heq, hletters⟩
            cases heq
            exact absurd (List.all_eq_true.2 fun c hc => decide_eq_true (hletters c hc)) hall
      | _ =>
          refine ⟨nofun, fun ⟨known, _⟩ => ?_⟩
          rcases known _ rfl with ⟨letters, heq, _⟩
          cases heq

/-- A pattern is a text, with flags beside it that are known. -/
theorem pattern_eq_ok_iff (column : String) (flags : Option Json) (route : Route)
    (value : Json) (filter : Filter) :
    pattern column flags route value = .ok filter ↔
      ∃ text, value = .text text ∧ FlagsKnown flags ∧
        filter = .regex column text (hasFlag flags) := by
  cases value with
  | text text =>
      unfold pattern
      dsimp only
      -- The text itself is never refused, so the flags decide.
      cases h : ignoresCase flags route with
      | error fault =>
          refine ⟨nofun, fun ⟨_, _, known, _⟩ => ?_⟩
          have hok := (ignoresCase_eq_ok_iff flags route _).2 ⟨known, rfl⟩
          rw [h] at hok
          cases hok
      | ok ignoreCase =>
          rcases (ignoresCase_eq_ok_iff flags route ignoreCase).1 h with ⟨known, rfl⟩
          constructor
          · intro hok
            exact ⟨text, rfl, known, (Except.ok.inj hok).symm⟩
          · intro ⟨_, htext, _, hfilter⟩
            cases htext
            rw [hfilter]
            rfl
  | _ => exact ⟨nofun, nofun⟩

/-- A condition of the grammar beside whose pattern there are only flags that
    are known. -/
def Fits (field : Option String) (flags : Option Json) (key : Key) (value : Json) : Prop :=
  IsCondition field key value ∧ (key = .regex → FlagsKnown flags)

/-- Apart from the pattern no key looks at the flags. -/
theorem fits_iff_of_ne (field : Option String) (flags : Option Json) (key : Key) (value : Json)
    (h : key ≠ .regex) : Fits field flags key value ↔ IsCondition field key value :=
  and_iff_left fun heq => absurd heq h

theorem fits_options (field : Option String) (flags : Option Json) (value : Json) :
    Fits field flags .options value :=
  (fits_iff_of_ne field flags .options value nofun).2 (.options field value)

theorem keyNesting_options (value : Json) : keyNesting .options value = 0 := by
  cases value <;> rfl

/-- The condition of a key that has no filters below it. -/
theorem condition_eq_ok_iff (field : Option String) (route : Route) (flags : Option Json)
    (key : Key) (value : Json) (filter : Filter) (hkey : key ≠ .options)
    (hfield : ∀ name, key = .field name → value.kind ≠ .object)
    (hlogical : ∀ op, key = .logical op → value.kind ≠ .array) :
    (condition field route flags key value).outcome = .ok filter ↔
      Fits field flags key value ∧ filter = ofLeaf field flags key value := by
  unfold condition
  cases key with
  | field name =>
      rw [fits_iff_of_ne _ _ (.field name) _ nofun, isCondition_field_iff]
      have hclosed := hfield name rfl
      cases value with
      | array items => exact ⟨nofun, fun h => absurd rfl h.1.1⟩
      | object entries => exact absurd rfl hclosed
      | _ =>
          exact ⟨fun h => ⟨⟨nofun, nofun⟩, (Except.ok.inj h).symm⟩,
            fun h => congrArg Except.ok h.2.symm⟩
  | comparison op =>
      rw [fits_iff_of_ne _ _ (.comparison op) _ nofun, isCondition_comparison_iff]
      simp only [Traced.outcome_bind_eq_ok_iff, Traced.outcome_ofExcept, requireField_eq_ok_iff,
        comparison_eq_ok_iff]
      constructor
      · intro ⟨column, hcolumn, hoperand, hfilter⟩
        rw [hcolumn]
        exact ⟨⟨⟨column, rfl⟩, hoperand⟩, hfilter⟩
      · intro ⟨⟨⟨column, hcolumn⟩, hoperand⟩, hfilter⟩
        rw [hcolumn] at hfilter
        exact ⟨column, hcolumn, hoperand, hfilter⟩
  | logical op =>
      rw [fits_iff_of_ne _ _ (.logical op) _ nofun, isCondition_logical_iff]
      refine ⟨nofun, fun ⟨⟨items, harray, _⟩, _⟩ => ?_⟩
      rw [harray] at hlogical
      exact absurd rfl (hlogical op rfl)
  | regex =>
      -- The only key that looks at the flags.
      rw [Fits, isCondition_regex_iff]
      simp only [Traced.outcome_bind_eq_ok_iff, Traced.outcome_ofExcept, requireField_eq_ok_iff,
        pattern_eq_ok_iff, true_implies]
      constructor
      · intro ⟨column, hcolumn, text, htext, known, hfilter⟩
        rw [hcolumn, htext]
        exact ⟨⟨⟨⟨column, rfl⟩, text, rfl⟩, known⟩, hfilter⟩
      · intro ⟨⟨⟨⟨column, hcolumn⟩, text, htext⟩, known⟩, hfilter⟩
        rw [hcolumn, htext] at hfilter
        exact ⟨column, hcolumn, text, htext, known, hfilter⟩
  | options => exact absurd rfl hkey

-- The same with how deep the value is nested, which is not at all.
theorem condition_eq_ok_iff_of_nesting (limit : Nat) (field : Option String) (route : Route)
    (depth : Nat) (flags : Option Json) (key : Key) (value : Json) (filter : Filter)
    (hdepth : depth ≤ limit) (hkey : key ≠ .options)
    (hfield : ∀ name, key = .field name → value.kind ≠ .object)
    (hlogical : ∀ op, key = .logical op → value.kind ≠ .array) :
    (condition field route flags key value).outcome = .ok filter ↔
      Fits field flags key value ∧ depth + keyNesting key value ≤ limit ∧
        filter = ofLeaf field flags key value := by
  have hflat : keyNesting key value = 0 := by
    cases value with
    | object entries =>
        cases key with
        | field name => exact absurd rfl (hfield name rfl)
        | _ => rfl
    | array items =>
        cases key with
        | logical op => exact absurd rfl (hlogical op rfl)
        | _ => rfl
    | _ => rfl
  rw [condition_eq_ok_iff field route flags key value filter hkey hfield hlogical, hflat]
  exact and_congr_right fun _ => (and_iff_right hdepth).symm

-- Over a whole object it does not matter where its flags are looked at.
theorem fits_iff_flagsFit (field : Option String) (entries : List (String × Json)) :
    (((Json.lookup Key.options.keyword entries).isSome →
        (Json.lookup Key.regex.keyword entries).isSome) ∧
      ∀ entry ∈ entries, Key.IsKnown entry.1 ∧
        Fits field (Json.lookup Key.options.keyword entries) (Key.ofText entry.1) entry.2) ↔
      FlagsFit entries ∧ ∀ entry ∈ entries,
        Key.IsKnown entry.1 ∧ IsCondition field (Key.ofText entry.1) entry.2 := by
  constructor
  · intro ⟨beside, h⟩
    refine ⟨⟨beside, fun flags hflags => ?_⟩,
      fun entry hmem => ⟨(h entry hmem).1, (h entry hmem).2.1⟩⟩
    -- There are flags, so there is a pattern, and it has looked at them.
    have hregex := beside (Option.isSome_iff_exists.2 ⟨flags, hflags⟩)
    rcases (isSome_lookup_iff _ entries).1 hregex with ⟨entry, hmem, hkey⟩
    have hmeans : Key.ofText entry.1 = .regex := by
      rw [hkey]
      decide
    exact (h entry hmem).2.2 hmeans flags hflags
  · intro ⟨fit, h⟩
    exact ⟨fit.beside, fun entry hmem =>
      ⟨(h entry hmem).1, (h entry hmem).2, fun _ => fit.known⟩⟩

/-- An object, if the lemma about its entries is there already. -/
theorem conjunction_eq_ok_iff (limit : Nat) (field : Option String) (route : Route) (depth : Nat)
    (entries : List (String × Json)) (conditions : Traced Fault (List Filter)) (filter : Filter)
    (hconditions : depth ≤ limit → ∀ filters, conditions.outcome = .ok filters ↔
      (∀ entry ∈ entries, Key.IsKnown entry.1 ∧
        Fits field (Json.lookup Key.options.keyword entries) (Key.ofText entry.1) entry.2) ∧
      depth + entriesNesting entries ≤ limit ∧
        filters = ofEntries field (Json.lookup Key.options.keyword entries) entries) :
    (conjunction limit route depth entries conditions).outcome = .ok filter ↔
      IsDocument field (.object entries) ∧ depth + entriesNesting entries ≤ limit ∧
        filter = ofDocument field (.object entries) := by
  simp only [conjunction, Traced.outcome_bind_eq_ok_iff, Traced.outcome_ofExcept,
    Traced.outcome_pure, Except.ok.injEq]
  rw [isDocument_object_iff, ← fits_iff_flagsFit, ofDocument]
  constructor
  · intro ⟨_, hcheck, filters, hok, hfilter⟩
    rcases (checkObject_eq_ok_iff ..).1 hcheck with ⟨hdepth, inhabited, beside⟩
    rcases (hconditions hdepth filters).1 hok with ⟨fits, hlimit, hfilters⟩
    rw [← hfilter, hfilters]
    exact ⟨⟨inhabited, beside, fits⟩, hlimit, rfl⟩
  · intro ⟨⟨inhabited, beside, fits⟩, hlimit, hfilter⟩
    -- What lies below the object is deeper than the object.
    have hdepth : depth ≤ limit := Nat.le_trans (Nat.le_add_right ..) hlimit
    refine ⟨(), (checkObject_eq_ok_iff ..).2 ⟨hdepth, inhabited, beside⟩, _, ?_, hfilter.symm⟩
    exact (hconditions hdepth _).2 ⟨fits, hlimit, rfl⟩

-- The induction is on the document, for every route and depth. A part that is
-- deeper than the limit is left to the object that it belongs to.

mutual

/-- The entries of an object are built if each of them fits. -/
theorem buildEntries_eq_ok_iff (limit : Nat) (field : Option String) (route : Route)
    (depth : Nat) (flags : Option Json) (hdepth : depth ≤ limit) :
    (entries : List (String × Json)) → ∀ filters,
      (buildEntries limit field route depth flags entries).outcome = .ok filters ↔
        (∀ entry ∈ entries, Key.IsKnown entry.1 ∧
          Fits field flags (Key.ofText entry.1) entry.2) ∧
        depth + entriesNesting entries ≤ limit ∧ filters = ofEntries field flags entries
  | [] => by
      intro filters
      refine ⟨fun h => ⟨nofun, hdepth, (Except.ok.inj h).symm⟩, fun h => ?_⟩
      exact congrArg Except.ok h.2.2.symm
  | (raw, value) :: rest => by
      intro filters
      have hrest := buildEntries_eq_ok_iff limit field route depth flags hdepth rest
      simp only [buildEntries, Traced.outcome_bind_eq_ok_iff, Traced.outcome_ofExcept,
        Key.classify_eq_ok_iff, List.forall_mem_cons, ofEntries, entriesNesting]
      by_cases hoptions : Key.ofText raw = .options
      · -- The flags are no condition and have nothing below them.
        rw [hoptions, keyNesting_options, Nat.zero_max, if_pos rfl]
        constructor
        · intro ⟨key, ⟨hknown, hkey⟩, hok⟩
          rw [hkey, if_pos rfl] at hok
          rcases (hrest filters).1 hok with ⟨hfit, hlimit, hfilters⟩
          exact ⟨⟨⟨hknown, fits_options field flags value⟩, hfit⟩, hlimit, hfilters⟩
        · intro ⟨⟨⟨hknown, _⟩, hfit⟩, hlimit, hfilters⟩
          refine ⟨_, ⟨hknown, rfl⟩, ?_⟩
          rw [if_pos rfl]
          exact (hrest filters).2 ⟨hfit, hlimit, hfilters⟩
      · -- The condition comes first, and the rest is built if it is there.
        have hvalue := buildKey_eq_ok_iff limit field (route.key raw) depth flags
          (Key.ofText raw) hoptions hdepth value
        rw [if_neg hoptions, ← Nat.add_max_add_left, Nat.max_le]
        constructor
        · intro ⟨key, ⟨hknown, hkey⟩, hok⟩
          rw [hkey, if_neg hoptions] at hok
          simp only [Traced.outcome_bind_eq_ok_iff, Traced.outcome_pure] at hok
          rcases hok with ⟨filter, hfilter, _, _, others, hothers, hall⟩
          rcases (hvalue filter).1 hfilter with ⟨hfits, hlimit, heq⟩
          rcases (hrest others).1 hothers with ⟨hfit, hlimits, heqs⟩
          rw [← Except.ok.inj hall, heq, heqs]
          exact ⟨⟨⟨hknown, hfits⟩, hfit⟩, ⟨hlimit, hlimits⟩, rfl⟩
        · intro ⟨⟨⟨hknown, hfits⟩, hfit⟩, ⟨hlimit, hlimits⟩, hfilters⟩
          refine ⟨_, ⟨hknown, rfl⟩, ?_⟩
          rw [if_neg hoptions]
          simp only [Traced.outcome_bind_eq_ok_iff, Traced.outcome_pure]
          refine ⟨_, (hvalue _).2 ⟨hfits, hlimit, rfl⟩, (), rfl, _,
            (hrest _).2 ⟨hfit, hlimits, rfl⟩, ?_⟩
          rw [hfilters]

/-- The value of a key is built if it fits below the key. -/
theorem buildKey_eq_ok_iff (limit : Nat) (field : Option String) (route : Route) (depth : Nat)
    (flags : Option Json) (key : Key) (hkey : key ≠ .options) (hdepth : depth ≤ limit) :
    (value : Json) → ∀ filter,
      (buildKey limit field route depth flags key value).outcome = .ok filter ↔
        Fits field flags key value ∧ depth + keyNesting key value ≤ limit ∧
          filter = ofKey field flags key value
  | .object entries => by
      intro filter
      cases key with
      | field name =>
          rw [fits_iff_of_ne _ _ (.field name) _ nofun, isCondition_field_iff]
          have h := conjunction_eq_ok_iff limit (some name) route (depth + 1) entries
            (buildEntries limit (some name) route (depth + 1)
              (Json.lookup Key.options.keyword entries) entries) filter
            fun hdeeper => buildEntries_eq_ok_iff limit (some name) route (depth + 1) _ hdeeper
              entries
          rw [Nat.add_assoc] at h
          -- An object fits below a column exactly if it is a document there.
          refine h.trans (and_congr_left' ?_)
          exact ⟨fun document => ⟨nofun, fun _ => document⟩, fun h => h.2 rfl⟩
      | comparison op | logical op | regex | options =>
          exact condition_eq_ok_iff_of_nesting limit field route depth flags _ _ filter hdepth hkey
            nofun nofun
  | .array items => by
      intro filter
      cases key with
      | logical op =>
          rw [fits_iff_of_ne _ _ (.logical op) _ nofun, isCondition_logical_iff]
          have h := buildItems_eq_ok_iff limit route depth 0 hdepth items
          cases items with
          | nil => exact ⟨nofun, fun ⟨⟨_, heq, hne, _⟩, _⟩ => absurd (Json.array.inj heq).symm hne⟩
          | cons first rest =>
              -- There are items, so the pass goes on to them.
              have hbuild : (buildKey limit field route depth flags (.logical op)
                  (.array (first :: rest))).outcome =
                  (do
                    let children ← buildItems limit route depth 0 (first :: rest)
                    pure (Filter.logical op children)).outcome := rfl
              rw [hbuild, Traced.outcome_bind_eq_ok_iff]
              constructor
              · intro ⟨children, hchildren, hfilter⟩
                rcases (h children).1 hchildren with ⟨documents, hlimit, heq⟩
                rw [← Except.ok.inj hfilter, heq]
                exact ⟨⟨_, rfl, nofun, documents⟩, hlimit, rfl⟩
              · intro ⟨⟨_, heq, _, documents⟩, hlimit, hfilter⟩
                cases heq
                exact ⟨_, (h _).2 ⟨documents, hlimit, rfl⟩, congrArg Except.ok hfilter.symm⟩
      | field name | comparison op | regex | options =>
          exact condition_eq_ok_iff_of_nesting limit field route depth flags _ _ filter hdepth hkey
            nofun nofun
  | .null | .bool _ | .number _ | .text _ => by
      intro filter
      exact condition_eq_ok_iff_of_nesting limit field route depth flags key _ filter hdepth hkey
        nofun nofun

/-- The items under a connective are built if they are documents. -/
theorem buildItems_eq_ok_iff (limit : Nat) (route : Route) (depth index : Nat)
    (hdepth : depth ≤ limit) :
    (items : List Json) → ∀ filters,
      (buildItems limit route depth index items).outcome = .ok filters ↔
        (∀ item ∈ items, IsDocument none item) ∧ depth + itemsNesting items ≤ limit ∧
          filters = ofItems items
  | [] => by
      intro filters
      refine ⟨fun h => ⟨nofun, hdepth, (Except.ok.inj h).symm⟩, fun h => ?_⟩
      exact congrArg Except.ok h.2.2.symm
  | .object entries :: rest => by
      intro filters
      have hfirst := fun filter => conjunction_eq_ok_iff limit none (route.item index) (depth + 1)
        entries (buildEntries limit none (route.item index) (depth + 1)
          (Json.lookup Key.options.keyword entries) entries) filter
        fun hdeeper => buildEntries_eq_ok_iff limit none (route.item index) (depth + 1) _ hdeeper
          entries
      have hrest := buildItems_eq_ok_iff limit route depth (index + 1) hdepth rest
      simp only [buildItems, Traced.outcome_bind_eq_ok_iff, Traced.outcome_pure, hfirst, hrest,
        List.forall_mem_cons, itemsNesting, nesting, ofItems]
      rw [← Nat.add_max_add_left, Nat.max_le, Nat.add_assoc]
      constructor
      · intro ⟨_, ⟨document, hlimit, heq⟩, _, ⟨documents, hlimits, heqs⟩, hfilters⟩
        rw [← Except.ok.inj hfilters, heq, heqs]
        exact ⟨⟨document, documents⟩, ⟨hlimit, hlimits⟩, rfl⟩
      · intro ⟨⟨document, documents⟩, ⟨hlimit, hlimits⟩, hfilters⟩
        exact ⟨_, ⟨document, hlimit, rfl⟩, _, ⟨documents, hlimits, rfl⟩,
          congrArg Except.ok hfilters.symm⟩
  | .array _ :: _ | .null :: _ | .bool _ :: _ | .number _ :: _ | .text _ :: _ => by
      -- An item that is no object ends the pass, and it is no document.
      refine fun filters => ⟨nofun, fun h => ?_⟩
      have hdocument := h.1 _ List.mem_cons_self
      cases hdocument

end

theorem build_object_eq_ok_iff (limit : Nat) (entries : List (String × Json)) (filter : Filter) :
    (build limit (.object entries)).outcome = .ok filter ↔
      IsDocument none (.object entries) ∧ nesting (.object entries) ≤ limit ∧
        filter = ofDocument none (.object entries) :=
  conjunction_eq_ok_iff limit none .root 1 entries _ filter fun hdepth =>
    buildEntries_eq_ok_iff limit none .root 1 _ hdepth entries

/-- A document that is built is in the grammar, and its filter is what it
    means. -/
theorem isDocument_of_build (limit : Nat) (document : Json) (filter : Filter)
    (h : (build limit document).outcome = .ok filter) :
    IsDocument none document ∧ filter = ofDocument none document := by
  cases document with
  | object entries =>
      have hbuilt := (build_object_eq_ok_iff limit entries filter).1 h
      exact ⟨hbuilt.1, hbuilt.2.2⟩
  | _ => cases h

-- Within the grammar only the nesting decides.
theorem build_of_isDocument_iff (limit : Nat) (document : Json)
    (h : IsDocument none document) :
    (build limit document).outcome = .ok (ofDocument none document) ↔
      nesting document ≤ limit := by
  cases h with
  | object _ entries inhabited flags known conditions =>
      have hdocument := IsDocument.object none entries inhabited flags known conditions
      rw [build_object_eq_ok_iff]
      exact ⟨fun hbuilt => hbuilt.2.1, fun hlimit => ⟨hdocument, hlimit, rfl⟩⟩

-- An operand does not count, whatever is in it, but an item and the object
-- below a column do.
example : nesting (.object [("a", .object [("$eq", .object [("b", .object [])])]),
    ("$or", .array [.object [("c", .object [("$ne", .null)])]])]) = 3 := rfl

end Filter

end WhereClause
