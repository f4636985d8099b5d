import Mathlib.Data.List.Forall2
import WhereClause.Proofs.Image
import WhereClause.Proofs.Faults

/-!
# Documents in Documents

What becomes of a document that is put into another one.

A document can be given to a column, and it can be the only item under a
connective. In both cases it lies one level deeper, and with the limit raised by
one it fares as it did alone. A filter that it is built into is what the column
is given, which leaves nothing to be seen of the column, or the only child of
the connective. A fault is reported for the same reason, with a longer route,
and too much nesting is too much for either limit.

A connective can be put around any document. A column can only be put around a
document that has no use for it: a comparison at the top of the document would be
about the column. The keys that mean the same below every column, and where there
is none, are the columns and the connectives. Below those keys the document does
not see what encloses it anyway.

Since the result of wrapping is an object with a column or a connective as its
only key, it can be wrapped again, so all this holds of any number of wrappers.
The findings of the document carry the proof. They are the same up to where they
are, and so are the faults among them.

## Main definitions

* `Fault.Matches`: The same fault in another place, under another limit.
* `Finding.Deeper`: The same finding in another place, one level deeper.
* `Key.StandsAlone`: Keys that mean the same in every object.
* `Wrapper`: What can be put around a document.
* `Corresponds`: Outcomes that differ as wrapping makes them differ.

## Theorems

* `sunk_documentFindings`: A document has the same findings in any place.
* `sunk_findings_wrap`, `ofDocument_wrap`: What a wrapper adds to the findings
  and to the filter.
* `build_eq`: What becomes of a document, by its faults.
* `corresponds_wrap`, `corresponds_wrapAll`: One wrapper, and several.
* `build_wrapped`: A wrapped document fares as it does alone.
-/

namespace WhereClause

/-- The same fault in another place, with a limit for each of the places. -/
inductive Fault.Matches (low high : Nat) : Fault → Fault → Prop where
  | unsupported (key : String) : Matches low high (.unsupported key) (.unsupported key)
  | malformed (first second : Route) (reason : Reason) :
      Matches low high (.malformed first reason) (.malformed second reason)
  | tooDeep : Matches low high (.tooDeep low) (.tooDeep high)

/-- A fault that is found under a limit matches itself. -/
theorem Fault.Matches.self {limit : Nat} {finding : Finding} {fault : Fault}
    (h : finding.fault? limit = some fault) : fault.Matches limit limit fault := by
  cases finding with
  | unsupported key =>
      cases h
      exact .unsupported key
  | malformed place reason =>
      cases h
      exact .malformed ⟨place⟩ ⟨place⟩ reason
  | level depth =>
      by_cases hdeep : limit < depth
      · rw [Finding.fault?, if_pos hdeep] at h
        cases h
        exact .tooDeep
      · rw [Finding.fault?, if_neg hdeep] at h
        cases h

theorem Fault.Matches.trans {low middle high : Nat} {first second third : Fault}
    (h : first.Matches low middle second) (h' : second.Matches middle high third) :
    first.Matches low high third := by
  cases h with
  | unsupported key =>
      cases h' with
      | unsupported => exact .unsupported key
  | malformed first second reason =>
      cases h' with
      | malformed _ third => exact .malformed first third reason
  | tooDeep =>
      cases h' with
      | tooDeep => exact .tooDeep

/-- The same finding in another place, one level deeper. -/
inductive Finding.Deeper : Finding → Finding → Prop where
  | level (depth : Nat) : Deeper (.level depth) (.level (depth + 1))
  | unsupported (key : String) : Deeper (.unsupported key) (.unsupported key)
  | malformed (first second : Place) (reason : Fault.Reason) :
      Deeper (.malformed first reason) (.malformed second reason)

/-- A key that means the same in every object: a column or a connective. -/
def Key.StandsAlone (raw : String) : Prop :=
  hasSigil raw = false ∨ ∃ op : Connective, raw = op.keyword

namespace Filter

/-! ## Findings in another place -/

/-- Findings that are the same, one level deeper. -/
def Sunk (first second : List Finding) : Prop :=
  List.Forall₂ Finding.Deeper first second

theorem Sunk.append {first second firsts seconds : List Finding} (h : Sunk first second)
    (h' : Sunk firsts seconds) : Sunk (first ++ firsts) (second ++ seconds) :=
  List.rel_append h h'

theorem sunk_malformed (first second : Place) (reasons : List Fault.Reason) :
    Sunk (reasons.map (.malformed first)) (reasons.map (.malformed second)) := by
  induction reasons with
  | nil => exact .nil
  | cons reason rest ih => exact .cons (.malformed first second reason) ih

/-- An object is noted one level deeper, and nothing else about it changes. -/
theorem sunk_objectFindings (first second : Place) (depth : Nat)
    (entries : List (String × Json)) :
    Sunk (objectFindings first depth entries) (objectFindings second (depth + 1) entries) := by
  refine .cons (.level depth) (Sunk.append ?_ ?_)
  · by_cases h : entries.isEmpty = true
    · rw [if_pos h, if_pos h]
      exact .cons (.malformed first second _) .nil
    · rw [if_neg h, if_neg h]
      exact .nil
  · by_cases h : HasKey "$options" entries ∧ ¬HasKey "$regex" entries
    · rw [if_pos h, if_pos h]
      exact .cons (.malformed _ _ _) .nil
    · rw [if_neg h, if_neg h]
      exact .nil

-- The induction is on the document. What encloses an object may differ at the
-- start, where the keys have no use for it, and below a key it is the same.

mutual

/-- A document has the same findings in any place. -/
theorem sunk_documentFindings (first second : Place) (depth : Nat)
    (notObject : Json.Kind → Fault.Reason) :
    (document : Json) →
      Sunk (documentFindings none first depth notObject document)
        (documentFindings none second (depth + 1) notObject document)
  | .object entries => by
      rw [documentFindings, documentFindings]
      exact (sunk_objectFindings first second depth entries).append
        (sunk_entriesFindings first second depth _ entries fun _ _ => rfl)
  | .null | .bool _ | .number _ | .text _ | .array _ => .cons (.malformed _ _ _) .nil

/-- The keys of an object have the same findings if they have no use for what
    encloses it. -/
theorem sunk_entriesFindings {field other : Option String} (first second : Place) (depth : Nat)
    (flags : Option Json) :
    (entries : List (String × Json)) →
      (∀ entry ∈ entries, valueReasons field flags (Key.ofText entry.1) entry.2 =
        valueReasons other flags (Key.ofText entry.1) entry.2) →
      Sunk (entriesFindings field first depth flags entries)
        (entriesFindings other second (depth + 1) flags entries)
  | [], _ => .nil
  | (raw, value) :: rest, h => by
      have hrest := sunk_entriesFindings first second depth flags rest
        fun entry hmem => h entry (List.mem_cons_of_mem _ hmem)
      have hreasons := sunk_malformed (first ++ [.key raw]) (second ++ [.key raw])
        (valueReasons other flags (Key.ofText raw) value)
      have hinner := sunk_innerFindings (first ++ [.key raw]) (second ++ [.key raw]) depth
        (Key.ofText raw) value
      rw [entriesFindings, entriesFindings, h (raw, value) List.mem_cons_self]
      refine Sunk.append ?_ hrest
      by_cases hknown : Key.IsKnown raw
      · rw [if_pos hknown, if_pos hknown]
        exact hreasons.append hinner
      · rw [if_neg hknown, if_neg hknown]
        exact .cons (.unsupported raw) .nil

/-- Below a key nothing of what encloses the object is seen. -/
theorem sunk_innerFindings (first second : Place) (depth : Nat) (key : Key) :
    (value : Json) →
      Sunk (innerFindings first depth key value) (innerFindings second (depth + 1) key value)
  | .object entries => by
      cases key with
      | field name =>
          rw [innerFindings, innerFindings]
          exact (sunk_objectFindings first second (depth + 1) entries).append
            (sunk_entriesFindings first second (depth + 1) _ entries fun _ _ => rfl)
      | comparison op | logical op | regex | options => exact .nil
  | .array items => by
      cases key with
      | logical op => exact sunk_itemsFindings first second depth 0 items
      | field name | comparison op | regex | options => exact .nil
  | .null | .bool _ | .number _ | .text _ => .nil

theorem sunk_itemsFindings (first second : Place) (depth index : Nat) :
    (items : List Json) →
      Sunk (itemsFindings first depth index items) (itemsFindings second (depth + 1) index items)
  | [] => .nil
  | item :: rest => by
      rw [itemsFindings, itemsFindings]
      have hitem := sunk_documentFindings (first ++ [.item index]) (second ++ [.item index])
        (depth + 1) .itemNotObject item
      exact hitem.append (sunk_itemsFindings first second depth (index + 1) rest)

end

/-- A limit that is raised with the levels finds the same faults. -/
theorem Sunk.faults (limit : Nat) {first second : List Finding} (h : Sunk first second) :
    List.Forall₂ (Fault.Matches limit (limit + 1)) (faultsIn limit first)
      (faultsIn (limit + 1) second) := by
  induction h with
  | nil => exact .nil
  | cons hfinding hrest ih =>
      cases hfinding with
      | level depth =>
          rw [faultsIn_level, faultsIn_level]
          by_cases hdeep : limit < depth
          · rw [if_pos hdeep, if_pos (Nat.succ_lt_succ hdeep)]
            exact .cons .tooDeep ih
          · rw [if_neg hdeep, if_neg fun h => hdeep (Nat.lt_of_succ_lt_succ h)]
            exact ih
      | unsupported key => exact .cons (.unsupported key) ih
      | malformed first second reason => exact .cons (.malformed ⟨first⟩ ⟨second⟩ reason) ih

/-! ## What enclosing columns cannot change -/

/-- Keys that mean the same in every object are columns and connectives. -/
theorem ofText_of_standsAlone {raw : String} (h : Key.StandsAlone raw) :
    (∃ name, Key.ofText raw = .field name) ∨ ∃ op, Key.ofText raw = .logical op := by
  rcases h with hplain | ⟨op, rfl⟩
  · exact Or.inl ⟨raw, (Key.ofText_of_not_sigil raw hplain).2⟩
  · exact Or.inr ⟨op, (Key.ofText_connective op).2⟩

/-- What is wrong with the value of such a key does not depend on the column. -/
theorem valueReasons_of_standsAlone {raw : String} (h : Key.StandsAlone raw)
    (field other : Option String) (flags : Option Json) (value : Json) :
    valueReasons field flags (Key.ofText raw) value =
      valueReasons other flags (Key.ofText raw) value := by
  rcases ofText_of_standsAlone h with ⟨name, hkey⟩ | ⟨op, hkey⟩
  · rw [hkey]
    rfl
  · rw [hkey]
    rfl

theorem ofKey_of_standsAlone {raw : String} (h : Key.StandsAlone raw)
    (field other : Option String) (flags : Option Json) (value : Json) :
    ofKey field flags (Key.ofText raw) value = ofKey other flags (Key.ofText raw) value := by
  rcases ofText_of_standsAlone h with ⟨name, hkey⟩ | ⟨op, hkey⟩
  · rw [hkey]
    cases value <;> rfl
  · rw [hkey]
    cases value <;> rfl

theorem ofEntries_of_standsAlone {entries : List (String × Json)}
    (h : ∀ entry ∈ entries, Key.StandsAlone entry.1) (field other : Option String)
    (flags : Option Json) : ofEntries field flags entries = ofEntries other flags entries := by
  induction entries with
  | nil => rfl
  | cons entry rest ih =>
      have hfirst := ofKey_of_standsAlone (h entry List.mem_cons_self) field other flags entry.2
      rw [ofEntries, ofEntries, hfirst, ih fun entry hmem => h entry (List.mem_cons_of_mem _ hmem)]

/-! ## Wrappers -/

/-- What can be put around a document. -/
inductive Wrapper where
  /-- A column, whose name can be a key. -/
  | column (name : String) (plain : Key.hasSigil name = false)
  | connective (op : Connective)

namespace Wrapper

/-- A document with a wrapper around it. -/
def wrap (document : Json) : Wrapper → Json
  | .column name _ => .object [(name, document)]
  | .connective op => .object [(op.keyword, .array [document])]

/-- A filter with what is left of a wrapper around it. -/
def around (filter : Filter) : Wrapper → Filter
  | .column _ _ => filter
  | .connective op => .logical op [filter]

/-- What a wrapper can be put around: an object, and a column only around one
    whose keys have no use for it. -/
def Fits (document : Json) : Wrapper → Prop
  | .column _ _ => ∃ entries, document = .object entries ∧
      ∀ entry ∈ entries, Key.StandsAlone entry.1
  | .connective _ => ∃ entries, document = .object entries

/-- A document with several wrappers around it, the first of them innermost. -/
def wrapAll (wrappers : List Wrapper) (document : Json) : Json :=
  wrappers.foldl wrap document

/-- A filter with what is left of several wrappers around it. -/
def aroundAll (wrappers : List Wrapper) (filter : Filter) : Filter :=
  wrappers.foldl around filter

/-- A wrapped document can be wrapped again. -/
theorem fits_wrap (wrapper other : Wrapper) (document : Json) :
    other.Fits (wrapper.wrap document) := by
  -- Around the document there is an object, and its only key stands alone.
  have hkey : ∃ raw value, wrapper.wrap document = .object [(raw, value)] ∧
      Key.StandsAlone raw := by
    cases wrapper with
    | column name plain => exact ⟨name, document, rfl, Or.inl plain⟩
    | connective op => exact ⟨op.keyword, .array [document], rfl, Or.inr ⟨op, rfl⟩⟩
  rcases hkey with ⟨raw, value, hwrap, halone⟩
  cases other with
  | column name plain => exact ⟨_, hwrap, List.forall_mem_singleton.2 halone⟩
  | connective op => exact ⟨_, hwrap⟩

end Wrapper

/-- What is noted about an object with a single key, which is not that of
    flags. -/
theorem findings_singleton {raw : String} (known : Key.IsKnown raw)
    (hoptions : raw ≠ Key.options.keyword) (value : Json) :
    findings (.object [(raw, value)]) =
      .level 1 ::
        ((valueReasons none none (Key.ofText raw) value).map (.malformed [.key raw]) ++
          innerFindings [.key raw] 1 (Key.ofText raw) value) := by
  have hflags : ¬HasKey "$options" [(raw, value)] := by
    intro ⟨entry, hmem, heq⟩
    rw [List.mem_singleton.1 hmem] at heq
    exact hoptions heq
  -- The key is not that of flags, so there are none.
  have hlookup : Json.lookup Key.options.keyword [(raw, value)] = none :=
    Option.not_isSome_iff_eq_none.1 fun hsome => hflags ((isSome_lookup_iff ..).1 hsome)
  have hobject : objectFindings [] 1 [(raw, value)] = [.level 1] := by
    rw [objectFindings, if_neg fun h : HasKey _ _ ∧ _ => hflags h.1]
    rfl
  rw [findings, documentFindings, hobject, hlookup, entriesFindings, entriesFindings,
    if_pos known, List.append_nil, List.singleton_append, List.nil_append]

/-- Around a document there is one more level, and the findings of the document
    are those it has alone. -/
theorem sunk_findings_wrap {wrapper : Wrapper} {document : Json} (h : wrapper.Fits document) :
    ∃ inner, findings (wrapper.wrap document) = .level 1 :: inner ∧
      Sunk (findings document) inner := by
  cases wrapper with
  | column name plain =>
      rcases h with ⟨entries, rfl, halone⟩
      have hkey := Key.ofText_of_not_sigil name plain
      refine ⟨_, findings_singleton hkey.1 (ne_options_of_not_sigil name plain) _, ?_⟩
      rw [hkey.2]
      exact (sunk_objectFindings _ _ 1 entries).append
        (sunk_entriesFindings _ _ 1 _ entries fun entry hmem =>
          valueReasons_of_standsAlone (halone entry hmem) none (some name) _ entry.2)
  | connective op =>
      rcases h with ⟨entries, rfl⟩
      have hkey := Key.ofText_connective op
      refine ⟨_, findings_singleton hkey.1 (by cases op <;> decide) _, ?_⟩
      rw [hkey.2]
      -- The document is the only item, and none comes after it.
      have hitem := sunk_documentFindings [] [.key op.keyword, .item 0] 1
        .itemNotObject (.object entries)
      show Sunk _ (documentFindings none _ 2 .itemNotObject (.object entries) ++ [])
      rw [List.append_nil]
      exact hitem

/-- The filter of a wrapped document, where there is one. -/
theorem ofDocument_wrap {wrapper : Wrapper} {document : Json} (h : wrapper.Fits document) :
    ofDocument none (wrapper.wrap document) = wrapper.around (ofDocument none document) := by
  cases wrapper with
  | column name plain =>
      rcases h with ⟨entries, rfl, halone⟩
      -- The column encloses the document, whose keys do not look at it.
      show ofDocument none (.object [(name, .object entries)]) = ofDocument none (.object entries)
      rw [ofDocument_column none name _ plain, ofKey, ofDocument]
      exact congrArg ofConditions (ofEntries_of_standsAlone halone (some name) none _)
  | connective op =>
      have hkey := (Key.ofText_connective op).2
      show ofDocument none (.object [((Key.logical op).keyword, .array [document])]) = _
      rw [ofDocument, ofEntries, hkey, if_neg nofun]
      rfl

/-! ## Outcomes -/

/-- A document without faults is built into its filter, and any other is refused
    for the first of them. -/
theorem build_eq (limit : Nat) (document : Json) :
    (build limit document).outcome =
      match faults limit document with
      | [] => .ok (ofDocument none document)
      | fault :: _ => .error fault := by
  have hreports := reports_build limit document
  -- A success reports no fault, and an error reports the first one.
  cases hbuild : (build limit document).outcome with
  | ok filter =>
      rw [hbuild] at hreports
      rw [hreports.eq_nil, (isDocument_of_build limit document filter hbuild).2]
  | error fault =>
      have hhead := (hreports fault).1 hbuild
      rcases List.head?_eq_some_iff.1 hhead with ⟨rest, hfaults⟩
      rw [hfaults]

/-- Outcomes that differ as wrapping makes them differ: filters that differ by a
    function, or faults that match. -/
inductive Corresponds (low high : Nat) (around : Filter → Filter) :
    Except Fault Filter → Except Fault Filter → Prop where
  | ok (filter : Filter) : Corresponds low high around (.ok filter) (.ok (around filter))
  | error {first second : Fault} (h : first.Matches low high second) :
      Corresponds low high around (.error first) (.error second)

theorem Corresponds.trans {low middle high : Nat} {inner outer : Filter → Filter}
    {first second third : Except Fault Filter} (h : Corresponds low middle inner first second)
    (h' : Corresponds middle high outer second third) :
    Corresponds low high (outer ∘ inner) first third := by
  cases h with
  | ok filter =>
      cases h' with
      | ok => exact .ok filter
  | error hfirst =>
      cases h' with
      | error hsecond => exact .error (hfirst.trans hsecond)

/-- No wrapper. -/
theorem corresponds_self (limit : Nat) (document : Json) :
    Corresponds limit limit id (build limit document).outcome (build limit document).outcome := by
  cases hbuild : (build limit document).outcome with
  | ok filter => exact .ok filter
  | error fault =>
      have hhead := (reports_build limit document fault).1 hbuild
      rcases List.mem_filterMap.1 (List.mem_of_mem_head? hhead) with ⟨finding, _, hfault⟩
      exact .error (.self hfault)

/-- One wrapper. -/
theorem corresponds_wrap (limit : Nat) {wrapper : Wrapper} {document : Json}
    (h : wrapper.Fits document) :
    Corresponds limit (limit + 1) wrapper.around (build limit document).outcome
      (build (limit + 1) (wrapper.wrap document)).outcome := by
  rcases sunk_findings_wrap h with ⟨inner, hfindings, hsunk⟩
  have hlevel : ¬limit + 1 < 1 := Nat.not_lt.2 (Nat.le_add_left 1 limit)
  have hfaults : faults (limit + 1) (wrapper.wrap document) = faultsIn (limit + 1) inner := by
    rw [faults, hfindings, faultsIn_level, if_neg hlevel, List.nil_append]
  have hmatch : List.Forall₂ (Fault.Matches limit (limit + 1)) (faults limit document)
    (faultsIn (limit + 1) inner) := hsunk.faults limit
  rw [build_eq, build_eq, hfaults, ofDocument_wrap h]
  -- Either both have no fault, or both have a first one.
  generalize faults limit document = low, faultsIn (limit + 1) inner = high at hmatch ⊢
  cases hmatch with
  | nil => exact .ok (ofDocument none document)
  | cons hfirst hrest => exact .error hfirst

/-- Several wrappers. -/
theorem corresponds_wrapAll (limit : Nat) (wrappers : List Wrapper) (document : Json)
    (h : ∀ first ∈ wrappers.head?, first.Fits document) :
    Corresponds limit (limit + wrappers.length) (Wrapper.aroundAll wrappers)
      (build limit document).outcome
      (build (limit + wrappers.length) (Wrapper.wrapAll wrappers document)).outcome := by
  induction wrappers generalizing limit document with
  | nil => exact corresponds_self limit document
  | cons wrapper rest ih =>
      have hinner := corresponds_wrap limit (h wrapper rfl)
      -- Induction on the wrappers from the innermost on, where the limit rises by
      -- one each time.
      have houter := ih (limit + 1) (wrapper.wrap document)
        fun other _ => Wrapper.fits_wrap wrapper other document
      have hlength : limit + (wrapper :: rest).length = limit + 1 + rest.length := by
        rw [List.length_cons, Nat.add_comm rest.length 1, Nat.add_assoc]
      rw [hlength]
      exact hinner.trans houter

/-- With the limit raised by the number of wrappers, a wrapped document is built
    into a filter exactly if it is one alone, and the columns among the wrappers
    leave no trace. Otherwise it is refused for the same reason. -/
theorem build_wrapped (limit : Nat) (wrappers : List Wrapper) (document : Json)
    (fits : ∀ first ∈ wrappers.head?, first.Fits document) :
    (∀ wrapped,
      (build (limit + wrappers.length) (Wrapper.wrapAll wrappers document)).outcome =
          .ok wrapped ↔
        ∃ filter, (build limit document).outcome = .ok filter ∧
          wrapped = Wrapper.aroundAll wrappers filter) ∧
    ∀ fault, (build limit document).outcome = .error fault →
      ∃ other,
        (build (limit + wrappers.length) (Wrapper.wrapAll wrappers document)).outcome =
          .error other ∧
        fault.Matches limit (limit + wrappers.length) other := by
  have hcorresponds := corresponds_wrapAll limit wrappers document fits
  generalize (build limit document).outcome = alone,
    (build (limit + wrappers.length) (Wrapper.wrapAll wrappers document)).outcome = enclosed
    at hcorresponds ⊢
  cases hcorresponds with
  | ok filter =>
      refine ⟨fun wrapped => ⟨fun heq => ?_, fun h => ?_⟩, nofun⟩
      · exact ⟨filter, rfl, (Except.ok.inj heq).symm⟩
      · rcases h with ⟨other, hother, rfl⟩
        rw [Except.ok.inj hother]
  | error hmatch =>
      refine ⟨fun wrapped => ⟨nofun, fun h => ?_⟩, fun fault heq => ?_⟩
      · rcases h with ⟨filter, hfilter, _⟩
        cases hfilter
      · rw [← Except.error.inj heq]
        exact ⟨_, rfl, hmatch⟩

/-- A document whose conditions are about columns of its own. -/
def towerDocument : Json :=
  .object [("$and", .array [.object [("a", .null)]]),
    ("b", .object [("$gt", .text "x")])]

/-- A connective between columns. -/
def towerWrappers : List Wrapper :=
  [.column "it's" (by decide), .connective .or, .column "\x60b\x60" (by decide)]

/-- Of the tower around the document only the connective is seen. -/
theorem build_wrapped_tower :
    (∀ filter, (build 2 towerDocument).outcome = .ok filter →
      (build 5 (Wrapper.wrapAll towerWrappers towerDocument)).outcome =
        .ok (.logical .or [filter])) ∧
      (build 2 towerDocument).outcome = .ok (ofDocument none towerDocument) ∧
      ∃ other, (build 4 (Wrapper.wrapAll towerWrappers towerDocument)).outcome = .error other ∧
        (Fault.tooDeep 1).Matches 1 4 other := by
  have hfits : ∀ first ∈ towerWrappers.head?, first.Fits towerDocument := by
    intro first hfirst
    cases hfirst
    have hfield : Key.StandsAlone "b" := Or.inl (by decide)
    have hand : Key.StandsAlone "$and" := Or.inr ⟨.and, rfl⟩
    exact ⟨_, rfl, List.forall_mem_cons.2 ⟨hand, List.forall_mem_singleton.2 hfield⟩⟩
  refine ⟨fun filter hfilter => ?_, rfl, ?_⟩
  · exact ((build_wrapped 2 towerWrappers towerDocument hfits).1 _).2 ⟨filter, hfilter, rfl⟩
  · exact (build_wrapped 1 towerWrappers towerDocument hfits).2 (.tooDeep 1) rfl

end Filter

end WhereClause
