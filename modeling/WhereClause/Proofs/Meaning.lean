import WhereClause.Compile
import WhereClause.Proofs.Building
import WhereClause.Proofs.Rendering

/-!
# Compiling Keeps the Meaning

A document means what its statement says.

The truth of a document is defined on the document: an object is the
conjunction of its keys, a connective combines its items, and everything else
is an atom. Neither the tree nor the statement appears in that. The two steps
from a document to a statement each keep the truth. What the keyword of an
operator stands for is written out as a table here, and not taken from the
spellings of the operators. Building does so for every
document, because the tree of a document has the same shape, except that a
single condition stands without a group around it. Writing does so for trees
that are conditions at all, and the grammar of documents sees to that: its
objects have a key that is no flag, and its arrays have items.

## Main definitions

* `Json.comparisonSign`, `Json.junction`: What the keywords stand for.
* `Json.truth`: The truth of a document.

## Theorems

* `truth_ofDocument`: The filter of a document has the truth of the document.
* `wellShaped_ofDocument`: The filter of a document of the grammar is a
  condition.
* `compile_keeps_meaning`: So a compiled document means what its statement
  says.
-/

namespace WhereClause

open Sql

namespace Json

/-- What the keyword of a comparison stands for in a statement. -/
def comparisonSign : String → String
  | "$eq" => "="
  | "$gt" => ">"
  | "$gte" => ">="
  | "$lt" => "<"
  | "$lte" => "<="
  | "$ne" => "!="
  | "$in" => "IN"
  | "$nin" => "NOT IN"
  | _ => ""

/-- How the keyword of a connective combines its items. -/
def junction : String → Connective
  | "$or" => .or
  | _ => .and

/-- The catalog has the sign of each comparison at its keyword. -/
theorem comparisonSign_keyword (op : Comparison) : comparisonSign op.keyword = op.sql := by
  cases op <;> rfl

theorem junction_keyword (op : Connective) : junction op.keyword = op := by
  cases op <;> rfl

/-- The truth of a key with no documents below it. The truth of what does not
    fit there does not matter. -/
def leafTruth (assignment : Atom → Truth) (field : Option String) (flags : Option Json)
    (key : Key) (value : Json) : Truth :=
  match key, value with
  | .field name, .null => assignment ⟨name, "IS NULL", []⟩
  | .field name, value => assignment ⟨name, "=", (Literal.ofJson value).texts⟩
  | .comparison op, value =>
      assignment ⟨field.getD "", comparisonSign op.keyword, (Literal.ofJson value).texts⟩
  | .regex, .text pattern =>
      assignment ⟨field.getD "", Filter.patternOperator (Filter.hasFlag flags),
        [quoteText pattern]⟩
  | _, _ => Truth.neutral .and

mutual

/-- The truth of a document that `field` encloses: all its keys hold. -/
def truth (assignment : Atom → Truth) (field : Option String) : Json → Truth
  | .object entries =>
      Truth.joinAll .and
        (entryTruths assignment field (lookup Key.options.keyword entries) entries)
  | _ => Truth.neutral .and

/-- The truths of the keys of an object in order. Flags have none. -/
def entryTruths (assignment : Atom → Truth) (field : Option String) (flags : Option Json) :
    List (String × Json) → List Truth
  | [] => []
  | (raw, value) :: rest =>
      if Key.ofText raw = .options then entryTruths assignment field flags rest
      else
        keyTruth assignment field flags (Key.ofText raw) value ::
          entryTruths assignment field flags rest

/-- The truth of a key. A column passes its name on to the document below it,
    and a connective does not pass on any. -/
def keyTruth (assignment : Atom → Truth) (field : Option String) (flags : Option Json)
    (key : Key) : Json → Truth
  | .object entries =>
      match key with
      | .field name =>
          Truth.joinAll .and
            (entryTruths assignment (some name) (lookup Key.options.keyword entries) entries)
      | key => leafTruth assignment field flags key (.object entries)
  | .array items =>
      match key with
      | .logical op => Truth.joinAll (junction op.keyword) (itemTruths assignment items)
      | key => leafTruth assignment field flags key (.array items)
  | value => leafTruth assignment field flags key value

/-- The truths of the items under a connective. -/
def itemTruths (assignment : Atom → Truth) : List Json → List Truth
  | [] => []
  | item :: rest => item.truth assignment none :: itemTruths assignment rest

end

end Json

namespace Filter

/-! ## Building keeps the truth -/

/-- The conditions of a mapping hold together, be it one or several. -/
theorem truth_ofConditions (assignment : Atom → Truth) (conditions : List Filter) :
    (ofConditions conditions).truth assignment =
      Truth.joinAll .and (conditions.map (truth assignment)) := by
  rcases conditions with _ | ⟨first, _ | ⟨second, rest⟩⟩
  · rfl
  · -- A single condition stands without a group.
    exact (Truth.join_neutral .and _).symm
  · have hgroup : ofConditions (first :: second :: rest) = .group (first :: second :: rest) := rfl
    rw [hgroup, truth, truths_eq_map]

/-- A key with no documents below it becomes an atom, or nothing. -/
theorem truth_ofLeaf (assignment : Atom → Truth) (field : Option String) (flags : Option Json)
    (key : Key) (value : Json) :
    (ofLeaf field flags key value).truth assignment =
      Json.leafTruth assignment field flags key value := by
  cases key with
  | field name => cases value <;> rfl
  | comparison op => rw [ofLeaf, truth, Json.leafTruth, Json.comparisonSign_keyword]
  | regex => cases value <;> rfl
  | logical op => rfl
  | options => rfl

mutual

/-- The filter of a document has the truth of the document. -/
theorem truth_ofDocument (assignment : Atom → Truth) (field : Option String) :
    (document : Json) →
      (ofDocument field document).truth assignment = document.truth assignment field
  | .object entries => by
      rw [ofDocument, truth_ofConditions, Json.truth, truths_ofEntries assignment field _ entries]
  | .null | .bool _ | .number _ | .text _ | .array _ => rfl

/-- Its keys have the truths of their conditions. Flags have none on either
    side. -/
theorem truths_ofEntries (assignment : Atom → Truth) (field : Option String)
    (flags : Option Json) :
    (entries : List (String × Json)) →
      (ofEntries field flags entries).map (truth assignment) =
        Json.entryTruths assignment field flags entries
  | [] => rfl
  | (raw, value) :: rest => by
      have hrest := truths_ofEntries assignment field flags rest
      have hvalue := truth_ofKey assignment field flags (Key.ofText raw) value
      rw [ofEntries, Json.entryTruths]
      -- Flags are skipped by both, so the lists keep in step.
      by_cases hoptions : Key.ofText raw = .options
      · rw [if_pos hoptions, if_pos hoptions, hrest]
      · rw [if_neg hoptions, if_neg hoptions, List.map_cons, hvalue, hrest]

/-- So has a single key, whatever its value is. -/
theorem truth_ofKey (assignment : Atom → Truth) (field : Option String) (flags : Option Json)
    (key : Key) :
    (value : Json) →
      (ofKey field flags key value).truth assignment =
        Json.keyTruth assignment field flags key value
  | .object entries => by
      cases key with
      | field name =>
          -- Only a column goes on into an object. Below any other key it is not looked
          -- into.
          rw [ofKey, truth_ofConditions, Json.keyTruth,
            truths_ofEntries assignment (some name) _ entries]
      | comparison op =>
          exact truth_ofLeaf assignment field flags (.comparison op) (.object entries)
      | logical op => exact truth_ofLeaf assignment field flags (.logical op) (.object entries)
      | regex => exact truth_ofLeaf assignment field flags .regex (.object entries)
      | options => exact truth_ofLeaf assignment field flags .options (.object entries)
  | .array items => by
      cases key with
      | logical op =>
          rw [ofKey, truth, truths_eq_map, Json.keyTruth, truths_ofItems assignment items,
            Json.junction_keyword]
      | field name => exact truth_ofLeaf assignment field flags (.field name) (.array items)
      | comparison op => exact truth_ofLeaf assignment field flags (.comparison op) (.array items)
      | regex => exact truth_ofLeaf assignment field flags .regex (.array items)
      | options => exact truth_ofLeaf assignment field flags .options (.array items)
  | .null | .bool _ | .number _ | .text _ => truth_ofLeaf assignment field flags key _

/-- The items under a connective keep their truths. -/
theorem truths_ofItems (assignment : Atom → Truth) :
    (items : List Json) →
      (ofItems items).map (truth assignment) = Json.itemTruths assignment items
  | [] => rfl
  | item :: rest => by
      rw [ofItems, List.map_cons, truth_ofDocument assignment none item,
        truths_ofItems assignment rest, Json.itemTruths]

end

/-! ## Documents of the grammar are conditions -/

/-- The conditions of an object are those of its keys, apart from the flags. -/
theorem mem_ofEntries_iff (field : Option String) (flags : Option Json)
    (entries : List (String × Json)) (filter : Filter) :
    filter ∈ ofEntries field flags entries ↔
      ∃ entry ∈ entries, Key.ofText entry.1 ≠ .options ∧
        filter = ofKey field flags (Key.ofText entry.1) entry.2 := by
  induction entries with
  | nil => exact ⟨nofun, nofun⟩
  | cons entry rest ih =>
      rw [ofEntries]
      simp only [List.mem_cons, or_and_right, exists_or, exists_eq_left]
      by_cases hoptions : Key.ofText entry.1 = .options
      · rw [if_pos hoptions, ih]
        exact ⟨Or.inr, fun h => h.resolve_left fun hentry => hentry.1 hoptions⟩
      · rw [if_neg hoptions, List.mem_cons, ih]
        exact or_congr_left (and_iff_right hoptions).symm

/-- Only one text is the key of flags. -/
theorem ofText_eq_options (raw : String) (h : Key.ofText raw = .options) :
    raw = Key.options.keyword := by
  rw [Key.ofText] at h
  cases hfind : Key.operators.find? fun key => key.keyword = raw with
  | none =>
      rw [hfind] at h
      cases h
  | some found =>
      have hspelled := List.find?_some hfind
      rw [hfind, Option.getD_some] at h
      rw [← h]
      exact (of_decide_eq_true hspelled).symm

-- An object of the grammar has a condition, since flags come with a pattern.
theorem ofEntries_ne_nil (field : Option String) (flags : Option Json)
    (entries : List (String × Json)) (inhabited : entries ≠ []) (fit : FlagsFit entries) :
    ofEntries field flags entries ≠ [] := by
  have hcondition : ∃ entry ∈ entries, Key.ofText entry.1 ≠ .options := by
    rcases List.exists_mem_of_ne_nil entries inhabited with ⟨entry, hmem⟩
    -- If the first key is that of flags, then the pattern beside it is the
    -- condition.
    by_cases hoptions : Key.ofText entry.1 = .options
    · have hflags := (isSome_lookup_iff _ entries).2
        ⟨entry, hmem, ofText_eq_options entry.1 hoptions⟩
      rcases (isSome_lookup_iff _ entries).1 (fit.beside hflags) with ⟨other, hother, hkey⟩
      refine ⟨other, hother, ?_⟩
      rw [hkey]
      decide
    · exact ⟨entry, hmem, hoptions⟩
  rcases hcondition with ⟨entry, hmem, hkey⟩
  exact List.ne_nil_of_mem ((mem_ofEntries_iff field flags entries _).2 ⟨entry, hmem, hkey, rfl⟩)

/-- Several conditions make a group, and one condition is left as it is. -/
theorem wellShaped_ofConditions (conditions : List Filter) (inhabited : conditions ≠ [])
    (all : ∀ condition ∈ conditions, WellShaped condition) :
    WellShaped (ofConditions conditions) := by
  rcases conditions with _ | ⟨first, _ | ⟨second, rest⟩⟩
  · exact absurd rfl inhabited
  · exact all first List.mem_cons_self
  · exact .group _ (Nat.le_add_left 2 _) all

theorem ofItems_eq_map (items : List Json) : ofItems items = items.map (ofDocument none) := by
  induction items with
  | nil => rfl
  | cons item rest ih => rw [ofItems, ih, List.map_cons]

/-- Only an array becomes a list. -/
theorem isList_ofJson (value : Json) (h : value.kind ≠ .array) :
    (Literal.ofJson value).isList = false := by
  cases value with
  | array items => exact absurd rfl h
  | number n =>
      cases n with
      | whole n bounds =>
          rw [Literal.ofJson, Literal.ofNumber]
          split <;> rfl
      | real x finite => rfl
  | _ => rfl

/-- A comparison takes any value for its operand, and the column from outside. -/
theorem ofKey_comparison (field : Option String) (flags : Option Json) (op : Comparison)
    (value : Json) :
    ofKey field flags (.comparison op) value = .compare (field.getD "") op (.ofJson value) := by
  cases value <;> rfl

mutual

/-- The filter of a document of the grammar is a condition. -/
theorem wellShaped_ofDocument {field : Option String} {document : Json} :
    IsDocument field document → WellShaped (ofDocument field document)
  | .object field entries inhabited flags known conditions => by
      rw [ofDocument]
      refine wellShaped_ofConditions _ (ofEntries_ne_nil _ _ entries inhabited flags) ?_
      intro filter hfilter
      rcases (mem_ofEntries_iff ..).1 hfilter with ⟨entry, hmem, hkey, heq⟩
      rw [heq]
      exact wellShaped_ofKey _ hkey (conditions entry hmem)

/-- Each kind of key that the grammar has makes a condition, apart from flags. -/
theorem wellShaped_ofKey {field : Option String} {key : Key} {value : Json}
    (flags : Option Json) (hkey : key ≠ .options) :
    IsCondition field key value → WellShaped (ofKey field flags key value)
  | .scalar field name value single closed => by
      -- The grammar leaves only single values here, which are no lists.
      cases value with
      | null => exact .isNull name
      | array items => exact absurd rfl single
      | object entries => exact absurd rfl closed
      | _ => exact .compare name .eq _ rfl (isList_ofJson _ nofun)
  | .nested field name entries document => by
      exact wellShaped_ofDocument document
  | .comparison column op value ordinary single => by
      rw [ofKey_comparison]
      exact .compare column op _ ordinary (isList_ofJson value single)
  | .membership column op items set inhabited flat => by
      -- The items become literals one by one, so there are as many, and none is a
      -- list.
      rw [ofKey_comparison, Literal.ofJson, Literal.ofItems_eq_map]
      refine .among column op _ set (fun hnil => inhabited (List.map_eq_nil_iff.1 hnil)) ?_
      intro literal hliteral
      rcases List.mem_map.1 hliteral with ⟨item, hitem, heq⟩
      rw [← heq]
      exact isList_ofJson item (flat item hitem)
  | .regex column pattern => .regex ..
  | .options field flags => absurd rfl hkey
  | .logical field op items inhabited documents => by
      have hchildren : ofKey field flags (.logical op) (.array items) =
          .logical op (items.map (ofDocument none)) := by
        rw [← ofItems_eq_map]
        rfl
      rw [hchildren]
      refine .logical op _ (fun hnil => inhabited (List.map_eq_nil_iff.1 hnil)) ?_
      intro child hchild
      rcases List.mem_map.1 hchild with ⟨item, hitem, heq⟩
      rw [← heq]
      exact wellShaped_ofDocument (documents item hitem)

end

end Filter

/-- A document that is compiled means what its statement says: the statement
    can be read, in one way only, and the condition has the truth of the
    document, whatever the truth of the atoms. -/
theorem compile_keeps_meaning (settings : Settings) (document : Json) (sql : String)
    (h : (compile settings document).outcome = .ok sql) :
    (lex .outside sql.toList).2 = .outside ∧
      ∃ condition, Reads .disjunction (tokens sql) condition ∧
        (∀ other, Reads .disjunction (tokens sql) other → other = condition) ∧
        ∀ assignment, condition.truth assignment = document.truth assignment none := by
  rw [compile, Traced.outcome_bind_eq_ok_iff] at h
  rcases h with ⟨filter, hbuild, hsql⟩
  have heq : sql = filter.toSql .mySql := (Except.ok.inj hsql).symm
  -- What has been built is the filter of a document of the grammar.
  rcases Filter.isDocument_of_build _ document filter hbuild with ⟨hdocument, hfilter⟩
  rcases filter.reads_toSql (hfilter ▸ Filter.wellShaped_ofDocument hdocument) with
    ⟨condition, hreads, hunique, htruth⟩
  rw [heq]
  refine ⟨?_, condition, hreads, hunique, fun assignment => ?_⟩
  · rw [Filter.toList_toSql, Filter.lex_fragments]
  · rw [htruth, hfilter, Filter.truth_ofDocument]

/-- A document whose names and texts look like conditions. -/
def hostileDocument : Json :=
  .object [("a\x60 OR \x60b", .object [("$in", .array [.text "\") OR (\"", .bool true])]),
    ("$or", .array [.object [("c", .null)],
      .object [("d", .object [("$regex", .text "x\\"), ("$options", .text "i")])]])]

/-- They do not become any. -/
theorem compile_keeps_meaning_hostile :
    ∃ sql, (compile {} hostileDocument).outcome = .ok sql ∧
      ∃ condition, Reads .disjunction (tokens sql) condition ∧
        ∀ assignment, condition.truth assignment =
          (assignment ⟨"a\x60 OR \x60b", "IN", [quoteText "\") OR (\"", "true"]⟩).and
            ((assignment ⟨"c", "IS NULL", []⟩).or
              (assignment ⟨"d", "REGEXP", [quoteText "x\\"]⟩)) := by
  have hsql : (compile {} hostileDocument).outcome =
      .ok ((Filter.ofDocument none hostileDocument).toSql .mySql) := rfl
  rcases compile_keeps_meaning {} hostileDocument _ hsql with ⟨_, condition, hreads, _, htruth⟩
  refine ⟨_, hsql, condition, hreads, fun assignment => ?_⟩
  -- The truth of the document can be computed as it stands. Single conditions
  -- are joined with nothing.
  have hmeaning : hostileDocument.truth assignment none = Truth.joinAll .and
      [Truth.joinAll .and
        [assignment ⟨"a\x60 OR \x60b", "IN", [quoteText "\") OR (\"", "true"]⟩],
      Truth.joinAll .or
        [Truth.joinAll .and [assignment ⟨"c", "IS NULL", []⟩],
          Truth.joinAll .and
            [Truth.joinAll .and [assignment ⟨"d", "REGEXP", [quoteText "x\\"]⟩]]]] := rfl
  rw [htruth, hmeaning]
  simp only [Truth.joinAll, List.foldr_cons, List.foldr_nil, Truth.join_neutral]
  rfl

end WhereClause
