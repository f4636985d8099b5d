import WhereClause.Proofs.Distinct
import WhereClause.Proofs.Meaning

/-!
# The Filters of Documents

Which trees documents are built into.

A tree that was put together by hand can be anything. One that comes from a
document is a condition, so `WellShaped` holds of it, and two more things are
true. Its columns were keys, and a key that begins like an operator never
becomes a column. Its literals were JSON values, which have no timestamps, no
numbers that are not finite, and no unsigned integers that a signed one could
hold as well. This is `WellFormed`, and it is all: every well-formed tree has a
document.

That document cannot be the obvious one. Conditions that stand side by side
are the keys of one object, and an object has each of its keys once, while a
group may name the same column many times, even with the same operator. What
helps is that an object below a column is only read with that column in mind
where it has operators of its own. Each condition of a group is therefore put
below a column of a different made-up name, in an object of its own. That
object has a single condition, which stands without a group around it, and the
made-up name is gone.

## Main definitions

* `Literal.IsPlain`, `Filter.IsPlain`: Literals of JSON values, and trees with
  such literals and with columns that can be keys.
* `Filter.WellFormed`: The trees that documents are built into.
* `Filter.toDocument`: A document of a tree.

## Theorems

* `plain_ofJson`, `ofJson_toJson`: The literals of JSON values are the plain
  ones.
* `wellFormed_of_build`: What is built is well-formed.
* `ofDocument_toDocument`, `isDocument_toDocument`, `distinct_toDocument`: The
  document of a well-formed tree.
* `exists_build_iff`: The trees that documents are built into are the
  well-formed ones.
-/

namespace WhereClause

/-! ## Literals of JSON values -/

namespace Literal

mutual

/-- A literal as JSON has it: no timestamp, a number that is finite, and an
    unsigned integer only if no signed one holds it. -/
def IsPlain : Literal → Prop
  | .timestamp _ => False
  | .float x => x.isFinite = true
  | .uint n => Int64.maxValue.toInt < n.toNat
  | .list items => ArePlain items
  | .int _ => True
  | .bool _ => True
  | .text _ => True
  | .null => True

/-- The same of all literals of a list. -/
def ArePlain : List Literal → Prop
  | [] => True
  | item :: rest => item.IsPlain ∧ ArePlain rest

end

mutual

/-- What a JSON value becomes is plain. A number is the one case with something
    to show: it is made unsigned only if no signed integer holds it. -/
theorem plain_ofJson : (value : Json) → (ofJson value).IsPlain
  | .number (.whole n bounds) => by
      rw [ofJson, ofNumber]
      by_cases hsmall : n < 0x8000000000000000
      · rw [if_pos hsmall]
        trivial
      · -- No signed integer holds it, and an unsigned one does.
        have hfits : n.toNat < 2 ^ 64 := by omega
        have hmax : Int64.maxValue.toInt = 0x7FFFFFFFFFFFFFFF := by decide
        rw [if_neg hsmall, IsPlain, hmax, UInt64.toNat_ofNat_of_lt' hfits]
        omega
  | .number (.real x finite) => finite
  | .array items => plain_ofItems items
  | .null | .bool _ | .text _ | .object _ => trivial

theorem plain_ofItems : (items : List Json) → ArePlain (ofItems items)
  | [] => trivial
  | item :: rest => ⟨plain_ofJson item, plain_ofItems rest⟩

end

mutual

/-- A plain literal is found again in the value that it is written as. -/
theorem ofJson_toJson : (literal : Literal) → literal.IsPlain → ofJson literal.toJson = literal
  | .int n, _ => by
      have hsmall : n.toInt < 0x8000000000000000 := n.toInt_lt
      rw [toJson, Json.Number.ofInt64, ofJson, ofNumber, if_pos hsmall, Int64.ofInt_toInt]
  | .uint n, h => by
      have hmax : Int64.maxValue.toInt = 0x7FFFFFFFFFFFFFFF := by decide
      have hlarge : ¬(n.toNat : Int) < 0x8000000000000000 := by
        rw [IsPlain, hmax] at h
        omega
      rw [toJson, Json.Number.ofUInt64, ofJson, ofNumber, if_neg hlarge, Int.toNat_natCast,
        UInt64.ofNat_toNat]
  | .float x, h => by
      have hfinite : x.isFinite = true := h
      rw [toJson, Json.Number.ofFloat?, dif_pos hfinite]
      rfl
  | .list items, h => by
      rw [toJson, ofJson, ofItems_toItems items h]
  | .timestamp _, h => h.elim
  | .bool _, _ | .text _, _ | .null, _ => rfl

theorem ofItems_toItems : (items : List Literal) → ArePlain items →
    ofItems (toItems items) = items
  | [], _ => rfl
  | item :: rest, h => by
      rw [toItems, ofItems, ofJson_toJson item h.1, ofItems_toItems rest h.2]

end

end Literal

namespace Key

-- Classifying a key says both that it is known and what it means.
theorem ofText_keyword (key : Key) (h : key ∈ operators) :
    IsKnown key.keyword ∧ ofText key.keyword = key := by
  have hclassify := (classify_eq_ok_iff _ _).1 (classify_keyword key h)
  exact ⟨hclassify.1, hclassify.2.symm⟩

theorem ofText_comparison (op : Comparison) :
    IsKnown (comparison op).keyword ∧ ofText (comparison op).keyword = .comparison op :=
  ofText_keyword (.comparison op) (by cases op <;> decide)

theorem ofText_connective (op : Connective) :
    IsKnown (logical op).keyword ∧ ofText (logical op).keyword = .logical op :=
  ofText_keyword (.logical op) (by cases op <;> decide)

/-- A key that does not begin like an operator is known, and it means the column
    of that name. -/
theorem ofText_of_not_sigil (raw : String) (h : hasSigil raw = false) :
    IsKnown raw ∧ ofText raw = .field raw := by
  have hclassify := (classify_eq_ok_iff _ _).1 (classify_of_not_sigil raw h)
  exact ⟨hclassify.1, hclassify.2.symm⟩

/-- A key that is known and means a column does not begin like an operator. -/
theorem hasSigil_of_ofText (raw name : String) (known : IsKnown raw)
    (h : ofText raw = .field name) : hasSigil name = false := by
  by_cases hsigil : hasSigil raw = true
  · rcases known hsigil with ⟨key, hmem, heq⟩
    rw [← heq, (ofText_keyword key hmem).2] at h
    -- No operator is a column.
    rw [h] at hmem
    simp [operators] at hmem
  · have hfield := (ofText_of_not_sigil raw (eq_false_of_ne_true hsigil)).2
    rw [hfield] at h
    rw [← Key.field.inj h]
    exact eq_false_of_ne_true hsigil

end Key

namespace Filter

/-! ## Well-formed trees -/

mutual

/-- No column begins like an operator, and all literals are as JSON has
    them. -/
def IsPlain : Filter → Prop
  | .compare column _ operand => Key.hasSigil column = false ∧ operand.IsPlain
  | .isNull column => Key.hasSigil column = false
  | .regex column _ _ => Key.hasSigil column = false
  | .logical _ children => ArePlain children
  | .group children => ArePlain children

/-- The same of several filters. -/
def ArePlain : List Filter → Prop
  | [] => True
  | child :: rest => child.IsPlain ∧ ArePlain rest

end

/-- The trees that documents are built into. -/
structure WellFormed (filter : Filter) : Prop where
  /-- Connectives have children, groups have several, and operators have the
      operands they need. -/
  shaped : WellShaped filter
  /-- Columns and literals can stand in a document. -/
  plain : filter.IsPlain

theorem arePlain_iff (children : List Filter) :
    ArePlain children ↔ ∀ child ∈ children, child.IsPlain := by
  induction children with
  | nil => exact ⟨fun _ => nofun, fun _ => trivial⟩
  | cons child rest ih => rw [ArePlain, List.forall_mem_cons, ih]

/-- Putting conditions side by side adds neither a column nor a literal. -/
theorem plain_ofConditions (conditions : List Filter)
    (all : ∀ condition ∈ conditions, condition.IsPlain) : (ofConditions conditions).IsPlain := by
  rcases conditions with _ | ⟨first, _ | ⟨second, rest⟩⟩
  · trivial
  · exact all first List.mem_cons_self
  · exact (arePlain_iff _).2 all

/-- A column that is given no conditions is compared, or asked for null. -/
theorem ofKey_single (field : Option String) (flags : Option Json) (name : String) {value : Json}
    (single : value.kind ≠ .array) (closed : value.kind ≠ .object) :
    ofKey field flags (.field name) value = .isNull name ∨
      ofKey field flags (.field name) value = .compare name .eq (.ofJson value) := by
  cases value with
  | array items => exact absurd rfl single
  | object entries => exact absurd rfl closed
  | null => exact Or.inl rfl
  | _ => exact Or.inr rfl

-- The induction is on the derivation, one case per production of the grammar.

mutual

/-- The filter of a document is plain, if the column around it can be a
    key. -/
theorem plain_ofDocument {field : Option String} {document : Json}
    (hfield : ∀ name, field = some name → Key.hasSigil name = false) :
    IsDocument field document → (ofDocument field document).IsPlain
  | .object field entries inhabited flags known conditions => by
      rw [ofDocument]
      refine plain_ofConditions _ fun filter hfilter => ?_
      rcases (mem_ofEntries_iff ..).1 hfilter with ⟨entry, hmem, _, heq⟩
      rw [heq]
      exact plain_ofKey _ hfield (fun name => Key.hasSigil_of_ofText _ name (known entry hmem))
        (conditions entry hmem)

/-- The filter of a key is plain. A column comes from the key itself or from
    around the object, which is why there is a hypothesis for either. -/
theorem plain_ofKey {field : Option String} {key : Key} {value : Json} (flags : Option Json)
    (hfield : ∀ name, field = some name → Key.hasSigil name = false)
    (hkey : ∀ name, key = .field name → Key.hasSigil name = false) :
    IsCondition field key value → (ofKey field flags key value).IsPlain
  | .scalar field name value single closed => by
      have hname := hkey name rfl
      rcases ofKey_single field flags name single closed with hleaf | hleaf
      · rw [hleaf]
        exact hname
      · rw [hleaf]
        exact ⟨hname, Literal.plain_ofJson value⟩
  | .nested field name entries document => by
      -- The column around the inner object is the key itself.
      refine plain_ofDocument (fun other hother => ?_) document
      exact hkey other (congrArg Key.field (Option.some.inj hother))
  | .comparison column op value ordinary single => by
      rw [ofKey_comparison]
      exact ⟨hfield column rfl, Literal.plain_ofJson value⟩
  | .membership column op items set inhabited flat => by
      rw [ofKey_comparison]
      exact ⟨hfield column rfl, Literal.plain_ofJson (.array items)⟩
  | .regex column pattern => hfield column rfl
  | .options field value => by
      -- Flags make no condition of their own.
      have hleaf : ofKey field flags .options value = .group [] := by
        cases value <;> rfl
      rw [hleaf]
      trivial
  | .logical field op items inhabited documents => by
      rw [ofKey, ofItems_eq_map, IsPlain, arePlain_iff]
      intro child hchild
      rcases List.mem_map.1 hchild with ⟨item, hitem, heq⟩
      rw [← heq]
      exact plain_ofDocument nofun (documents item hitem)

end

/-- Whatever is built is well-formed. -/
theorem wellFormed_of_build (limit : Nat) (document : Json) (filter : Filter)
    (h : (build limit document).outcome = .ok filter) : WellFormed filter := by
  rcases isDocument_of_build limit document filter h with ⟨hdocument, heq⟩
  rw [heq]
  exact ⟨wellShaped_ofDocument hdocument, plain_ofDocument nofun hdocument⟩

/-! ## A document for every well-formed tree -/

/-- A name for the condition at a position of a group. -/
def placeholderColumn (index : Nat) : String :=
  String.ofList (List.replicate index 'x')

mutual

/-- The keys of an object for a tree. None of them is an operator that needs a
    column around it. -/
def toEntries : Filter → List (String × Json)
  | .compare column op operand =>
      [(column, .object [((Key.comparison op).keyword, operand.toJson)])]
  | .isNull column => [(column, .null)]
  | .regex column pattern ignoreCase =>
      [(column, .object ((Key.regex.keyword, .text pattern) ::
        if ignoreCase then [(Key.options.keyword, .text "i")] else []))]
  | .logical op children => [((Key.logical op).keyword, .array (toItems children))]
  | .group children => toMembers 0 children

/-- The items of an array for the children of a connective. -/
def toItems : List Filter → List Json
  | [] => []
  | child :: rest => .object child.toEntries :: toItems rest

/-- The keys of an object for the conditions of a group, from a position
    on. -/
def toMembers (index : Nat) : List Filter → List (String × Json)
  | [] => []
  | child :: rest =>
      (placeholderColumn index, .object child.toEntries) :: toMembers (index + 1) rest

end

/-- A document of a tree. -/
def toDocument (filter : Filter) : Json :=
  .object filter.toEntries

theorem hasSigil_placeholderColumn (index : Nat) :
    Key.hasSigil (placeholderColumn index) = false := by
  rw [Key.hasSigil, placeholderColumn, String.toList_ofList]
  cases index <;> rfl

theorem placeholderColumn_inj (first second : Nat)
    (h : placeholderColumn first = placeholderColumn second) : first = second := by
  have hlength := congrArg (fun name => name.toList.length) h
  simpa only [placeholderColumn, String.toList_ofList, List.length_replicate] using hlength

theorem toItems_eq_map (children : List Filter) : toItems children = children.map toDocument := by
  induction children with
  | nil => rfl
  | cons child rest ih => rw [toItems, ih, List.map_cons, toDocument]

/-- The names in a group are those of its positions. -/
theorem mem_toMembers (index : Nat) (children : List Filter) (entry : String × Json)
    (h : entry ∈ toMembers index children) :
    ∃ position child, index ≤ position ∧ child ∈ children ∧
      entry = (placeholderColumn position, child.toDocument) := by
  induction children generalizing index with
  | nil => exact absurd h List.not_mem_nil
  | cons child rest ih =>
      rw [toMembers] at h
      rcases List.mem_cons.1 h with heq | hrest
      · exact ⟨index, child, Nat.le_refl index, List.mem_cons_self, heq⟩
      · rcases ih (index + 1) hrest with ⟨position, other, hle, hmem, heq⟩
        exact ⟨position, other, Nat.le_of_succ_le hle, List.mem_cons_of_mem _ hmem, heq⟩

/-- Flags fit in an object that has none. -/
theorem flagsFit_of_fields (entries : List (String × Json))
    (h : ∀ entry ∈ entries, entry.1 ≠ Key.options.keyword) : FlagsFit entries := by
  have hnone : Json.lookup Key.options.keyword entries = none := by
    rw [Json.lookup, Option.map_eq_none_iff, List.find?_eq_none]
    exact fun entry hmem heq => h entry hmem (of_decide_eq_true heq)
  -- Both parts are about flags that are not there.
  constructor
  · intro hsome
    rw [hnone] at hsome
    cases hsome
  · intro value hvalue
    rw [hnone] at hvalue
    cases hvalue

theorem ne_options_of_not_sigil (raw : String) (h : Key.hasSigil raw = false) :
    raw ≠ Key.options.keyword := by
  intro heq
  rw [heq] at h
  exact absurd h (by decide)

/-- An object that has a single key, which is not that of flags. -/
theorem isDocument_singleton (field : Option String) (raw : String) (value : Json)
    (known : Key.IsKnown raw) (hoptions : raw ≠ Key.options.keyword)
    (h : IsCondition field (Key.ofText raw) value) : IsDocument field (.object [(raw, value)]) := by
  refine (isDocument_object_iff ..).2 ⟨nofun, flagsFit_of_fields _ ?_, ?_⟩
  · intro entry hmem
    rw [List.mem_singleton.1 hmem]
    exact hoptions
  · intro entry hmem
    rw [List.mem_singleton.1 hmem]
    exact ⟨known, h⟩

/-- An object with one column in it is a document if the column may have its
    value. -/
theorem isDocument_column (field : Option String) (column : String) (value : Json)
    (hcolumn : Key.hasSigil column = false) (h : IsCondition field (.field column) value) :
    IsDocument field (.object [(column, value)]) := by
  have hkey := Key.ofText_of_not_sigil column hcolumn
  refine isDocument_singleton field column value hkey.1 (ne_options_of_not_sigil column hcolumn) ?_
  rw [hkey.2]
  exact h

/-- The filter of such an object is that of the column, since a single condition
    has no group around it. -/
theorem ofDocument_column (field : Option String) (column : String) (value : Json)
    (hcolumn : Key.hasSigil column = false) :
    ofDocument field (.object [(column, value)]) =
      ofKey field (Json.lookup Key.options.keyword [(column, value)]) (.field column) value := by
  rw [ofDocument, ofEntries, (Key.ofText_of_not_sigil column hcolumn).2, if_neg nofun]
  rfl

/-- The conditions of a group are read back from the objects below the made-up
    names. -/
theorem ofEntries_toMembers (field : Option String) (flags : Option Json) (index : Nat)
    (children : List Filter)
    (h : ∀ child ∈ children, ∀ field, ofDocument field child.toDocument = child) :
    ofEntries field flags (toMembers index children) = children := by
  induction children generalizing index with
  | nil => rfl
  | cons child rest ih =>
      have hname := (Key.ofText_of_not_sigil _ (hasSigil_placeholderColumn index)).2
      have hchild := h child List.mem_cons_self (some (placeholderColumn index))
      rw [toDocument, ofDocument] at hchild
      rw [toMembers, ofEntries, hname, if_neg nofun, ofKey, hchild,
        ih (index + 1) fun other hmem => h other (List.mem_cons_of_mem _ hmem)]

/-- A comparison is found again in its document. The column is the key, and the
    operator is the only key below it. -/
theorem ofDocument_compare (field : Option String) (column : String) (op : Comparison)
    (operand : Literal) (hcolumn : Key.hasSigil column = false) (plain : operand.IsPlain) :
    ofDocument field (Filter.compare column op operand).toDocument =
      .compare column op operand := by
  have hop := (Key.ofText_comparison op).2
  rw [toDocument, toEntries, ofDocument_column field column _ hcolumn, ofKey, ofEntries, hop,
    if_neg nofun, ofKey_comparison, Literal.ofJson_toJson operand plain]
  rfl

/-- A well-formed tree is the filter of its document, whatever column is
    around that. -/
theorem ofDocument_toDocument (filter : Filter) (shaped : WellShaped filter)
    (plain : filter.IsPlain) : ∀ field, ofDocument field filter.toDocument = filter := by
  -- The hypotheses have to hold for every column: a group has its conditions
  -- below made-up names.
  induction shaped with
  | compare column op operand ordinary single =>
      exact fun field => ofDocument_compare field column op operand plain.1 plain.2
  | among column op items set inhabited flat =>
      exact fun field => ofDocument_compare field column op (.list items) plain.1 plain.2
  | isNull column =>
      intro field
      rw [toDocument, toEntries, ofDocument_column field column _ plain]
      rfl
  | regex column pattern ignoreCase =>
      intro field
      rw [toDocument, toEntries, ofDocument_column field column _ plain]
      cases ignoreCase <;> rfl
  | logical op children inhabited all ih =>
      intro field
      have hop := (Key.ofText_connective op).2
      have hchild : ∀ child ∈ children, (ofDocument none ∘ toDocument) child = id child :=
        fun child hmem => ih child hmem ((arePlain_iff children).1 plain child hmem) none
      have hchildren : ofItems (toItems children) = children := by
        rw [ofItems_eq_map, toItems_eq_map, List.map_map, List.map_congr_left hchild, List.map_id]
      rw [toDocument, toEntries, ofDocument, ofEntries, hop, if_neg nofun, ofKey, hchildren]
      rfl
  | group children several all ih =>
      intro field
      have hchildren := fun child hmem =>
        ih child hmem ((arePlain_iff children).1 plain child hmem)
      rw [toDocument, toEntries, ofDocument, ofEntries_toMembers _ _ 0 children hchildren]
      -- There are two conditions at least, so they stay in a group.
      rcases children with _ | ⟨first, _ | ⟨second, rest⟩⟩
      · exact absurd several (Nat.not_succ_le_zero 1)
      · exact absurd several (Nat.not_succ_le_self 1)
      · rfl

/-- Only a list is written as an array. -/
theorem kind_toJson (literal : Literal) (single : literal.isList = false) :
    literal.toJson.kind ≠ .array := by
  cases literal with
  | list items => exact Bool.noConfusion single
  | float x =>
      rw [Literal.toJson]
      cases Json.Number.ofFloat? x <;> nofun
  | int _ | uint _ | bool _ | text _ | timestamp _ | null => nofun

/-- The operand of a comparison fits its operator in a document if it does in
    the tree. -/
theorem isCondition_compare (column : String) (op : Comparison) (operand : Literal)
    (shaped : WellShaped (.compare column op operand)) :
    IsCondition (some column) (.comparison op) operand.toJson := by
  cases shaped with
  | compare _ _ _ ordinary single =>
      exact .comparison column op _ ordinary (kind_toJson operand single)
  | among _ _ items set inhabited flat =>
      have hitems := Literal.toItems_eq_map items
      refine .membership column op _ set (fun hnil => inhabited ?_) fun item hmem => ?_
      · rw [hitems] at hnil
        exact List.map_eq_nil_iff.1 hnil
      · rw [hitems] at hmem
        rcases List.mem_map.1 hmem with ⟨literal, hliteral, heq⟩
        rw [← heq]
        exact kind_toJson literal (flat literal hliteral)

/-- The document of a comparison is in the grammar. -/
theorem isDocument_compare (field : Option String) (column : String) (op : Comparison)
    (operand : Literal) (hcolumn : Key.hasSigil column = false)
    (shaped : WellShaped (.compare column op operand)) :
    IsDocument field (Filter.compare column op operand).toDocument := by
  have hop := Key.ofText_comparison op
  refine isDocument_column field column _ hcolumn (.nested field column _ ?_)
  refine isDocument_singleton _ _ _ hop.1 (by cases op <;> decide) ?_
  rw [hop.2]
  exact isCondition_compare column op operand shaped

/-- The document of a pattern is in the grammar, with the flags beside the
    pattern or without any. -/
theorem isDocument_regex (field : Option String) (column pattern : String) (ignoreCase : Bool)
    (hcolumn : Key.hasSigil column = false) :
    IsDocument field (Filter.regex column pattern ignoreCase).toDocument := by
  have hregex := Key.ofText_keyword .regex (by decide)
  have hflags := Key.ofText_keyword .options (by decide)
  refine isDocument_column field column _ hcolumn (.nested field column _ ?_)
  cases ignoreCase with
  | false =>
      refine isDocument_singleton _ _ _ hregex.1 (by decide) ?_
      rw [hregex.2]
      exact .regex column pattern
  | true =>
      refine (isDocument_object_iff ..).2 ⟨nofun, ⟨fun _ => rfl, fun value hvalue => ?_⟩, ?_⟩
      · -- The flags that are written are the one letter there is.
        have hletters : ∀ letter ∈ "i".toList, letter = 'i' :=
          fun _ hletter => List.mem_singleton.1 hletter
        exact ⟨"i", (Option.some.inj hvalue).symm, hletters⟩
      · refine List.forall_mem_cons.2 ⟨⟨hregex.1, ?_⟩, List.forall_mem_singleton.2 ⟨hflags.1, ?_⟩⟩
        · rw [hregex.2]
          exact .regex column pattern
        · rw [hflags.2]
          exact .options (some column) (.text "i")

/-- Documents below the made-up names are a document together. -/
theorem isDocument_toMembers (field : Option String) (children : List Filter)
    (inhabited : children ≠ [])
    (h : ∀ child ∈ children, ∀ field, IsDocument field child.toDocument) :
    IsDocument field (.object (toMembers 0 children)) := by
  have hname := hasSigil_placeholderColumn
  refine (isDocument_object_iff ..).2 ⟨?_, flagsFit_of_fields _ ?_, ?_⟩
  · cases children with
    | nil => exact absurd rfl inhabited
    | cons child rest => nofun
  · intro entry hmem
    rcases mem_toMembers 0 children entry hmem with ⟨position, _, _, _, rfl⟩
    exact ne_options_of_not_sigil _ (hname position)
  · intro entry hmem
    -- Each key is a column whose value is a document.
    rcases mem_toMembers 0 children entry hmem with ⟨position, child, _, hchild, rfl⟩
    have hkey := Key.ofText_of_not_sigil _ (hname position)
    refine ⟨hkey.1, ?_⟩
    rw [hkey.2]
    exact .nested field _ _ (h child hchild _)

/-- The document of a well-formed tree is in the grammar, whatever column is
    around it. -/
theorem isDocument_toDocument (filter : Filter) (shaped : WellShaped filter)
    (plain : filter.IsPlain) : ∀ field, IsDocument field filter.toDocument := by
  induction shaped with
  | compare column op operand ordinary single =>
      exact fun field => isDocument_compare field column op operand plain.1
        (.compare column op operand ordinary single)
  | among column op items set inhabited flat =>
      exact fun field => isDocument_compare field column op (.list items) plain.1
        (.among column op items set inhabited flat)
  | isNull column =>
      exact fun field => isDocument_column field column _ plain
        (.scalar field column .null nofun nofun)
  | regex column pattern ignoreCase =>
      exact fun field => isDocument_regex field column pattern ignoreCase plain
  | logical op children inhabited all ih =>
      intro field
      have hop := Key.ofText_connective op
      refine isDocument_singleton field _ _ hop.1 (by cases op <;> decide) ?_
      rw [hop.2, toItems_eq_map]
      refine .logical field op _ (fun hnil => inhabited (List.map_eq_nil_iff.1 hnil)) ?_
      intro item hmem
      rcases List.mem_map.1 hmem with ⟨child, hchild, heq⟩
      rw [← heq]
      exact ih child hchild ((arePlain_iff children).1 plain child hchild) none
  | group children several all ih =>
      intro field
      -- A group of no conditions would be an empty object.
      have inhabited : children ≠ [] := by
        intro hnil
        rw [hnil] at several
        exact Nat.not_succ_le_zero 1 several
      exact isDocument_toMembers field children inhabited fun child hchild =>
        ih child hchild ((arePlain_iff children).1 plain child hchild)

/-! ## No key is repeated in it -/

/-- The made-up names of a group are all different. -/
theorem nodup_toMembers (index : Nat) (children : List Filter) :
    ((toMembers index children).map Prod.fst).Nodup := by
  induction children generalizing index with
  | nil => exact List.nodup_nil
  | cons child rest ih =>
      rw [toMembers, List.map_cons, List.nodup_cons]
      refine ⟨fun hmem => ?_, ih (index + 1)⟩
      -- All later names stand for later positions.
      rcases List.mem_map.1 hmem with ⟨entry, hentry, heq⟩
      rcases mem_toMembers (index + 1) rest entry hentry with ⟨position, _, hle, _, rfl⟩
      have hposition := placeholderColumn_inj position index heq
      omega

theorem distinct_singleton (key : String) (value : Json) (h : value.Distinct) :
    (Json.object [(key, value)]).Distinct :=
  ⟨List.pairwise_singleton _ key, h, trivial⟩

mutual

/-- The document of a tree repeats no key, at any depth. -/
theorem distinct_toDocument : (filter : Filter) → filter.toDocument.Distinct
  | .compare column op operand =>
      distinct_singleton _ _ (distinct_singleton _ _ operand.distinct_toJson)
  | .isNull column => distinct_singleton _ _ trivial
  | .regex column pattern ignoreCase => by
      refine distinct_singleton _ _ ?_
      cases ignoreCase with
      | false => exact distinct_singleton _ _ trivial
      | true =>
          have hkeys : [Key.regex.keyword, Key.options.keyword].Nodup := by decide
          exact ⟨hkeys, trivial, trivial, trivial⟩
  | .logical op children => distinct_singleton _ _ (distinctItems_toItems children)
  | .group children => ⟨nodup_toMembers 0 children, distinctEntries_toMembers 0 children⟩

theorem distinctItems_toItems : (children : List Filter) → Json.DistinctItems (toItems children)
  | [] => trivial
  | child :: rest => ⟨distinct_toDocument child, distinctItems_toItems rest⟩

theorem distinctEntries_toMembers (index : Nat) :
    (children : List Filter) → Json.DistinctEntries (toMembers index children)
  | [] => trivial
  | child :: rest => ⟨distinct_toDocument child, distinctEntries_toMembers (index + 1) rest⟩

end

/-- The trees that documents are built into, under one limit or another, are
    the well-formed ones. -/
theorem exists_build_iff (filter : Filter) :
    (∃ limit document, document.Distinct ∧ (build limit document).outcome = .ok filter) ↔
      WellFormed filter := by
  constructor
  · intro ⟨limit, document, _, hok⟩
    exact wellFormed_of_build limit document filter hok
  · -- The limit is how deep the document is nested.
    intro ⟨shaped, plain⟩
    have hdocument := isDocument_toDocument filter shaped plain none
    refine ⟨nesting filter.toDocument, filter.toDocument, distinct_toDocument filter, ?_⟩
    rw [(build_of_isDocument_iff _ _ hdocument).2 (Nat.le_refl _),
      ofDocument_toDocument filter shaped plain none]

-- A group may say the same thing three times, and its document has three names
-- for that.
example : (Filter.group [.isNull "a", .isNull "a", .isNull "a"]).toDocument =
    .object [("", .object [("a", .null)]), ("x", .object [("a", .null)]),
      ("xx", .object [("a", .null)])] := by
  rfl

end Filter

end WhereClause
