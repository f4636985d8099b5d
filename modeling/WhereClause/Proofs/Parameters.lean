import Mathlib.Data.List.Basic
import WhereClause.Proofs.Alike
import WhereClause.Proofs.Meaning
import WhereClause.Proofs.Placeholders

/-!
# Literals Leave No Trace

What a statement with placeholders shows of the literals of its document.

A filter that is written with its literals apart is sent to the database as a
text and a list of values, and the text is meant to be the same for all the
values a user may enter. So it is here for documents that differ in literals
alone, and the values are the literals of each of them, in the order of the
document.

For the text only the form of a filter matters, in which its literals are left
open. Alike documents have filters of the same form, whether or not they are
in the grammar. Which values are passed apart does depend on the grammar: it
sees to it that the operand of a comparison is a single value, and that of a
set operator a list of single values, so every literal is passed on its own.

## Main definitions

* `Json.literals`: The literals of a document, in order.
* `Filter.form`: The fragments of a filter with its literals left open.
* `Filter.bound`: The values that a filter passes apart.

## Theorems

* `form_ofDocument`: The filters of alike documents have the same form.
* `toList_form`: The text of a filter is that of its form.
* `bound_ofDocument`: What is passed apart are the literals of the document.
* `parameterized_ignores_literals`: Alike documents give the same text.
-/

namespace WhereClause

open Sql

namespace Json

/-- The literals of a value below a key that has no documents in it. -/
def leafLiterals : Key → Json → List Json
  | .field _, .null => []
  | .comparison _, .array items => items
  | .field _, value => [value]
  | .comparison _, value => [value]
  | .regex, value => [value]
  | .logical _, _ => []
  | .options, _ => []

mutual

/-- The literals of a document, in the order of the document. -/
def literals : Json → List Json
  | .object entries => entryLiterals entries
  | _ => []

/-- The literals of the entries of an object. -/
def entryLiterals : List (String × Json) → List Json
  | [] => []
  | (raw, value) :: rest => keyLiterals (Key.ofText raw) value ++ entryLiterals rest

/-- The literals below a key. -/
def keyLiterals (key : Key) : Json → List Json
  | .object entries =>
      match key with
      | .field _ => entryLiterals entries
      | key => leafLiterals key (.object entries)
  | .array items =>
      match key with
      | .logical _ => itemLiterals items
      | key => leafLiterals key (.array items)
  | value => leafLiterals key value

/-- The literals of the items under a connective. -/
def itemLiterals : List Json → List Json
  | [] => []
  | item :: rest => item.literals ++ itemLiterals rest

end

theorem itemLiterals_eq_flatMap (items : List Json) :
    itemLiterals items = items.flatMap literals := by
  induction items with
  | nil => rfl
  | cons item rest ih => rw [itemLiterals, ih, List.flatMap_cons]

end Json

/-! ## The same form -/

namespace Sql

/-- A fragment with its literal left open. -/
def Fragment.blank : Fragment → Fragment
  | .text s => .text s
  | .name column => .name column
  | .operand _ => .operand .null
  | .bound _ => .bound .null

-- What stands for a literal does not show which literal it is.
theorem chars_blank (fragment : Fragment) :
    Fragment.chars .parameterized fragment.blank = Fragment.chars .parameterized fragment := by
  cases fragment <;> rfl

end Sql

namespace Literal

/-- The fragments of a literal, with nothing left of it but its length if it
    is a list. -/
def form (value : Literal) : List Fragment :=
  value.fragments.map Fragment.blank

theorem form_of_not_list (value : Literal) (h : value.isList = false) :
    value.form = [.operand .null] := by
  rw [form, fragments_of_not_list value h]
  rfl

theorem form_list (items : List Literal) :
    (Literal.list items).form = joined ", " (items.map form) := by
  rw [form, fragments, map_joined Fragment.blank ", " rfl, itemFragments_eq_map, List.map_map]
  rfl

mutual

/-- Alike values have literals of the same form. It is the length of arrays that
    they have to share. -/
theorem form_ofJson {role : Json.Role} {first second : Json} :
    Json.Alike role first second → (ofJson first).form = (ofJson second).form
  | .same _ _ => rfl
  | .scalar _ first second hfirst hsecond => by
      rw [form_of_not_list _ (Filter.isList_ofJson first hfirst.2.1),
        form_of_not_list _ (Filter.isList_ofJson second hsecond.2.1)]
  | .operand _ _ first second hfirst hsecond | .element _ _ first second hfirst hsecond => by
      rw [form_of_not_list _ (Filter.isList_ofJson first hfirst),
        form_of_not_list _ (Filter.isList_ofJson second hsecond)]
  | .pattern _ _ => rfl
  | .object _ _ _ _ _ => rfl
  | .array _ _ firsts seconds items => by
      rw [ofJson, ofJson, form_list, form_list, forms_ofItems items]

theorem forms_ofItems {role : Json.Role} {first second : List Json} :
    Json.AlikeItems role first second → (ofItems first).map form = (ofItems second).map form
  | .nil _ => rfl
  | .cons _ _ _ _ _ item rest => by
      rw [ofItems, ofItems, List.map_cons, List.map_cons, form_ofJson item, forms_ofItems rest]

end

end Literal

namespace Filter

open Json

/-- The fragments of a filter with its literals left open. -/
def form (filter : Filter) : List Fragment :=
  filter.fragments.map Fragment.blank

theorem form_compare (column : String) (op : Comparison) {first second : Literal}
    (h : first.form = second.form) :
    (Filter.compare column op first).form = (Filter.compare column op second).form := by
  rw [Literal.form, Literal.form] at h
  rw [form, form, fragments, fragments, map_compareFragments Fragment.blank (fun _ => rfl),
    map_compareFragments Fragment.blank (fun _ => rfl), h]

theorem form_logical (op : Connective) (children : List Filter) :
    (Filter.logical op children).form = parenthesized (separator op) (children.map form) := by
  rw [form, fragments, map_parenthesized Fragment.blank (fun _ => rfl), childFragments_eq_map,
    List.map_map]
  rfl

theorem form_group (children : List Filter) :
    (Filter.group children).form = parenthesized (separator .and) (children.map form) :=
  form_logical .and children

/-- One condition stands alone, and several are in a group. -/
theorem form_ofConditions (conditions : List Filter) :
    (ofConditions conditions).form =
      if (conditions.map form).length = 1 then (conditions.map form).flatten
      else parenthesized (separator .and) (conditions.map form) := by
  rcases conditions with _ | ⟨first, _ | ⟨second, rest⟩⟩
  · exact form_group []
  · exact (List.append_nil first.form).symm
  · -- Two conditions at least, so they are in a group.
    have hseveral : ¬((first :: second :: rest).map form).length = 1 := by
      simp only [List.length_map, List.length_cons]
      omega
    rw [if_neg hseveral]
    exact form_group _

theorem form_ofConditions_congr {first second : List Filter}
    (h : first.map form = second.map form) :
    (ofConditions first).form = (ofConditions second).form := by
  rw [form_ofConditions, form_ofConditions, h]

/-- A column that is given a single value other than null is compared with it. -/
theorem ofKey_scalar (field : Option String) (flags : Option Json) (name : String) (value : Json)
    (h : value.IsScalar) :
    ofKey field flags (.field name) value = .compare name .eq (.ofJson value) := by
  cases value with
  | null => exact absurd rfl h.1
  | array items => exact absurd rfl h.2.1
  | object entries => exact absurd rfl h.2.2
  | _ => rfl

-- The induction is on the relation. What a value is to its document is an index
-- of it, so the role is given by an equation.

mutual

/-- Alike documents have filters of the same form. -/
theorem form_ofDocument (field : Option String) {role : Role} (hrole : role = .document)
    {first second : Json} :
    Alike role first second → (ofDocument field first).form = (ofDocument field second).form
  | .same _ _ => rfl
  | .object _ _ firsts seconds entries => by
      rw [ofDocument, ofDocument, entries.flags]
      exact form_ofConditions_congr (forms_ofEntries field _ entries)
  | .array _ _ _ _ _ => rfl
  | .scalar .. | .operand .. | .element .. | .pattern .. => nomatch hrole

theorem forms_ofEntries (field : Option String) (flags : Option Json)
    {first second : List (String × Json)} :
    AlikeEntries first second →
      (ofEntries field flags first).map form = (ofEntries field flags second).map form
  | .nil => rfl
  | .cons raw _ _ _ _ value rest => by
      have hvalue := form_ofKey field flags (Key.ofText raw) rfl value
      have hrest := forms_ofEntries field flags rest
      rw [ofEntries, ofEntries]
      by_cases hoptions : Key.ofText raw = .options
      · rw [if_pos hoptions, if_pos hoptions, hrest]
      · rw [if_neg hoptions, if_neg hoptions, List.map_cons, List.map_cons, hvalue, hrest]

/-- Alike values of the same key make conditions of the same form. -/
theorem form_ofKey (field : Option String) (flags : Option Json) (key : Key) {role : Role}
    (hrole : role = .value key) {first second : Json} :
    Alike role first second →
      (ofKey field flags key first).form = (ofKey field flags key second).form
  | .same _ _ => rfl
  | .scalar name first second hfirst hsecond => by
      cases hrole
      rw [ofKey_scalar field flags name first hfirst, ofKey_scalar field flags name second hsecond]
      exact form_compare name .eq (Literal.form_ofJson (.scalar name _ _ hfirst hsecond))
  | .operand op ordinary first second hfirst hsecond => by
      cases hrole
      rw [ofKey_comparison, ofKey_comparison]
      exact form_compare _ op (Literal.form_ofJson (.operand op ordinary _ _ hfirst hsecond))
  | .element .. => nomatch hrole
  | .pattern _ _ => by
      cases hrole
      rfl
  | .object _ _ firsts seconds entries => by
      cases key with
      | field name =>
          rw [ofKey, ofKey, entries.flags]
          exact form_ofConditions_congr (forms_ofEntries (some name) _ entries)
      | comparison op | logical op | regex | options => rfl
  | .array role hoptions firsts seconds items => by
      -- Below a column this is refused, but it has a filter all the same.
      have hlist := Literal.form_ofJson (.array role hoptions firsts seconds items)
      cases key with
      | field name => exact form_compare name .eq hlist
      | comparison op => exact form_compare _ op hlist
      | logical op =>
          -- The items of a connective are documents of their own.
          have hitem : role.item = .document := by rw [hrole, Role.item]; nofun
          rw [ofKey, ofKey, form_logical, form_logical, forms_ofItems hitem items]
      | regex | options => rfl

theorem forms_ofItems {role : Role} (hrole : role = .document) {first second : List Json} :
    AlikeItems role first second → (ofItems first).map form = (ofItems second).map form
  | .nil _ => rfl
  | .cons _ _ _ _ _ item rest => by
      rw [ofItems, ofItems, List.map_cons, List.map_cons, form_ofDocument none hrole item,
        forms_ofItems hrole rest]

end

/-- The text of a filter with its literals apart is that of its form. -/
theorem toList_form (filter : Filter) :
    (filter.toParameterized .mySql).text.toList =
      filter.form.flatMap (Fragment.chars .parameterized) := by
  rw [toList_toParameterized, form, List.flatMap_map]
  exact List.flatMap_congr fun fragment _ => (chars_blank fragment).symm

/-- Filters of the same form have the same text with placeholders. -/
theorem text_of_form {first second : Filter} (h : first.form = second.form) :
    (first.toParameterized .mySql).text = (second.toParameterized .mySql).text := by
  rw [← String.toList_inj, toList_form, toList_form, h]

end Filter

/-! ## The values -/

namespace Literal

/-- The values that a literal passes apart. -/
def bound (value : Literal) : List Literal :=
  value.fragments.flatMap (Fragment.values .parameterized)

theorem bound_of_not_list (value : Literal) (h : value.isList = false) :
    value.bound = [value] := by
  rw [bound, fragments_of_not_list value h]
  rfl

theorem bound_list (items : List Literal) (flat : ∀ item ∈ items, item.isList = false) :
    (Literal.list items).bound = items := by
  rw [bound, fragments, flatMap_joined _ ", " rfl, itemFragments_eq_map, List.flatMap_map]
  have hitems : items.flatMap bound = items.flatMap fun item => [item] :=
    List.flatMap_congr fun item hmem => bound_of_not_list item (flat item hmem)
  exact hitems.trans (List.flatMap_singleton' items)

end Literal

namespace Filter

open Json

/-- The values that a filter passes apart. -/
def bound (filter : Filter) : List Literal :=
  filter.fragments.flatMap (Fragment.values .parameterized)

theorem bound_compare (column : String) (op : Comparison) (operand : Literal) :
    (Filter.compare column op operand).bound = operand.bound := by
  rw [bound, fragments, flatMap_compareFragments _ (fun _ => rfl)]
  rfl

theorem bound_logical (op : Connective) (children : List Filter) :
    (Filter.logical op children).bound = children.flatMap bound := by
  rw [bound, fragments, flatMap_parenthesized _ (fun _ => rfl), childFragments_eq_map,
    List.flatMap_map]
  rfl

/-- Putting conditions side by side does not change the order of their values. -/
theorem bound_ofConditions (conditions : List Filter) :
    (ofConditions conditions).bound = conditions.flatMap bound := by
  rcases conditions with _ | ⟨first, _ | ⟨second, rest⟩⟩
  · rfl
  · exact (List.append_nil _).symm
  · exact bound_logical .and _

/-- The conditions of an object pass the literals of its keys in order, if each
    of them does. -/
theorem bound_ofEntries (field : Option String) (flags : Option Json)
    (entries : List (String × Json))
    (h : ∀ entry ∈ entries, Key.ofText entry.1 ≠ .options →
      (ofKey field flags (Key.ofText entry.1) entry.2).bound =
        (keyLiterals (Key.ofText entry.1) entry.2).map Literal.ofJson) :
    (ofEntries field flags entries).flatMap bound = (entryLiterals entries).map Literal.ofJson := by
  induction entries with
  | nil => rfl
  | cons entry rest ih =>
      have hrest := ih fun other hmem => h other (List.mem_cons_of_mem _ hmem)
      rw [ofEntries, entryLiterals, List.map_append]
      by_cases hoptions : Key.ofText entry.1 = .options
      · -- Flags become no condition, and they hold no literals.
        have hnone : keyLiterals .options entry.2 = [] := by
          cases entry.2 <;> rfl
        rw [if_pos hoptions, hoptions, hnone, hrest]
        rfl
      · rw [if_neg hoptions, List.flatMap_cons, h entry List.mem_cons_self hoptions, hrest]

mutual

/-- The values of a built filter are the literals of the document, in document
    order. -/
theorem bound_ofDocument {field : Option String} {document : Json} :
    IsDocument field document →
      (ofDocument field document).bound = document.literals.map Literal.ofJson
  | .object field entries inhabited flags known conditions => by
      rw [ofDocument, bound_ofConditions, literals]
      exact bound_ofEntries field _ entries fun entry hmem hkey =>
        bound_ofKey _ hkey (conditions entry hmem)

theorem bound_ofKey {field : Option String} {key : Key} {value : Json} (flags : Option Json)
    (hkey : key ≠ .options) :
    IsCondition field key value →
      (ofKey field flags key value).bound = (keyLiterals key value).map Literal.ofJson
  | .scalar field name value single closed => by
      cases value with
      | null => rfl
      | array items => exact absurd rfl single
      | object entries => exact absurd rfl closed
      | bool _ | number _ | text _ =>
          exact (bound_compare name .eq _).trans
            (Literal.bound_of_not_list _ (isList_ofJson _ single))
  | .nested field name entries document => bound_ofDocument document
  | .comparison column op value ordinary single => by
      -- No array stands here, so the value is the only literal.
      have hliterals : keyLiterals (.comparison op) value = [value] := by
        cases value with
        | array items => exact absurd rfl single
        | _ => rfl
      rw [ofKey_comparison, bound_compare, hliterals,
        Literal.bound_of_not_list _ (isList_ofJson value single)]
      rfl
  | .membership column op items set inhabited flat => by
      -- A list inside the list would pass its items one by one.
      have hflat : ∀ literal ∈ items.map Literal.ofJson, literal.isList = false := by
        intro literal hmem
        rcases List.mem_map.1 hmem with ⟨item, hitem, heq⟩
        rw [← heq]
        exact isList_ofJson item (flat item hitem)
      rw [ofKey_comparison, bound_compare, Literal.ofJson, Literal.ofItems_eq_map,
        Literal.bound_list _ hflat]
      rfl
  | .regex column pattern => rfl
  | .options field value => absurd rfl hkey
  | .logical field op items inhabited documents => by
      rw [ofKey, bound_logical, ofItems_eq_map, List.flatMap_map, keyLiterals,
        itemLiterals_eq_flatMap, List.map_flatMap]
      exact List.flatMap_congr fun item hmem => bound_ofDocument (documents item hmem)

end

/-- The literals of a document are what its statement with placeholders has
    apart. -/
theorem values_ofDocument (document : Json) (h : IsDocument none document) :
    ((ofDocument none document).toParameterized .mySql).values.toList =
      document.literals.map Literal.ofJson := by
  rw [values_toParameterized]
  exact bound_ofDocument h

end Filter

open WhereClause.Filter

/-- Documents that differ in literals alone are refused for the same fault, or
    give the same text with as many values. These are the literals of each
    document, in order. -/
theorem parameterized_ignores_literals (settings : Settings) (first second : Json)
    (h : Json.Alike .document first second) :
    (∃ fault, (compileParameterized settings first).outcome = .error fault ∧
      (compileParameterized settings second).outcome = .error fault) ∨
    ∃ clause other, (compileParameterized settings first).outcome = .ok clause ∧
      (compileParameterized settings second).outcome = .ok other ∧
      clause.text = other.text ∧ clause.values.size = other.values.size ∧
      clause.values.toList = first.literals.map Literal.ofJson ∧
      other.values.toList = second.literals.map Literal.ofJson := by
  simp only [compileParameterized, Settings.build, Traced.outcome_bind]
  rcases build_of_alike settings.maxDepth.toNat h with ⟨fault, hfirst, hsecond⟩ |
    ⟨filter, other, hfirst, hsecond⟩
  · rw [hfirst, hsecond]
    exact Or.inl ⟨fault, rfl, rfl⟩
  · rw [hfirst, hsecond]
    rcases isDocument_of_build _ first filter hfirst with ⟨hdocument, rfl⟩
    rcases isDocument_of_build _ second other hsecond with ⟨hdocument', rfl⟩
    -- Both filters have the same form, and the text shows nothing else.
    have htext : ((ofDocument none first).toParameterized .mySql).text =
        ((ofDocument none second).toParameterized .mySql).text :=
      text_of_form (form_ofDocument none rfl h)
    -- The text has as many placeholders as there are values.
    have hsize : ((ofDocument none first).toParameterized .mySql).values.size =
        ((ofDocument none second).toParameterized .mySql).values.size := by
      rw [← (ofDocument none first).fills_toSql.count, htext,
        (ofDocument none second).fills_toSql.count]
    exact Or.inr ⟨_, _, rfl, rfl, htext, hsize, values_ofDocument first hdocument,
      values_ofDocument second hdocument'⟩

/-- A document with a literal in every role. -/
def searchDocument (value item operand : Json) (pattern : String) : Json :=
  .object [("a", value),
    ("b", .object [("$in", .array [.text "x", item]), ("$regex", .text pattern),
      ("$options", .text "i")]),
    ("$or", .array [.object [("c", .null)], .object [("d", .object [("$gt", operand)])]])]

/-- Hostile literals, null and an object in the place of harmless ones. -/
theorem parameterized_ignores_literals_hostile :
    Json.Alike .document (searchDocument (.bool true) (.text "y") (.text "z") "p")
      (searchDocument (.text "\" OR 1=1 -- ") .null (.object [("$ne", .null)]) "?\x60") ∧
    ∃ clause other,
      (compileParameterized {} (searchDocument (.bool true) (.text "y") (.text "z") "p")).outcome =
        .ok clause ∧
      (compileParameterized {} (searchDocument (.text "\" OR 1=1 -- ") .null
        (.object [("$ne", .null)]) "?\x60")).outcome = .ok other ∧
      clause.text = other.text ∧
      other.values.toList = [.text "\" OR 1=1 -- ", .text "x", .null, .text "?\x60", .null] := by
  have halike : Json.Alike .document
      (searchDocument (.bool true) (.text "y") (.text "z") "p")
      (searchDocument (.text "\" OR 1=1 -- ") .null (.object [("$ne", .null)]) "?\x60") := by
    refine .object _ (by nofun) _ _
      (.cons _ _ _ _ _ ?_ (.cons _ _ _ _ _ ?_ (.cons _ _ _ _ _ ?_ .nil)))
    · exact .scalar "a" _ _ ⟨nofun, nofun, nofun⟩ ⟨nofun, nofun, nofun⟩
    · refine .object _ (by nofun) _ _
        (.cons _ _ _ _ _ ?_ (.cons _ _ _ _ _ ?_ (.cons _ _ _ _ _ ?_ .nil)))
      · refine .array _ (by nofun) _ _
          (.cons _ _ _ _ _ (.same _ _) (.cons _ _ _ _ _ ?_ (.nil _)))
        exact .element .oneOf rfl _ _ nofun nofun
      · exact .pattern _ _
      · exact .same _ _
    · refine .array _ (by nofun) _ _
        (.cons _ _ _ _ _ (.same _ _) (.cons _ _ _ _ _ ?_ (.nil _)))
      refine .object _ (by nofun) _ _ (.cons _ _ _ _ _ ?_ .nil)
      refine .object _ (by nofun) _ _ (.cons _ _ _ _ _ ?_ .nil)
      exact .operand .gt rfl _ _ nofun nofun
  refine ⟨halike, ?_⟩
  rcases parameterized_ignores_literals {} _ _ halike with ⟨fault, hfault, _⟩ |
    ⟨clause, other, hclause, hother, htext, _, _, hvalues⟩
  · cases hfault
  · exact ⟨clause, other, hclause, hother, htext, hvalues⟩

end WhereClause
