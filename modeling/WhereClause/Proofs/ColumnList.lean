import Mathlib.Data.List.Destutter
import Mathlib.Data.List.Sort
import WhereClause.Proofs.ByteOrder
import WhereClause.Proofs.Denotation
import WhereClause.Proofs.KeyOrder

/-!
# The List of Columns

The columns of a filter, beside the names in its statement.

`Filter.columns` inserts one column after the other into a list that is in
order. There is another way to get at the list, which needs no insertion. Every
node puts the lists of its children behind one another, sorts the result, and
drops each column that is the same as the one before it. Only neighbours are
compared, but in a sorted list a column has no other place to be repeated at.
So no column is dropped for good, and none is left twice. Both lists are strictly
increasing and have the columns of the leaves, and there is only one such list.

The statement with placeholders is written by another pass over the tree. It has
no texts in it, so all that is in quotes are names, and the lexer finds one for
each leaf. Their columns, as a set, are those of the list.

The order is that of bytes, in which the list has to be for those who do not
know of characters.

## Main definitions

* `merged`: A list of columns, sorted and without repetitions.
* `Filter.gathered`: The columns of a filter, node by node.

## Theorems

* `mem_merged`, `pairwise_merged`: Sorting and comparing neighbours leaves each
  column once.
* `gathered_eq_columns`: Both ways lead to the same list.
* `names_toParameterized`: What a statement with placeholders has in quotes.
* `columns_are_the_names`: The columns are the names in the statement, in
  increasing order, and for built filters keys of the document.
-/

namespace WhereClause

/-! ## Node by node -/

/-- A list of columns in increasing order, without those that are the same as
    the one before. -/
def merged (columns : List String) : List String :=
  (columns.mergeSort (· ≤ ·)).destutter (· ≠ ·)

-- A column that is dropped is the one that was kept last.
theorem mem_destutter' (kept : String) (columns : List String) (name : String) :
    name ∈ columns.destutter' (· ≠ ·) kept ↔ name = kept ∨ name ∈ columns := by
  induction columns generalizing kept with
  | nil => rw [List.destutter'_nil, List.mem_singleton, List.mem_nil_iff, or_false]
  | cons column rest ih =>
      -- A column that differs from the one kept last is kept, and is the next to
      -- compare with.
      by_cases hne : kept ≠ column
      · rw [List.destutter'_cons_pos rest hne, List.mem_cons, ih, List.mem_cons]
      · rw [List.destutter'_cons_neg rest hne, ih, ← not_not.1 hne, List.mem_cons, or_self_left]

/-- Merging neither adds nor loses a column. -/
theorem mem_merged (columns : List String) (name : String) :
    name ∈ merged columns ↔ name ∈ columns := by
  have hkept : ∀ sorted : List String, name ∈ sorted.destutter (· ≠ ·) ↔ name ∈ sorted := by
    intro sorted
    cases sorted with
    | nil => rfl
    | cons first rest => rw [List.destutter_cons', mem_destutter', List.mem_cons]
  rw [merged, hkept, List.mem_mergeSort]

/-- Where neighbours differ, a sorted list increases strictly. -/
theorem pairwise_merged (columns : List String) : (merged columns).Pairwise (· < ·) := by
  have hsorted : (merged columns).Pairwise (· ≤ ·) :=
    (List.pairwise_mergeSort' (· ≤ ·) columns).sublist (List.destutter_sublist _ _)
  have hneighbours : (merged columns).IsChain (· ≠ ·) := List.isChain_destutter _ _
  -- A strict order is one that neighbours are in, so both facts are used of
  -- neighbours only.
  rw [← List.isChain_iff_pairwise, List.isChain_iff_getElem]
  intro i hi
  exact lt_of_le_of_ne (hsorted.isChain.getElem i hi) (hneighbours.getElem i hi)

namespace Filter

mutual

/-- The columns of a filter, where every node merges those of its children. -/
def gathered : Filter → List String
  | .compare column _ _ => merged [column]
  | .isNull column => merged [column]
  | .regex column _ _ => merged [column]
  | .logical _ children => merged (gatheredAll children)
  | .group children => merged (gatheredAll children)

/-- The columns of several filters, one after the other. -/
def gatheredAll : List Filter → List String
  | [] => []
  | child :: rest => child.gathered ++ gatheredAll rest

end

mutual

/-- Every node has the columns of the leaves below it. -/
theorem mem_gathered : (filter : Filter) → (name : String) →
    (name ∈ filter.gathered ↔ name ∈ filter.mentions)
  | .compare column _ _, name => mem_merged [column] name
  | .isNull column, name => mem_merged [column] name
  | .regex column _ _, name => mem_merged [column] name
  | .logical _ children, name => (mem_merged _ name).trans (mem_gatheredAll children name)
  | .group children, name => (mem_merged _ name).trans (mem_gatheredAll children name)

theorem mem_gatheredAll : (children : List Filter) → (name : String) →
    (name ∈ gatheredAll children ↔ name ∈ mentionsAll children)
  | [], _ => Iff.rfl
  | child :: rest, name => by
      rw [gatheredAll, mentionsAll, List.mem_append, List.mem_append, mem_gathered child name,
        mem_gatheredAll rest name]

end

/-- What a node has merged is strictly increasing, whatever its children had. -/
theorem pairwise_gathered (filter : Filter) : filter.gathered.Pairwise (· < ·) := by
  cases filter with
  | compare column _ _ => exact pairwise_merged [column]
  | isNull column => exact pairwise_merged [column]
  | regex column _ _ => exact pairwise_merged [column]
  | logical _ children => exact pairwise_merged _
  | group children => exact pairwise_merged _

/-- Merging at every node leads to the same list as inserting every column. -/
theorem gathered_eq_columns (filter : Filter) : filter.gathered = filter.columns :=
  filter.pairwise_gathered.eq_of_mem_iff filter.pairwise_columns fun name => by
    -- Both lists increase strictly, so it is enough that they have the same
    -- columns.
    rw [mem_gathered, mem_columns]

end Filter

/-! ## The names of a statement -/

namespace Sql

-- With a placeholder for the value, the name is all that is in quotes.
theorem quoted_parameterized (fragment : Fragment) :
    (fragment.lexemes .parameterized).filterMap Lexeme.quoted? =
      (fragment.quoted.filterMap Quoted.name?).map Quoted.name := by
  cases fragment with
  | text s => exact quoted_outside s.toList
  | name column =>
      rw [Fragment.lexemes, List.filterMap_cons_some (quoted_name column)]
      rfl
  | operand value =>
      rw [Fragment.quoted, value.names_quoted]
      rfl
  | bound value =>
      rw [Fragment.quoted, value.names_quoted]
      rfl

end Sql

open Sql

namespace Filter

/-- What a statement with placeholders has in quotes are the columns of the
    leaves, from left to right. -/
theorem names_toParameterized (filter : Filter) :
    (lexemes (filter.toParameterized .mySql).text).filterMap Lexeme.quoted? =
      filter.mentions.map Quoted.name := by
  rw [lexemes, toList_toParameterized, lex_fragments, List.filterMap_flatMap,
    List.flatMap_congr fun fragment _ => quoted_parameterized fragment, ← List.map_flatMap,
    ← List.filterMap_flatMap, quoted_fragments, names_quoted]

/-- The list of columns and the statement agree for any filter. The list
    increases strictly in the order of bytes, is the one that is gathered node
    by node, and has exactly the names that are in quotes, besides which nothing
    is. The columns of a built filter are keys of its document. -/
theorem columns_are_the_names :
    (∀ filter : Filter,
      filter.columns = filter.gathered ∧
      filter.columns.Pairwise (fun first second => Text.bytes first < Text.bytes second) ∧
      (lex .outside (filter.toParameterized .mySql).text.toList).2 = .outside ∧
      ∀ quoted, quoted ∈ (lexemes (filter.toParameterized .mySql).text).filterMap Lexeme.quoted? ↔
        ∃ column ∈ filter.columns, quoted = .name column) ∧
    ∀ (limit : Nat) (document : Json) (filter : Filter),
      (build limit document).outcome = .ok filter →
        ∀ column ∈ filter.columns, column ∈ document.keys ∧ Key.hasSigil column = false := by
  constructor
  · intro filter
    refine ⟨filter.gathered_eq_columns.symm, ?_, ?_, fun quoted => ?_⟩
    · exact filter.pairwise_columns.imp (Text.bytes_lt_iff _ _).2
    · rw [toList_toParameterized, lex_fragments]
    · -- The names of the statement come in the order of the leaves, and some of
      -- them twice.
      rw [names_toParameterized, List.mem_map]
      refine exists_congr fun column => ?_
      rw [mem_columns, eq_comm]
  · intro limit document filter h column hcolumn
    exact mentions_of_build limit document filter h column ((filter.mem_columns column).1 hcolumn)

/-- A document whose names end their own quotes, one of them a key at two
    depths. -/
def namedDocument : Json :=
  .object [("\x60%", .object [("$gt", .bool false), ("\"", .null)]),
    ("$or", .array [.object [("\"", .text "\x60x\x60")]])]

/-- Its columns are its own keys, with the quotes in them. -/
theorem columns_are_the_names_hostile :
    ∃ filter, (build 32 namedDocument).outcome = .ok filter ∧
      "\"" ∈ filter.columns ∧ "\"" ∈ namedDocument.keys ∧ Key.hasSigil "\"" = false := by
  have hcolumn : "\"" ∈ (ofDocument none namedDocument).columns :=
    (mem_columns _ _).2 (by decide)
  exact ⟨_, rfl, hcolumn, columns_are_the_names.2 32 namedDocument _ rfl "\"" hcolumn⟩

end Filter

end WhereClause
