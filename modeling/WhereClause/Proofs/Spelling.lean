import WhereClause.Sql.Clause

/-!
# Spelled Fragments

What writing fragments adds to a clause, said without running it.

A clause is written by a fold over fragments, and the only thing a fragment
can know about the clause before it is the number of its values. So what a
list of fragments adds is determined by that number: `spelled` for the text,
`Fragment.values` for the values. In the dialect of MySQL the number does not
matter either, because all placeholders look alike, and the text becomes the
concatenation of what each fragment gives on its own.

The second half is about which lists of fragments filters have. They are put
together from few kinds of pieces: fixed words, a column with the words that
follow it, and operands. `Written` closes these pieces under concatenation.
Whatever holds of the pieces and survives concatenation therefore holds of
every filter, and a proof of it never looks at the shape of the tree. The one
piece made of two fragments is the column: nothing that begins with a
backtick may follow its closing one, and the blank after it sees to that.

## Main definitions

* `Fragment.spelling`, `Fragment.values`: What a fragment adds to a clause.
* `spelled`: The text that several fragments add.
* `Fragment.chars`: The text of a fragment in the dialect of MySQL.
* `Fixed`: Words without quotes, backticks and question marks.
* `Written`: The fragments that filters are made of.

## Theorems

* `appendAll_eq`: Writing fragments adds their spelling and their values.
* `toList_spelled_mySql`: In the dialect of MySQL fragments are spelled one
  by one.
* `toList_toSql`, `toList_toParameterized`, `values_toParameterized`: Both
  ways to write a filter, by fragments.
* `joined_singleton`, `joined_cons_cons`: Parts are joined one after another.
* `flatMap_parenthesized`, `map_parenthesized`, `flatMap_compareFragments`,
  `map_compareFragments`: What leaves fixed words alone is done to the parts
  between them.
* `written_fragments`: The fragments of a filter are made of these pieces.
-/

namespace WhereClause

namespace Sql

/-- The text of a fragment in a clause that has `index` values already. -/
def Fragment.spelling (dialect : Dialect) (mode : Mode) (index : Nat) : Fragment → String
  | .text s => s
  | .name column => dialect.quoteName column
  | .operand value =>
      match mode with
      | .inline => dialect.literal value
      | .parameterized => dialect.placeholder index
  | .bound _ => dialect.placeholder index

/-- The values that a fragment adds to a clause. -/
def Fragment.values (mode : Mode) : Fragment → List Literal
  | .text _ => []
  | .name _ => []
  | .operand value =>
      match mode with
      | .inline => []
      | .parameterized => [value]
  | .bound value => [value]

/-- The text of several fragments in a clause that has `index` values
    already. -/
def spelled (dialect : Dialect) (mode : Mode) : Nat → List Fragment → String
  | _, [] => ""
  | index, fragment :: rest =>
      fragment.spelling dialect mode index ++
        spelled dialect mode (index + (fragment.values mode).length) rest

theorem append_eq (dialect : Dialect) (mode : Mode) (clause : Clause) (fragment : Fragment) :
    clause.append dialect mode fragment =
      ⟨clause.text ++ fragment.spelling dialect mode clause.values.size,
        clause.values ++ (fragment.values mode).toArray⟩ := by
  -- Only the values already there matter, which number the placeholder.
  cases fragment with
  | text s => simp only [Clause.append, Clause.write, Fragment.spelling, Fragment.values,
      Array.append_empty]
  | name column => simp only [Clause.append, Clause.write, Fragment.spelling, Fragment.values,
      Array.append_empty]
  | operand value =>
      cases mode with
      | inline => simp only [Clause.append, Clause.write, Fragment.spelling, Fragment.values,
          Array.append_empty]
      | parameterized => simp only [Clause.append, Clause.bind, Fragment.spelling,
          Fragment.values, Array.append_singleton]
  | bound value => simp only [Clause.append, Clause.bind, Fragment.spelling, Fragment.values,
      Array.append_singleton]

/-- Writing fragments adds their spelling to the text and their values to the
    values. -/
theorem appendAll_eq (dialect : Dialect) (mode : Mode) (clause : Clause)
    (fragments : List Fragment) :
    clause.appendAll dialect mode fragments =
      ⟨clause.text ++ spelled dialect mode clause.values.size fragments,
        clause.values ++ (fragments.flatMap (Fragment.values mode)).toArray⟩ := by
  induction fragments generalizing clause with
  | nil => simp only [Clause.appendAll, List.foldl_nil, spelled, String.append_empty,
      List.flatMap_nil, Array.append_empty]
  | cons fragment rest ih =>
      -- Induction on the fragments. The first one is written before the others.
      have hstep : clause.appendAll dialect mode (fragment :: rest) =
          (clause.append dialect mode fragment).appendAll dialect mode rest := rfl
      rw [hstep, ih, append_eq]
      simp only [spelled, List.flatMap_cons, String.append_assoc, Array.append_assoc,
        Array.size_append, List.size_toArray, List.append_toArray]

/-- The text of a fragment in the dialect of MySQL, where placeholders have no
    number. -/
def Fragment.chars (mode : Mode) (fragment : Fragment) : List Char :=
  (fragment.spelling .mySql mode 0).toList

/-- In place of an operand stands a question mark. -/
theorem chars_operand_parameterized (value : Literal) :
    Fragment.chars .parameterized (.operand value) = ['?'] := by
  show "?".toList = ['?']
  decide

/-- In the dialect of MySQL fragments are spelled one by one. -/
theorem toList_spelled_mySql (mode : Mode) (index : Nat) (fragments : List Fragment) :
    (spelled .mySql mode index fragments).toList = fragments.flatMap (Fragment.chars mode) := by
  induction fragments generalizing index with
  | nil => rfl
  | cons fragment rest ih =>
      -- No placeholder of this dialect looks at its number.
      have hindex : fragment.spelling .mySql mode index = fragment.spelling .mySql mode 0 := by
        cases fragment <;> rfl
      rw [spelled, String.toList_append, ih, hindex, List.flatMap_cons, Fragment.chars]

end Sql

open Sql

namespace Filter

theorem toList_toSql (filter : Filter) :
    (filter.toSql .mySql).toList = filter.fragments.flatMap (Fragment.chars .inline) := by
  rw [toSql, toClause, appendAll_eq]
  exact (congrArg String.toList (String.empty_append ..)).trans (toList_spelled_mySql ..)

theorem toList_toParameterized (filter : Filter) :
    (filter.toParameterized .mySql).text.toList =
      filter.fragments.flatMap (Fragment.chars .parameterized) := by
  rw [toParameterized, toClause, appendAll_eq]
  exact (congrArg String.toList (String.empty_append ..)).trans (toList_spelled_mySql ..)

theorem values_toParameterized (dialect : Dialect) (filter : Filter) :
    (filter.toParameterized dialect).values.toList =
      filter.fragments.flatMap (Fragment.values .parameterized) := by
  rw [toParameterized, toClause, appendAll_eq]
  exact congrArg Array.toList (Array.empty_append ..)

end Filter

namespace Sql

theorem joined_cons_cons (separator : String) (first second : List Fragment)
    (rest : List (List Fragment)) :
    joined separator (first :: second :: rest) =
      first ++ [.text separator] ++ joined separator (second :: rest) := by
  rw [joined, List.intersperse_cons_cons, List.flatten_cons, List.flatten_cons,
    ← List.append_assoc]
  rfl

theorem joined_singleton (separator : String) (part : List Fragment) :
    joined separator [part] = part := by
  rw [joined, List.intersperse_singleton, List.flatten_singleton]

-- What separators have none of can be collected from the parts.
theorem flatMap_joined {α : Type} (f : Fragment → List α) (separator : String)
    (hsep : f (.text separator) = []) (parts : List (List Fragment)) :
    (joined separator parts).flatMap f = parts.flatMap fun part => part.flatMap f := by
  induction parts with
  | nil => rfl
  | cons first rest ih =>
      -- Induction on the parts. The last one has no separator behind it.
      cases rest with
      | nil => rw [joined_singleton, List.flatMap_singleton]
      | cons second rest =>
          rw [joined_cons_cons, List.flatMap_append, List.flatMap_append, List.flatMap_singleton,
            hsep, List.append_nil, ih]
          rfl

-- What leaves separators alone can be done to the parts.
theorem map_joined (f : Fragment → Fragment) (separator : String)
    (hsep : f (.text separator) = .text separator) (parts : List (List Fragment)) :
    (joined separator parts).map f = joined separator (parts.map fun part => part.map f) := by
  induction parts with
  | nil => rfl
  | cons first rest ih =>
      cases rest with
      | nil => rw [joined_singleton, List.map_singleton, joined_singleton]
      | cons second rest =>
          rw [List.map_cons, List.map_cons, joined_cons_cons, joined_cons_cons, List.map_append,
            List.map_append, ih, List.map_singleton, hsep, List.map_cons]

theorem flatMap_parenthesized {α : Type} (f : Fragment → List α) (hfix : ∀ s, f (.text s) = [])
    (separator : String) (parts : List (List Fragment)) :
    (parenthesized separator parts).flatMap f = parts.flatMap fun part => part.flatMap f := by
  rw [parenthesized, List.flatMap_append, List.flatMap_cons, List.flatMap_singleton,
    flatMap_joined f separator (hfix separator), hfix, hfix, List.nil_append, List.append_nil]

theorem map_parenthesized (f : Fragment → Fragment) (hfix : ∀ s, f (.text s) = .text s)
    (separator : String) (parts : List (List Fragment)) :
    (parenthesized separator parts).map f =
      parenthesized separator (parts.map fun part => part.map f) := by
  rw [parenthesized, List.map_append, List.map_cons, map_joined f separator (hfix separator),
    List.map_singleton, hfix, hfix, parenthesized]

/-- Words and punctuation without quotes, backticks and question marks. -/
def Fixed (s : String) : Prop :=
  ∀ c ∈ s.toList, c ≠ '"' ∧ c ≠ '\x60' ∧ c ≠ '?'

instance (s : String) : Decidable (Fixed s) :=
  List.decidableBAll (fun c => c ≠ '"' ∧ c ≠ '\x60' ∧ c ≠ '?') s.toList

/-- Lists of fragments put together from fixed words, from columns with a
    blank behind them, and from operands. -/
inductive Written : List Fragment → Prop where
  | nil : Written []
  | append {s t : List Fragment} (hs : Written s) (ht : Written t) : Written (s ++ t)
  | words (s : String) (fixed : Fixed s) : Written [.text s]
  | column (name s : String) (fixed : Fixed s) (blank : s.toList.head? = some ' ') :
      Written [.name name, .text s]
  | operand (value : Literal) (single : value.isList = false) : Written [.operand value]

/-- Parts with a separator between them are such pieces, if it is fixed words. -/
theorem written_joined (separator : String) (hsep : Fixed separator) (parts : List (List Fragment))
    (h : ∀ part ∈ parts, Written part) : Written (joined separator parts) := by
  induction parts with
  | nil => exact Written.nil
  | cons first rest ih =>
      have hfirst := h first List.mem_cons_self
      have hrest := ih fun part hpart => h part (List.mem_cons_of_mem _ hpart)
      cases rest with
      | nil =>
          rw [joined_singleton]
          exact hfirst
      | cons second rest =>
          rw [joined_cons_cons]
          exact (hfirst.append (Written.words separator hsep)).append hrest

theorem written_parenthesized (separator : String) (hsep : Fixed separator)
    (parts : List (List Fragment)) (h : ∀ part ∈ parts, Written part) :
    Written (parenthesized separator parts) :=
  Written.append (Written.append (Written.words "(" (by decide))
    (written_joined separator hsep parts h)) (Written.words ")" (by decide))

end Sql

mutual

/-- The fragments of a literal are operands with commas between them. -/
theorem Literal.written_fragments : (value : Literal) → Written value.fragments
  | .list items => by
      rw [Literal.fragments]
      exact written_joined ", " (by decide) _ (Literal.written_itemFragments items)
  | .int n => Written.operand (.int n) rfl
  | .uint n => Written.operand (.uint n) rfl
  | .float x => Written.operand (.float x) rfl
  | .bool b => Written.operand (.bool b) rfl
  | .text s => Written.operand (.text s) rfl
  | .timestamp t => Written.operand (.timestamp t) rfl
  | .null => Written.operand .null rfl

theorem Literal.written_itemFragments :
    (items : List Literal) → ∀ part ∈ Literal.itemFragments items, Written part
  | [] => fun _ hpart => absurd hpart List.not_mem_nil
  | item :: rest => fun part hpart => by
      rw [Literal.itemFragments] at hpart
      rcases List.mem_cons.1 hpart with rfl | hmem
      · exact Literal.written_fragments item
      · exact Literal.written_itemFragments rest part hmem

end

namespace Filter

/-- From a comparison it is collected from the column and the operand. -/
theorem flatMap_compareFragments {α : Type} (f : Fragment → List α)
    (hfix : ∀ s, f (.text s) = []) (column : String) (op : Comparison) (operand : Literal) :
    (compareFragments column op operand).flatMap f =
      f (.name column) ++ operand.fragments.flatMap f := by
  have hcolumn : [Fragment.name column, .text (" " ++ op.sql ++ " ")].flatMap f =
      f (.name column) := by
    rw [List.flatMap_cons, List.flatMap_singleton, hfix, List.append_nil]
  rw [compareFragments, List.flatMap_append, hcolumn]
  split
  · rw [flatMap_parenthesized f hfix, List.flatMap_singleton]
  · rfl

/-- In a comparison the column and the operand are what can change. -/
theorem map_compareFragments (f : Fragment → Fragment) (hfix : ∀ s, f (.text s) = .text s)
    (column : String) (op : Comparison) (operand : Literal) :
    (compareFragments column op operand).map f =
      [f (.name column), .text (" " ++ op.sql ++ " ")] ++
        if op.isSet then parenthesized "" [operand.fragments.map f]
        else operand.fragments.map f := by
  rw [compareFragments, List.map_append, List.map_cons, List.map_singleton, hfix]
  split
  · rw [map_parenthesized f hfix, List.map_singleton]
  · rfl

/-- The operator of a comparison has blanks around it, so the column ends there. -/
theorem written_compareFragments (column : String) (op : Comparison) (operand : Literal) :
    Written (compareFragments column op operand) := by
  have hcolumn : Written [.name column, .text (" " ++ op.sql ++ " ")] := by
    refine Written.column _ _ ?_ ?_ <;> cases op <;> decide
  rw [compareFragments]
  refine hcolumn.append ?_
  split
  · refine written_parenthesized "" (by decide) _ fun part hpart => ?_
    rw [List.mem_singleton.1 hpart]
    exact operand.written_fragments
  · exact operand.written_fragments

mutual

/-- The fragments of a filter are put together from these pieces. -/
theorem written_fragments : (filter : Filter) → Written filter.fragments
  | .compare column op operand => by
      rw [fragments]
      exact written_compareFragments column op operand
  | .isNull column => Written.column column " IS NULL" (by decide) (by decide)
  | .regex column pattern ignoreCase => by
      rw [fragments]
      -- The operator stands between the column and the pattern, which is a text.
      refine Written.append (Written.column _ _ ?_ ?_) (Written.operand (.text pattern) rfl) <;>
        cases ignoreCase <;> decide
  | .logical op children => by
      rw [fragments]
      refine written_parenthesized _ ?_ _ (written_childFragments children)
      cases op <;> decide
  | .group children => by
      rw [fragments]
      exact written_parenthesized _ (by decide) _ (written_childFragments children)

theorem written_childFragments :
    (children : List Filter) → ∀ part ∈ childFragments children, Written part
  | [] => fun _ hpart => absurd hpart List.not_mem_nil
  | child :: rest => fun part hpart => by
      rw [childFragments] at hpart
      rcases List.mem_cons.1 hpart with rfl | hmem
      · exact written_fragments child
      · exact written_childFragments rest part hmem

end

end Filter

end WhereClause
