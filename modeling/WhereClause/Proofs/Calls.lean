import Mathlib.Data.List.Basic
import WhereClause.Proofs.Spelling
import WhereClause.Sql.Call

/-!
# Runs of Calls

What a run of calls adds to a clause, whatever the clause was before.

A clause grows at its end, and the only thing a call can read off it is the
number of its values. So a run adds a text and some values that depend on the
mode and on that number, and neither on the text before nor on the values
themselves. This module says which text and which values these are, for any
dialect. The text is made of pieces. A piece is fixed, or the name of a column,
or a literal, or a placeholder, and a placeholder remembers its position and
the value that is passed for it.

The positions are the point. They have to go on where the values before ended,
without a gap and without a repetition, and the value at a position has to be
the one whose placeholder stands there. In the dialect of MySQL a mistake in
this would not show, because its placeholders are all alike. Here the dialect
is arbitrary, and the pieces are the same for all of them.

What the calls ask for is said a second time, without fragments: `Call.within`
lists the calls with those inside of groups, and `leaves` says which names and
operands a call is about, from left to right.

## Main definitions

* `Piece`: A part of a text, with its place among the values if it has one.
* `Leaf`: A name or an operand, however it is written.
* `Call.within`: A call and the calls inside of it, from left to right.
* `Call.leaves`, `Call.apart`, `Call.separators`: What a call is about, which
  value it passes apart in any case, and which text the caller puts into it.
* `words`: The fixed texts that are not the caller's.
* `Adds`: What has to be true of the pieces a run adds.

## Theorems

* `flatMap_fragments`: What is collected from fragments is collected from the
  calls inside of a call.
* `append_eq_piece`, `appendAll_eq_pieces`: What one fragment adds, and what
  several do.
* `flatMap_places_pieces`: Positions go on where the values before end.
* `adds_pieces`: The pieces of calls are as they have to be.
* `perform_adds`: A run of calls adds them to any clause, in any dialect.
-/

namespace WhereClause

namespace Sql

/-- A part of a text. -/
inductive Piece where
  /-- Words and punctuation. -/
  | fixed (s : String)
  /-- The name of a column in quotes. -/
  | name (column : String)
  /-- A literal that is written into the text. -/
  | literal (value : Literal)
  /-- What stands for a value, which is at a position among the values. -/
  | placeholder (index : Nat) (value : Literal)
deriving Repr

/-- What is left of a part of a text if it does not matter how it is
    written. -/
inductive Leaf where
  | column (name : String)
  | value (value : Literal)
deriving Repr

namespace Piece

/-- The text of a piece. -/
def text (dialect : Dialect) : Piece → String
  | .fixed s => s
  | .name column => dialect.quoteName column
  | .literal value => dialect.literal value
  | .placeholder index _ => dialect.placeholder index

/-- The value that is passed for a piece. -/
def values : Piece → List Literal
  | .placeholder _ value => [value]
  | _ => []

/-- The value that is passed for a piece, with its position. -/
def places : Piece → List (Literal × Nat)
  | .placeholder index value => [(value, index)]
  | _ => []

/-- The name or operand of a piece. -/
def leaves : Piece → List Leaf
  | .fixed _ => []
  | .name column => [.column column]
  | .literal value => [.value value]
  | .placeholder _ value => [.value value]

/-- Pieces that a fragment can become. -/
inductive Stands (mode : Mode) : Fragment → Piece → Prop where
  | fixed (s : String) : Stands mode (.text s) (.fixed s)
  | name (column : String) : Stands mode (.name column) (.name column)
  | literal (value : Literal) (inline : mode = .inline) :
      Stands mode (.operand value) (.literal value)
  | operand (index : Nat) (value : Literal) (parameterized : mode = .parameterized) :
      Stands mode (.operand value) (.placeholder index value)
  | bound (index : Nat) (value : Literal) : Stands mode (.bound value) (.placeholder index value)

end Piece

/-! ## What calls ask for -/

end Sql

open Sql

namespace Literal

mutual

/-- The literals that are compared, where a list stands for its items. -/
def leaves : Literal → List Leaf
  | .list items => itemLeaves items
  | .int n => [.value (.int n)]
  | .uint n => [.value (.uint n)]
  | .float x => [.value (.float x)]
  | .bool b => [.value (.bool b)]
  | .text s => [.value (.text s)]
  | .timestamp t => [.value (.timestamp t)]
  | .null => [.value .null]

/-- The same for the items of a list. -/
def itemLeaves : List Literal → List Leaf
  | [] => []
  | item :: rest => item.leaves ++ itemLeaves rest

end

theorem itemLeaves_eq_flatMap (items : List Literal) : itemLeaves items = items.flatMap leaves := by
  induction items with
  | nil => rfl
  | cons item rest ih => rw [itemLeaves, ih, List.flatMap_cons]

end Literal

namespace Filter

mutual

/-- The names and operands of a filter, from left to right. -/
def leaves : Filter → List Leaf
  | .compare column _ operand => .column column :: operand.leaves
  | .isNull column => [.column column]
  | .regex column pattern _ => [.column column, .value (.text pattern)]
  | .logical _ children => childLeaves children
  | .group children => childLeaves children

/-- The same for several filters. -/
def childLeaves : List Filter → List Leaf
  | [] => []
  | child :: rest => child.leaves ++ childLeaves rest

end

end Filter

namespace Sql

namespace Call

/-- The names and operands of a call. A group has none but those of the calls
    inside of it. -/
def leaves : Call → List Leaf
  | .name column => [.column column]
  | .value operand => operand.leaves
  | .values operands => operands.flatMap Literal.leaves
  | .bound operand => [.value operand]
  | .grouped _ _ => []
  | .filter condition => condition.leaves

/-- The value that a call passes apart in any case. -/
def apart : Call → List Literal
  | .bound operand => [operand]
  | _ => []

/-- The text that a caller puts between the items of a group. -/
def separators : Call → List String
  | .grouped separator _ => [separator]
  | _ => []

mutual

/-- A call and the calls inside of it, from left to right. -/
def within : Call → List Call
  | .grouped separator items => .grouped separator items :: groupWithin items
  | .name column => [.name column]
  | .value operand => [.value operand]
  | .values operands => [.values operands]
  | .bound operand => [.bound operand]
  | .filter condition => [.filter condition]

/-- The same for several calls. -/
def runWithin : List Call → List Call
  | [] => []
  | call :: rest => call.within ++ runWithin rest

/-- The same for the items of a group. -/
def groupWithin : List (List Call) → List Call
  | [] => []
  | item :: rest => runWithin item ++ groupWithin rest

end

theorem runWithin_eq_flatMap (calls : List Call) : runWithin calls = calls.flatMap within := by
  induction calls with
  | nil => rfl
  | cons call rest ih => rw [runWithin, ih, List.flatMap_cons]

theorem groupWithin_eq_flatMap (items : List (List Call)) :
    groupWithin items = items.flatMap fun item => item.flatMap within := by
  induction items with
  | nil => rfl
  | cons item rest ih => rw [groupWithin, ih, runWithin_eq_flatMap, List.flatMap_cons]

/-- What holds of a group if it holds of the calls inside of it, and of all
    other calls, holds of every call. -/
@[elab_as_elim]
theorem induct {motive : Call → Prop} (name : ∀ column, motive (.name column))
    (value : ∀ operand, motive (.value operand)) (values : ∀ operands, motive (.values operands))
    (bound : ∀ operand, motive (.bound operand))
    (grouped : ∀ separator items, (∀ item ∈ items, ∀ call ∈ item, motive call) →
      motive (.grouped separator items))
    (filter : ∀ condition, motive (.filter condition)) (call : Call) : motive call :=
  @Call.rec motive (fun items => ∀ item ∈ items, ∀ call ∈ item, motive call)
    (fun calls => ∀ call ∈ calls, motive call) name value values bound grouped filter
    (fun _ hitem => absurd hitem List.not_mem_nil)
    (fun _ _ first rest => List.forall_mem_cons.2 ⟨first, rest⟩)
    (fun _ hcall => absurd hcall List.not_mem_nil)
    (fun _ _ first rest => List.forall_mem_cons.2 ⟨first, rest⟩) call

/-- A group is written like an inner node of a filter, with the caller's
    separator. -/
theorem fragments_grouped (separator : String) (items : List (List Call)) :
    (Call.grouped separator items).fragments =
      parenthesized separator (items.map fun item => item.flatMap fragments) := by
  -- Both sides are over the items; they agree item by item.
  rw [fragments, groupFragments_eq_map]
  exact congrArg _ (List.map_congr_left fun item _ => runFragments_eq_flatMap item)

/-- What is collected from fragments other than fixed ones is collected from
    the calls inside of a call. -/
theorem flatMap_fragments {α : Type} (f : Fragment → List α) (hfix : ∀ s, f (.text s) = [])
    (g : Call → List α)
    (hgroup : ∀ separator items, g (.grouped separator items) = [])
    (hother : ∀ call, (∀ separator items, call ≠ .grouped separator items) →
      call.fragments.flatMap f = g call) (call : Call) :
    call.fragments.flatMap f = call.within.flatMap g := by
  induction call using Call.induct with
  | grouped separator items ih =>
      rw [fragments_grouped, flatMap_parenthesized f hfix, List.flatMap_map, within,
        List.flatMap_cons, hgroup, List.nil_append, groupWithin_eq_flatMap, List.flatMap_assoc]
      -- Parentheses and separators are fixed, so only the items are left.
      refine List.flatMap_congr fun item hitem => ?_
      rw [List.flatMap_assoc, List.flatMap_assoc]
      exact List.flatMap_congr fun call hcall => ih item hitem call hcall
  | name column => exact (hother (.name column) nofun).trans (List.append_nil _).symm
  | value operand => exact (hother (.value operand) nofun).trans (List.append_nil _).symm
  | values operands => exact (hother (.values operands) nofun).trans (List.append_nil _).symm
  | bound operand => exact (hother (.bound operand) nofun).trans (List.append_nil _).symm
  | filter condition => exact (hother (.filter condition) nofun).trans (List.append_nil _).symm

end Call

/-- The name or operand of a fragment. -/
def Fragment.leaves : Fragment → List Leaf
  | .text _ => []
  | .name column => [.column column]
  | .operand value => [.value value]
  | .bound value => [.value value]

end Sql

mutual

/-- Writing a literal keeps its leaves in order. -/
theorem Literal.leaves_fragments :
    (value : Literal) → value.fragments.flatMap Fragment.leaves = value.leaves
  | .list items => by
      rw [Literal.fragments, flatMap_joined _ _ rfl, Literal.leaves]
      exact Literal.leaves_itemFragments items
  | .int _ => rfl
  | .uint _ => rfl
  | .float _ => rfl
  | .bool _ => rfl
  | .text _ => rfl
  | .timestamp _ => rfl
  | .null => rfl

theorem Literal.leaves_itemFragments :
    (items : List Literal) →
      ((Literal.itemFragments items).flatMap fun part => part.flatMap Fragment.leaves) =
        Literal.itemLeaves items
  | [] => rfl
  | item :: rest => by
      rw [Literal.itemFragments, List.flatMap_cons, Literal.leaves_fragments item,
        Literal.leaves_itemFragments rest, Literal.itemLeaves]

end

namespace Filter

mutual

/-- Writing a filter keeps its names and operands in order. -/
theorem leaves_fragments :
    (filter : Filter) → filter.fragments.flatMap Fragment.leaves = filter.leaves
  | .compare column op operand => by
      rw [fragments, flatMap_compareFragments _ (fun _ => rfl), operand.leaves_fragments, leaves]
      rfl
  | .isNull _ => rfl
  | .regex _ _ _ => rfl
  | .logical _ children => by
      rw [fragments, flatMap_parenthesized _ (fun _ => rfl), leaves]
      exact leaves_childFragments children
  | .group children => by
      rw [fragments, flatMap_parenthesized _ (fun _ => rfl), leaves]
      exact leaves_childFragments children

theorem leaves_childFragments :
    (children : List Filter) →
      ((childFragments children).flatMap fun part => part.flatMap Fragment.leaves) =
        childLeaves children
  | [] => rfl
  | child :: rest => by
      rw [childFragments, List.flatMap_cons, leaves_fragments child, leaves_childFragments rest,
        childLeaves]

end

end Filter

namespace Sql

/-- The fragments of a call have its names and operands in order. -/
theorem Call.leaves_fragments (call : Call) :
    call.fragments.flatMap Fragment.leaves = call.within.flatMap Call.leaves := by
  refine flatMap_fragments Fragment.leaves (fun _ => rfl) leaves (fun _ _ => rfl)
    (fun call hcall => ?_) call
  cases call with
  | name column => rfl
  | value operand => exact operand.leaves_fragments
  | values operands =>
      rw [fragments, flatMap_joined _ _ rfl, Literal.leaves_itemFragments,
        Literal.itemLeaves_eq_flatMap, leaves]
  | bound operand => rfl
  | grouped separator items => exact absurd rfl (hcall separator items)
  | filter condition => exact condition.leaves_fragments

-- Filters and literals leave it to the mode what is passed apart.
theorem values_inline_written (fragments : List Fragment) (h : Written fragments) :
    fragments.flatMap (Fragment.values .inline) = [] := by
  induction h with
  | append hs ht ihs iht => rw [List.flatMap_append, ihs, iht, List.append_nil]
  | _ => rfl

/-- With operands in the text, the fragments of a call pass apart what is
    passed apart in any case. -/
theorem Call.apart_fragments (call : Call) :
    call.fragments.flatMap (Fragment.values .inline) = call.within.flatMap Call.apart := by
  refine flatMap_fragments (Fragment.values .inline) (fun _ => rfl) apart (fun _ _ => rfl)
    (fun call hcall => ?_) call
  cases call with
  | name column => rfl
  | value operand => exact values_inline_written _ operand.written_fragments
  | values operands =>
      exact values_inline_written _
        (written_joined ", " (by decide) _ (Literal.written_itemFragments operands))
  | bound operand => rfl
  | grouped separator items => exact absurd rfl (hcall separator items)
  | filter condition => exact values_inline_written _ condition.written_fragments

/-! ## Fixed texts -/

/-- The fixed texts of filters and lists. -/
def words : List String :=
  ["(", ")", ", ", " IS NULL", " REGEXP ", " REGEXP BINARY "] ++
    Connective.all.map Filter.separator ++ Comparison.all.map fun op => " " ++ op.sql ++ " "

/-- A fixed text between joined parts is the separator, or it is in a part. -/
theorem text_mem_joined {s separator : String} {parts : List (List Fragment)}
    (h : Fragment.text s ∈ joined separator parts) :
    s = separator ∨ ∃ part ∈ parts, Fragment.text s ∈ part := by
  induction parts with
  | nil => exact absurd h List.not_mem_nil
  | cons first rest ih =>
      cases rest with
      | nil =>
          rw [joined_singleton] at h
          exact Or.inr ⟨first, List.mem_cons_self, h⟩
      | cons second rest =>
          rw [joined_cons_cons] at h
          -- It is in the first part, the separator behind that, or among the others.
          rcases List.mem_append.1 h with h | hrest
          · rcases List.mem_append.1 h with hfirst | hsep
            · exact Or.inr ⟨first, List.mem_cons_self, hfirst⟩
            · exact Or.inl (Fragment.text.inj (List.mem_singleton.1 hsep))
          rcases ih hrest with hsep | ⟨part, hpart, hmem⟩
          · exact Or.inl hsep
          · exact Or.inr ⟨part, List.mem_cons_of_mem _ hpart, hmem⟩

/-- With parentheses around them there are three kinds of fixed texts. -/
theorem text_mem_parenthesized {s separator : String} {parts : List (List Fragment)}
    (h : Fragment.text s ∈ parenthesized separator parts) :
    s ∈ words ∨ s = separator ∨ ∃ part ∈ parts, Fragment.text s ∈ part := by
  rcases List.mem_append.1 h with h | hclose
  · rcases List.mem_cons.1 h with hopen | hjoined
    · rw [Fragment.text.inj hopen]
      exact Or.inl (by decide)
    · exact Or.inr (text_mem_joined hjoined)
  · rw [Fragment.text.inj (List.mem_singleton.1 hclose)]
    exact Or.inl (by decide)

end Sql

mutual

/-- The only fixed text in a literal is what separates the items of lists. -/
theorem Literal.words_fragments (s : String) :
    (value : Literal) → Fragment.text s ∈ value.fragments → s ∈ words
  | .list items => fun h => by
      rw [Literal.fragments] at h
      rcases text_mem_joined h with rfl | ⟨part, hpart, hmem⟩
      · decide
      · exact Literal.words_itemFragments s items part hpart hmem
  | .int _ | .uint _ | .float _ | .bool _ | .text _ | .timestamp _ | .null =>
      fun h => nomatch List.mem_singleton.1 h

theorem Literal.words_itemFragments (s : String) :
    (items : List Literal) → ∀ part ∈ Literal.itemFragments items, Fragment.text s ∈ part →
      s ∈ words
  | [] => fun _ hpart => absurd hpart List.not_mem_nil
  | item :: rest => fun part hpart hmem => by
      rw [Literal.itemFragments] at hpart
      rcases List.mem_cons.1 hpart with rfl | hrest
      · exact Literal.words_fragments s item hmem
      · exact Literal.words_itemFragments s rest part hrest hmem

end

namespace Filter

/-- The fixed texts of a comparison are its sign and the parentheses of a set. -/
theorem words_compareFragments (s column : String) (op : Comparison) (operand : Literal)
    (h : Fragment.text s ∈ compareFragments column op operand) : s ∈ words := by
  rcases List.mem_append.1 h with hcolumn | hoperand
  · rcases List.mem_cons.1 hcolumn with hname | hop
    · -- The name of the column is no fixed text.
      nomatch hname
    · rw [Fragment.text.inj (List.mem_singleton.1 hop)]
      cases op <;> decide
  · split at hoperand
    · -- A single part has no separator.
      have hset : Fragment.text s ∈ Fragment.text "(" :: operand.fragments ++ [.text ")"] := by
        rw [parenthesized, joined_singleton] at hoperand
        exact hoperand
      rcases List.mem_append.1 hset with hset | hclose
      · rcases List.mem_cons.1 hset with hopen | hmem
        · rw [Fragment.text.inj hopen]
          decide
        · exact operand.words_fragments s hmem
      · rw [Fragment.text.inj (List.mem_singleton.1 hclose)]
        decide
    · exact operand.words_fragments s hoperand

theorem separator_mem_words (op : Connective) : separator op ∈ words := by
  cases op <;> decide

mutual

/-- All fixed texts of a filter are known beforehand, so nothing that a user
    wrote is among them. -/
theorem words_fragments (s : String) :
    (filter : Filter) → Fragment.text s ∈ filter.fragments → s ∈ words
  | .compare column op operand => fun h => by
      rw [fragments] at h
      exact words_compareFragments s column op operand h
  | .isNull column => fun h => by
      rcases List.mem_cons.1 h with hname | hword
      · nomatch hname
      · rw [Fragment.text.inj (List.mem_singleton.1 hword)]
        decide
  | .regex column pattern ignoreCase => fun h => by
      rcases List.mem_cons.1 h with hname | h
      · nomatch hname
      rcases List.mem_cons.1 h with hword | hpattern
      · rw [Fragment.text.inj hword]
        cases ignoreCase <;> decide
      · nomatch List.mem_singleton.1 hpattern
  | .logical op children => fun h => by
      rw [fragments] at h
      rcases text_mem_parenthesized h with hword | rfl | ⟨part, hpart, hmem⟩
      · exact hword
      · exact separator_mem_words op
      · exact words_childFragments s children part hpart hmem
  | .group children => fun h => by
      rw [fragments] at h
      rcases text_mem_parenthesized h with hword | rfl | ⟨part, hpart, hmem⟩
      · exact hword
      · exact separator_mem_words .and
      · exact words_childFragments s children part hpart hmem

theorem words_childFragments (s : String) :
    (children : List Filter) → ∀ part ∈ childFragments children, Fragment.text s ∈ part →
      s ∈ words
  | [] => fun _ hpart => absurd hpart List.not_mem_nil
  | child :: rest => fun part hpart hmem => by
      rw [childFragments] at hpart
      rcases List.mem_cons.1 hpart with rfl | hrest
      · exact words_fragments s child hmem
      · exact words_childFragments s rest part hrest hmem

end

end Filter

namespace Sql

/-- The fixed texts of a call are known words, or the caller's. -/
theorem Call.words_fragments (s : String) (call : Call) (h : Fragment.text s ∈ call.fragments) :
    s ∈ words ∨ s ∈ call.within.flatMap Call.separators := by
  induction call using Call.induct with
  | name column => nomatch List.mem_singleton.1 h
  | value operand => exact Or.inl (operand.words_fragments s h)
  | values operands =>
      rcases text_mem_joined h with rfl | ⟨part, hpart, hmem⟩
      · exact Or.inl (by decide)
      · exact Or.inl (Literal.words_itemFragments s operands part hpart hmem)
  | bound operand => nomatch List.mem_singleton.1 h
  | grouped separator items ih =>
      rw [fragments_grouped] at h
      rw [within, List.flatMap_cons, groupWithin_eq_flatMap, List.mem_append]
      rcases text_mem_parenthesized h with hword | rfl | ⟨part, hpart, hmem⟩
      · exact Or.inl hword
      · exact Or.inr (Or.inl List.mem_cons_self)
      · rcases List.mem_map.1 hpart with ⟨item, hitem, rfl⟩
        rcases List.mem_flatMap.1 hmem with ⟨call, hcall, htext⟩
        refine (ih item hitem call hcall htext).imp_right fun hsep => Or.inr ?_
        -- A separator further inside is one of the calls within the group.
        rcases List.mem_flatMap.1 hsep with ⟨inner, hinner, hmem⟩
        exact List.mem_flatMap.2 ⟨inner, List.mem_flatMap.2
          ⟨item, hitem, List.mem_flatMap.2 ⟨call, hcall, hinner⟩⟩, hmem⟩
  | filter condition => exact Or.inl (condition.words_fragments s h)

/-! ## Pieces -/

/-- What a fragment becomes in a clause that has `index` values already. -/
def Fragment.piece (mode : Mode) (index : Nat) : Fragment → Piece
  | .text s => .fixed s
  | .name column => .name column
  | .operand value =>
      match mode with
      | .inline => .literal value
      | .parameterized => .placeholder index value
  | .bound value => .placeholder index value

/-- What several fragments become. -/
def pieces (mode : Mode) : Nat → List Fragment → List Piece
  | _, [] => []
  | index, fragment :: rest =>
      fragment.piece mode index :: pieces mode (index + (fragment.values mode).length) rest

variable (dialect : Dialect) (mode : Mode)

theorem values_piece (index : Nat) (fragment : Fragment) :
    (fragment.piece mode index).values = fragment.values mode := by
  cases fragment <;> cases mode <;> rfl

theorem text_piece (index : Nat) (fragment : Fragment) :
    (fragment.piece mode index).text dialect = fragment.spelling dialect mode index := by
  cases fragment <;> cases mode <;> rfl

/-- A fragment passes one value at most, which has the position that the values
    before it leave. -/
theorem places_piece (index : Nat) (fragment : Fragment) :
    (fragment.piece mode index).places = (fragment.values mode).zipIdx index := by
  cases fragment <;> cases mode <;> rfl

theorem leaves_piece (index : Nat) (fragment : Fragment) :
    (fragment.piece mode index).leaves = fragment.leaves := by
  cases fragment <;> cases mode <;> rfl

theorem stands_piece (index : Nat) (fragment : Fragment) :
    Piece.Stands mode fragment (fragment.piece mode index) := by
  cases fragment with
  | text s => exact .fixed s
  | name column => exact .name column
  | operand value =>
      cases mode with
      | inline => exact .literal value rfl
      | parameterized => exact .operand index value rfl
  | bound value => exact .bound index value

/-- One fragment adds the text of its piece, and the value that is passed for
    it. -/
theorem append_eq_piece (clause : Clause) (fragment : Fragment) :
    clause.append dialect mode fragment =
      ⟨clause.text ++ (fragment.piece mode clause.values.size).text dialect,
        clause.values ++ (fragment.piece mode clause.values.size).values.toArray⟩ := by
  rw [append_eq, text_piece, values_piece]

/-- Several fragments add the texts of their pieces, and the values that are
    passed for them. -/
theorem appendAll_eq_pieces (clause : Clause) (fragments : List Fragment) :
    clause.appendAll dialect mode fragments =
      ⟨clause.text ++
          String.join ((pieces mode clause.values.size fragments).map (Piece.text dialect)),
        clause.values ++
          ((pieces mode clause.values.size fragments).flatMap Piece.values).toArray⟩ := by
  induction fragments generalizing clause with
  | nil => simp only [Clause.appendAll, List.foldl_nil, pieces, List.map_nil, String.join_nil,
      String.append_empty, List.flatMap_nil, Array.append_empty]
  | cons fragment rest ih =>
      have hstep : clause.appendAll dialect mode (fragment :: rest) =
          (clause.append dialect mode fragment).appendAll dialect mode rest := rfl
      rw [hstep, ih, append_eq_piece]
      simp only [pieces, List.map_cons, String.join_cons, List.flatMap_cons, String.append_assoc,
        Array.append_assoc, Array.size_append, List.size_toArray, List.append_toArray,
        values_piece]

/-- Pieces and fragments correspond one by one. -/
theorem forall₂_stands_pieces (index : Nat) (fragments : List Fragment) :
    List.Forall₂ (Piece.Stands mode) fragments (pieces mode index fragments) := by
  induction fragments generalizing index with
  | nil => exact .nil
  | cons fragment rest ih => exact .cons (stands_piece mode index fragment) (ih _)

/-- No piece is there without a fragment for it. -/
theorem exists_of_mem_pieces {piece : Piece} {index : Nat} {fragments : List Fragment}
    (h : piece ∈ pieces mode index fragments) :
    ∃ fragment ∈ fragments, Piece.Stands mode fragment piece := by
  induction fragments generalizing index with
  | nil => exact absurd h List.not_mem_nil
  | cons fragment rest ih =>
      rcases List.mem_cons.1 h with rfl | hrest
      · exact ⟨fragment, List.mem_cons_self, stands_piece mode index fragment⟩
      · rcases ih hrest with ⟨other, hother, hstands⟩
        exact ⟨other, List.mem_cons_of_mem _ hother, hstands⟩

theorem flatMap_values_pieces (index : Nat) (fragments : List Fragment) :
    (pieces mode index fragments).flatMap Piece.values =
      fragments.flatMap (Fragment.values mode) := by
  induction fragments generalizing index with
  | nil => rfl
  | cons fragment rest ih => rw [pieces, List.flatMap_cons, ih, values_piece, List.flatMap_cons]

/-- Neither the mode nor the positions change what is written about. -/
theorem flatMap_leaves_pieces (index : Nat) (fragments : List Fragment) :
    (pieces mode index fragments).flatMap Piece.leaves = fragments.flatMap Fragment.leaves := by
  induction fragments generalizing index with
  | nil => rfl
  | cons fragment rest ih => rw [pieces, List.flatMap_cons, ih, leaves_piece, List.flatMap_cons]

/-- The positions go on where the values before end, and each value has its
    own. -/
theorem flatMap_places_pieces (index : Nat) (fragments : List Fragment) :
    (pieces mode index fragments).flatMap Piece.places =
      ((pieces mode index fragments).flatMap Piece.values).zipIdx index := by
  induction fragments generalizing index with
  | nil => rfl
  | cons fragment rest ih =>
      -- The rest starts behind the values of this fragment, and so do its
      -- positions.
      rw [pieces, List.flatMap_cons, List.flatMap_cons, List.zipIdx_append, ih, places_piece,
        values_piece]

/-! ## Runs -/

/-- What has to be true of the pieces that a run of calls adds to a clause with
    `count` values. -/
structure Adds (count : Nat) (calls : List Call) (pieces : List Piece) : Prop where
  /-- There is one piece for each fragment of each call. -/
  stands : List.Forall₂ (Piece.Stands mode) (calls.flatMap Call.fragments) pieces
  /-- Names and operands come in the order of the calls, and of the trees in
      them. -/
  ordered : pieces.flatMap Piece.leaves = (calls.flatMap Call.within).flatMap Call.leaves
  /-- What is fixed is a word of filters, or the caller's own separator. -/
  worded : ∀ s, Piece.fixed s ∈ pieces →
    s ∈ words ∨ s ∈ (calls.flatMap Call.within).flatMap Call.separators
  /-- The positions go on from `count` in steps of one, and the value at each
      is the one its placeholder stands for. -/
  numbered : pieces.flatMap Piece.places = (pieces.flatMap Piece.values).zipIdx count
  /-- With operands in the text, only what a caller passes apart is. -/
  inline : mode = .inline →
    pieces.flatMap Piece.values = (calls.flatMap Call.within).flatMap Call.apart
  /-- With operands apart, no literal is in the text. -/
  parameterized : mode = .parameterized → ∀ value, Piece.literal value ∉ pieces

/-- The pieces that the fragments of calls become are as they have to be. -/
theorem adds_pieces (count : Nat) (calls : List Call) :
    Adds mode count calls (pieces mode count (calls.flatMap Call.fragments)) where
  stands := forall₂_stands_pieces mode count _
  ordered := by
    rw [flatMap_leaves_pieces, List.flatMap_assoc, List.flatMap_assoc]
    exact List.flatMap_congr fun call _ => call.leaves_fragments
  worded := by
    intro s hs
    -- A fixed piece stands for a fixed text of one of the calls.
    rcases exists_of_mem_pieces mode hs with ⟨fragment, hmem, ⟨⟩⟩
    rcases List.mem_flatMap.1 hmem with ⟨call, hcall, htext⟩
    refine (call.words_fragments s htext).imp_right fun hsep => ?_
    rw [List.flatMap_assoc]
    exact List.mem_flatMap.2 ⟨call, hcall, hsep⟩
  numbered := flatMap_places_pieces mode count _
  inline := by
    rintro rfl
    rw [flatMap_values_pieces, List.flatMap_assoc, List.flatMap_assoc]
    exact List.flatMap_congr fun call _ => call.apart_fragments
  parameterized := by
    intro hmode value hmem
    rcases exists_of_mem_pieces mode hmem with ⟨fragment, _, hstands⟩
    -- Literals only stand for operands in the other mode.
    cases hstands with
    | literal value inline => exact Mode.noConfusion (hmode.symm.trans inline)

/-- A placeholder is told where its value is, in the clause as it is in the
    end. -/
theorem getElem?_of_placeholder {calls : List Call} {pieces : List Piece} (values : Array Literal)
    (h : Adds mode values.size calls pieces) {index : Nat} {value : Literal}
    (hmem : Piece.placeholder index value ∈ pieces) :
    (values ++ (pieces.flatMap Piece.values).toArray)[index]? = some value := by
  -- The placeholder is among the places, and these are numbered like the
  -- values.
  have hplace : (value, index) ∈ pieces.flatMap Piece.places :=
    List.mem_flatMap.2 ⟨_, hmem, List.mem_singleton_self _⟩
  rw [h.numbered, List.mk_mem_zipIdx_iff_le_and_getElem?_sub] at hplace
  rw [Array.getElem?_append_right hplace.1, List.getElem?_toArray]
  exact hplace.2

/-- Whatever is asked of a clause, its text and its values only grow, by pieces
    that depend on the mode, on the number of values before, and on the calls.
    They are the same for all dialects. -/
theorem perform_adds :
    ∃ added : Mode → Nat → List Call → List Piece,
      ∀ (dialect : Dialect) (mode : Mode) (clause : Clause) (calls : List Call),
        Adds mode clause.values.size calls (added mode clause.values.size calls) ∧
        clause.perform dialect mode calls =
          ⟨clause.text ++
              String.join ((added mode clause.values.size calls).map (Piece.text dialect)),
            clause.values ++
              ((added mode clause.values.size calls).flatMap Piece.values).toArray⟩ ∧
        ∀ index value, Piece.placeholder index value ∈ added mode clause.values.size calls →
          (clause.perform dialect mode calls).values[index]? = some value := by
  refine ⟨fun mode count calls => pieces mode count (calls.flatMap Call.fragments),
    fun dialect mode clause calls => ?_⟩
  have hadds := adds_pieces mode clause.values.size calls
  -- The dialect only enters when the pieces are turned into text.
  have hperform := (clause.perform_eq_appendAll dialect mode calls).trans
    (appendAll_eq_pieces dialect mode clause _)
  refine ⟨hadds, hperform, fun index value hmem => ?_⟩
  rw [hperform]
  exact getElem?_of_placeholder mode clause.values hadds hmem

-- A dialect that counts from one, and a clause that has a value already. The
-- items of lists are counted, and a list that is passed as a whole is one value.
example :
    let dialect : Dialect := ⟨id, fun _ => "", fun index => "$" ++ toString (index + 1), id⟩
    let filter := Filter.compare "a" .oneOf (.list [.bool true, .list [.null, .text "x"]])
    let clause := Clause.perform dialect .parameterized ⟨"b = $1 AND ", #[.null]⟩
      [.grouped " OR " [[.filter filter], [.bound (.list [.null, .null])]]]
    clause.text = "b = $1 AND (a IN ($2, $3, $4) OR $5)" ∧ clause.values.size = 5 := by
  decide +kernel

end Sql

end WhereClause
