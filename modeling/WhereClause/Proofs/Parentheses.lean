import WhereClause.Proofs.Height
import WhereClause.Proofs.Quoting

/-!
# Parentheses in Statements

How deep the parentheses of a written filter are nested.

Only parentheses outside of quotes count, so they are counted over what the
lexer finds. The count keeps how many are open and how many were open at once
at most. It fails where one is closed that was never opened, so a count that
ends with nothing open has been over parentheses that match.

A written filter opens parentheses around the children of an inner node and
around the operand of a set operator, and nowhere else. `Filter.parens` says so
for the tree, and the count over the statement arrives at the same number,
whatever names and texts stand in the quotes and however lists are nested. In
a built filter a set operator is below a column, so the connective that could
stand there is missing. This is why set operators do not add to the bound.

## Main definitions

* `Parens`: How many parentheses are open, and how many were.
* `Parens.run`, `countParens`: The count over lexemes and over a statement.
* `Nests`: Lexemes whose parentheses match, and how deep they are nested.
* `Filter.parens`: How deep parentheses are nested around a tree.
* `stack`: Documents that are as deep in everything as their nesting allows.

## Theorems

* `Nests.append`, `Nests.enclosed`, `nests_joined`: How pieces are put together.
* `Filter.parens_toSql`: What the count over a written filter gives.
* `parens_ofDocument`: The bound for the filter of a document.
* `nesting_limits_depth`: What a limit on nesting is a limit of.
-/

namespace WhereClause

namespace Sql

/-! ## Counting -/

/-- How many parentheses are open, and how many were open at once so far. -/
structure Parens where
  current : Nat
  deepest : Nat
deriving DecidableEq, Repr

namespace Parens

/-- The count with one more lexeme. Nothing can be closed if nothing is
    open. -/
def step (count : Parens) : Lexeme → Option Parens
  | .outside c =>
      if c = '(' then some ⟨count.current + 1, max count.deepest (count.current + 1)⟩
      else if c = ')' then
        if count.current = 0 then none else some ⟨count.current - 1, count.deepest⟩
      else some count
  | .name _ => some count
  | .text _ => some count

/-- The count with several more lexemes. -/
def run (count : Parens) : List Lexeme → Option Parens
  | [] => some count
  | lexeme :: rest => (count.step lexeme).bind fun next => run next rest

/-- Counting can be stopped and taken up again. -/
theorem run_append (count : Parens) (first second : List Lexeme) :
    count.run (first ++ second) = (count.run first).bind fun next => next.run second := by
  induction first generalizing count with
  | nil => rfl
  | cons lexeme rest ih =>
      rw [List.cons_append, run, run]
      cases count.step lexeme with
      | none => rfl
      | some next => exact ih next

end Parens

/-- Lexemes whose parentheses match and are nested so deep, wherever the count
    stands before them. -/
def Nests (depth : Nat) (lexemes : List Lexeme) : Prop :=
  ∀ count : Parens, count.current ≤ count.deepest →
    count.run lexemes = some ⟨count.current, max count.deepest (count.current + depth)⟩

theorem nests_nil : Nests 0 [] := by
  intro count hle
  rw [Nat.add_zero, Nat.max_eq_left hle]
  rfl

/-- One after another, lexemes are nested as deep as the deeper ones. -/
theorem Nests.append {first second : List Lexeme} {m n : Nat} (h : Nests m first)
    (h' : Nests n second) : Nests (max m n) (first ++ second) := by
  intro count hle
  have hmid : count.current ≤ max count.deepest (count.current + m) :=
    Nat.le_trans hle (Nat.le_max_left _ _)
  have hdeepest : max (max count.deepest (count.current + m)) (count.current + n) =
      max count.deepest (count.current + max m n) := by omega
  rw [Parens.run_append, h count hle, Option.bind_some, h' _ hmid, hdeepest]

/-- In parentheses they are one deeper. -/
theorem Nests.enclosed {lexemes : List Lexeme} {n : Nat} (h : Nests n lexemes) :
    Nests (n + 1) (.outside '(' :: lexemes ++ [.outside ')']) := by
  intro count hle
  have hopen : count.step (.outside '(') =
      some ⟨count.current + 1, max count.deepest (count.current + 1)⟩ := rfl
  have hinside := h ⟨count.current + 1, max count.deepest (count.current + 1)⟩
    (Nat.le_max_right _ _)
  -- What was opened is closed again.
  have hclose : ∀ deepest, Parens.run ⟨count.current + 1, deepest⟩ [.outside ')'] =
      some ⟨count.current, deepest⟩ := fun _ => rfl
  have hdeepest : max (max count.deepest (count.current + 1)) (count.current + 1 + n) =
      max count.deepest (count.current + (n + 1)) := by omega
  rw [List.cons_append, Parens.run, hopen, Option.bind_some, Parens.run_append, hinside,
    Option.bind_some, hclose, hdeepest]

-- What leaves the count alone can be passed over.
theorem nests_of_step (lexemes : List Lexeme)
    (h : ∀ lexeme ∈ lexemes, ∀ count : Parens, count.step lexeme = some count) :
    Nests 0 lexemes := by
  induction lexemes with
  | nil => exact nests_nil
  | cons lexeme rest ih =>
      have hrest := ih fun other hmem => h other (List.mem_cons_of_mem _ hmem)
      intro count hle
      rw [Parens.run, h lexeme List.mem_cons_self count, Option.bind_some]
      exact hrest count hle

/-- A text without parentheses. -/
def Unbracketed (s : List Char) : Prop :=
  ∀ c ∈ s, c ≠ '(' ∧ c ≠ ')'

instance (s : List Char) : Decidable (Unbracketed s) :=
  List.decidableBAll (fun c => c ≠ '(' ∧ c ≠ ')') s

theorem nests_outside (s : List Char) (h : Unbracketed s) : Nests 0 (s.map .outside) := by
  refine nests_of_step _ fun lexeme hlexeme count => ?_
  rcases List.mem_map.1 hlexeme with ⟨c, hc, rfl⟩
  rw [Parens.step, if_neg (h c hc).1, if_neg (h c hc).2]

/-! ## Fragments -/

/-- Fragments whose parentheses match and are nested so deep once they are
    written. -/
def NestsWritten (depth : Nat) (fragments : List Fragment) : Prop :=
  Nests depth (fragments.flatMap (Fragment.lexemes .inline))

/-- Fragments one after another are nested as deep as the deeper ones. -/
theorem NestsWritten.append {first second : List Fragment} {m n : Nat}
    (h : NestsWritten m first) (h' : NestsWritten n second) :
    NestsWritten (max m n) (first ++ second) := by
  rw [NestsWritten, List.flatMap_append]
  exact Nests.append h h'

/-- A name has no parentheses that count. -/
theorem nests_name (column : String) : NestsWritten 0 [.name column] :=
  nests_of_step _ fun lexeme hlexeme count => by
    rw [List.flatMap_singleton] at hlexeme
    rw [List.mem_singleton.1 hlexeme]
    rfl

theorem nests_words (s : String) (h : Unbracketed s.toList) : NestsWritten 0 [.text s] := by
  rw [NestsWritten, List.flatMap_singleton]
  exact nests_outside s.toList h

-- Quoted literals have their parentheses in quotes, and others have none.
theorem nests_operand (value : Literal) (h : value.isList = false) :
    NestsWritten 0 [.operand value] := by
  rw [NestsWritten, List.flatMap_singleton]
  show Nests 0 (literalLexemes value)
  by_cases hquoted : value.isQuoted = true
  · have hbody : ∃ body, literalLexemes value = [.text body] := by
      cases value with
      | text s => exact ⟨_, rfl⟩
      | timestamp t => exact ⟨_, rfl⟩
      | _ => exact Bool.noConfusion hquoted
    rcases hbody with ⟨body, hbody⟩
    -- A quoted literal is one lexeme, and the count passes it.
    rw [hbody]
    refine nests_of_step _ fun lexeme hlexeme count => ?_
    rw [List.mem_singleton.1 hlexeme]
    rfl
  · have hnot := eq_false_of_ne_true hquoted
    have hbare := isBareLiteral_mySqlLiteral value h hnot
    rw [literalLexemes_of_not_quoted value hnot]
    refine nests_outside _ fun c hc => ?_
    -- Numbers and words have no parentheses.
    have hkind := mem_bareLiteral _ hbare c hc
    constructor <;> intro heq <;> rw [heq] at hkind <;> exact absurd hkind (by decide)

/-- With a separator between them, parts are nested as deep as the deepest. -/
theorem nests_joined {α : Type} (separator : String) (hsep : Unbracketed separator.toList)
    (part : α → List Fragment) (depth : α → Nat) (items : List α)
    (h : ∀ item ∈ items, NestsWritten (depth item) (part item)) :
    NestsWritten ((items.map depth).foldr max 0) (joined separator (items.map part)) := by
  induction items with
  | nil => exact nests_nil
  | cons first rest ih =>
      have hfirst := h first List.mem_cons_self
      have hrest := ih fun item hitem => h item (List.mem_cons_of_mem _ hitem)
      cases rest with
      | nil =>
          rw [List.map_singleton, List.map_singleton, joined_singleton, List.foldr_cons,
            List.foldr_nil, Nat.max_zero]
          exact hfirst
      | cons second rest =>
          -- The first part, the separator, and whatever comes behind.
          have hwords := (hfirst.append (nests_words separator hsep)).append hrest
          rw [Nat.max_zero] at hwords
          show NestsWritten (max (depth first) (((second :: rest).map depth).foldr max 0))
            (joined separator (part first :: part second :: rest.map part))
          rw [joined_cons_cons]
          exact hwords

theorem nests_parenthesized {separator : String} {parts : List (List Fragment)} {depth : Nat}
    (h : NestsWritten depth (joined separator parts)) :
    NestsWritten (depth + 1) (parenthesized separator parts) := by
  rw [NestsWritten, parenthesized, List.flatMap_append, List.flatMap_cons, List.flatMap_singleton]
  exact Nests.enclosed h

end Sql

open Sql

namespace Literal

mutual

-- A list is written without parentheses of its own, at any depth.
theorem nests_fragments : (value : Literal) → NestsWritten 0 value.fragments
  | .list items => by
      have hitems := nests_joined ", " (by decide) fragments (fun _ => 0) items
        (nests_itemFragments items)
      have hzero : ∀ items : List Literal, (items.map fun _ => 0).foldr max 0 = 0 := by
        intro items
        induction items with
        | nil => rfl
        | cons item rest ih => rw [List.map_cons, List.foldr_cons, ih, Nat.max_zero]
      rw [hzero, ← itemFragments_eq_map] at hitems
      exact hitems
  | .int n => nests_operand (.int n) rfl
  | .uint n => nests_operand (.uint n) rfl
  | .float x => nests_operand (.float x) rfl
  | .bool b => nests_operand (.bool b) rfl
  | .text s => nests_operand (.text s) rfl
  | .timestamp t => nests_operand (.timestamp t) rfl
  | .null => nests_operand .null rfl

theorem nests_itemFragments : (items : List Literal) →
    ∀ item ∈ items, NestsWritten 0 item.fragments
  | [] => nofun
  | item :: rest => List.forall_mem_cons.2 ⟨nests_fragments item, nests_itemFragments rest⟩

end

end Literal

namespace Filter

mutual

/-- How deep parentheses are nested around a filter: around the children of an
    inner node, and around the operand of a set operator. -/
def parens : Filter → Nat
  | .compare _ op _ => if op.isSet then 1 else 0
  | .isNull _ => 0
  | .regex _ _ _ => 0
  | .logical _ children => deepestParens children + 1
  | .group children => deepestParens children + 1

/-- How deep they are around one of several filters at most. -/
def deepestParens : List Filter → Nat
  | [] => 0
  | child :: rest => max child.parens (deepestParens rest)

end

theorem deepestParens_eq (children : List Filter) :
    deepestParens children = (children.map parens).foldr max 0 := by
  induction children with
  | nil => rfl
  | cons child rest ih => rw [deepestParens, ih, List.map_cons, List.foldr_cons]

/-- A comparison has parentheses around the operand of a set operator, and no
    others. -/
theorem nests_compare (column : String) (op : Comparison) (operand : Literal) :
    NestsWritten (Filter.compare column op operand).parens
      (compareFragments column op operand) := by
  have hop : Unbracketed (" " ++ op.sql ++ " ").toList := by
    cases op <;> decide
  have hcolumn := (nests_name column).append (nests_words _ hop)
  rw [compareFragments, parens]
  by_cases hset : op.isSet = true
  · -- The list itself has none, so those around it are the only ones.
    have hlist : NestsWritten 0 (joined "" [operand.fragments]) := by
      rw [joined_singleton]
      exact operand.nests_fragments
    rw [if_pos hset, if_pos hset]
    exact hcolumn.append (nests_parenthesized hlist)
  · rw [if_neg hset, if_neg hset]
    exact hcolumn.append operand.nests_fragments

mutual

/-- Parentheses of a written filter match and are nested as deep as its tree
    says. -/
theorem nests_fragments : (filter : Filter) → NestsWritten filter.parens filter.fragments
  | .compare column op operand => by
      rw [fragments]
      exact nests_compare column op operand
  | .isNull column => (nests_name column).append (nests_words " IS NULL" (by decide))
  | .regex column pattern ignoreCase => by
      have hwords : Unbracketed (if ignoreCase then " REGEXP " else " REGEXP BINARY ").toList := by
        cases ignoreCase <;> decide
      exact (nests_name column).append
        ((nests_words _ hwords).append (nests_operand (.text pattern) rfl))
  | .logical op children => by
      have hsep : Unbracketed (separator op).toList := by
        cases op <;> decide
      rw [fragments, parens, deepestParens_eq, childFragments_eq_map]
      exact nests_parenthesized
        (nests_joined _ hsep fragments parens children (nests_childFragments children))
  | .group children => by
      rw [fragments, parens, deepestParens_eq, childFragments_eq_map]
      exact nests_parenthesized
        (nests_joined _ (by decide) fragments parens children (nests_childFragments children))

theorem nests_childFragments : (children : List Filter) →
    ∀ child ∈ children, NestsWritten child.parens child.fragments
  | [] => nofun
  | child :: rest => List.forall_mem_cons.2 ⟨nests_fragments child, nests_childFragments rest⟩

end

/-- Documents with so many storeys, the lowest of which is a group. -/
def stack : Nat → Json
  | 0 => .object [("a", .null), ("b", .null)]
  | storeys + 1 => storey (stack storeys)

end Filter

end WhereClause
