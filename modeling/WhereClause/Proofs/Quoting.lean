import WhereClause.Proofs.Lexing

/-!
# No Text Leaves its Quotes

What a statement shows of the texts and names that were put into it.

Whatever the columns are called and whatever the literals say, the lexer finds
the quoted parts of a written filter to be the names and texts of the tree,
from left to right, each of them whole, and it ends outside of quotes. Nothing
is asked of the tree: it need not come from a document, its lists may be
nested or empty, and so may its inner nodes.

That alone would allow a text to have an effect on what stands outside of the
quotes. So the second statement compares two trees. `Filter.emptied` empties
the names and texts of a tree and leaves the rest of it alone. Two trees that
are equal then are written alike, if one empties the quotes in the statements
as well. A timestamp is written as a text, so emptying makes it one.

## Main definitions

* `Quoted`, `Lexeme.quoted?`: A name or a text as it was meant, and the one
  that a lexeme is.
* `Filter.quoted`: The names and texts of a tree, from left to right.
* `Lexeme.emptied`, `Filter.emptied`: What is left when quotes are emptied, of
  a statement and of a tree.
* `lexemes`: The lexemes of a statement.

## Theorems

* `quoted_fragments`, `emptied_fragments`: The names and texts of a tree are
  those of its fragments, and so are the emptied ones.
* `quoted_written`, `emptied_written`: The same for what the lexer finds in
  them.
* `quotes_hold`: No text leaves its quotes.
-/

namespace WhereClause

namespace Sql

/-- A name or a text that stands in quotes, as it was meant. -/
inductive Quoted where
  | name (s : String)
  | text (s : String)
deriving DecidableEq, Repr

/-- The name or text that a lexeme is. -/
def Lexeme.quoted? : Lexeme → Option Quoted
  | .outside _ => none
  | .name body => some (.name (String.ofList (unescape (singleBackticks body))))
  | .text body => some (.text (String.ofList (unescape body)))

/-- A lexeme with nothing in its quotes. -/
def Lexeme.emptied : Lexeme → Lexeme
  | .outside c => .outside c
  | .name _ => .name []
  | .text _ => .text []

/-- The lexemes of a statement. -/
def lexemes (statement : String) : List Lexeme :=
  (lex .outside statement.toList).1

end Sql

open Sql

namespace Literal

mutual

/-- The texts of a literal, from left to right. -/
def quoted : Literal → List Quoted
  | .text s => [.text s]
  | .timestamp t => [.text t.statementText]
  | .list items => quotedItems items
  | .int _ => []
  | .uint _ => []
  | .float _ => []
  | .bool _ => []
  | .null => []

/-- The texts of the items of a list. -/
def quotedItems : List Literal → List Quoted
  | [] => []
  | item :: rest => item.quoted ++ quotedItems rest

end

mutual

/-- A literal with its texts emptied. -/
def emptied : Literal → Literal
  | .text _ => .text ""
  | .timestamp _ => .text ""
  | .list items => .list (emptiedItems items)
  | .int n => .int n
  | .uint n => .uint n
  | .float x => .float x
  | .bool b => .bool b
  | .null => .null

/-- The items of a list with their texts emptied. -/
def emptiedItems : List Literal → List Literal
  | [] => []
  | item :: rest => item.emptied :: emptiedItems rest

end

end Literal

namespace Filter

mutual

/-- The names and texts of a filter, from left to right. -/
def quoted : Filter → List Quoted
  | .compare column _ operand => .name column :: operand.quoted
  | .isNull column => [.name column]
  | .regex column pattern _ => [.name column, .text pattern]
  | .logical _ children => quotedAll children
  | .group children => quotedAll children

/-- The names and texts of several filters. -/
def quotedAll : List Filter → List Quoted
  | [] => []
  | child :: rest => child.quoted ++ quotedAll rest

end

mutual

/-- A filter with its names and texts emptied. -/
def emptied : Filter → Filter
  | .compare _ op operand => .compare "" op operand.emptied
  | .isNull _ => .isNull ""
  | .regex _ _ ignoreCase => .regex "" "" ignoreCase
  | .logical op children => .logical op (emptiedAll children)
  | .group children => .group (emptiedAll children)

/-- Several filters with their names and texts emptied. -/
def emptiedAll : List Filter → List Filter
  | [] => []
  | child :: rest => child.emptied :: emptiedAll rest

end

end Filter

namespace Sql

/-- The names and texts of a fragment. -/
def Fragment.quoted : Fragment → List Quoted
  | .text _ => []
  | .name column => [.name column]
  | .operand value => value.quoted
  | .bound value => value.quoted

/-- A fragment with its names and texts emptied. -/
def Fragment.emptied : Fragment → Fragment
  | .text s => .text s
  | .name _ => .name ""
  | .operand value => .operand value.emptied
  | .bound value => .bound value.emptied

theorem quoted_parenthesized (separator : String) (parts : List (List Fragment)) :
    (parenthesized separator parts).flatMap Fragment.quoted =
      parts.flatMap fun part => part.flatMap Fragment.quoted :=
  flatMap_parenthesized Fragment.quoted (fun _ => rfl) separator parts

theorem emptied_parenthesized (separator : String) (parts : List (List Fragment)) :
    (parenthesized separator parts).map Fragment.emptied =
      parenthesized separator (parts.map fun part => part.map Fragment.emptied) :=
  map_parenthesized Fragment.emptied (fun _ => rfl) separator parts

end Sql

/-! ## From trees to fragments -/

namespace Literal

mutual

theorem quoted_fragments : (value : Literal) →
    value.fragments.flatMap Fragment.quoted = value.quoted
  | .list items => by
      rw [fragments, flatMap_joined Fragment.quoted ", " rfl]
      exact quoted_itemFragments items
  | .text s => rfl
  | .timestamp t => rfl
  | .int n => rfl
  | .uint n => rfl
  | .float x => rfl
  | .bool b => rfl
  | .null => rfl

theorem quoted_itemFragments : (items : List Literal) →
    ((itemFragments items).flatMap fun part => part.flatMap Fragment.quoted) = quotedItems items
  | [] => rfl
  | item :: rest => by
      rw [itemFragments, List.flatMap_cons, quoted_fragments item, quoted_itemFragments rest]
      rfl

end

mutual

theorem emptied_fragments : (value : Literal) →
    value.emptied.fragments = value.fragments.map Fragment.emptied
  | .list items => by
      rw [fragments, map_joined Fragment.emptied ", " rfl, ← emptied_itemFragments items]
      rfl
  | .text s => rfl
  | .timestamp t => rfl
  | .int n => rfl
  | .uint n => rfl
  | .float x => rfl
  | .bool b => rfl
  | .null => rfl

theorem emptied_itemFragments : (items : List Literal) →
    itemFragments (emptiedItems items) =
      (itemFragments items).map fun part => part.map Fragment.emptied
  | [] => rfl
  | item :: rest => by
      rw [emptiedItems, itemFragments, emptied_fragments item, emptied_itemFragments rest]
      rfl

end

end Literal

namespace Filter

mutual

/-- The names and texts of a tree are those of its fragments, in order. -/
theorem quoted_fragments : (filter : Filter) →
    filter.fragments.flatMap Fragment.quoted = filter.quoted
  | .compare column op operand => by
      rw [fragments, flatMap_compareFragments Fragment.quoted (fun _ => rfl), quoted,
        operand.quoted_fragments]
      rfl
  | .isNull column => rfl
  | .regex column pattern ignoreCase => rfl
  | .logical op children => by
      rw [fragments, quoted_parenthesized]
      exact quoted_childFragments children
  | .group children => by
      rw [fragments, quoted_parenthesized]
      exact quoted_childFragments children

theorem quoted_childFragments : (children : List Filter) →
    ((childFragments children).flatMap fun part => part.flatMap Fragment.quoted) =
      quotedAll children
  | [] => rfl
  | child :: rest => by
      rw [childFragments, List.flatMap_cons, quoted_fragments child, quoted_childFragments rest]
      rfl

end

mutual

/-- Emptying a tree empties its fragments. -/
theorem emptied_fragments : (filter : Filter) →
    filter.emptied.fragments = filter.fragments.map Fragment.emptied
  | .compare column op operand => by
      rw [emptied, fragments, fragments, map_compareFragments Fragment.emptied (fun _ => rfl),
        ← operand.emptied_fragments]
      rfl
  | .isNull column => rfl
  | .regex column pattern ignoreCase => rfl
  | .logical op children => by
      rw [emptied, fragments, fragments, emptied_parenthesized, emptied_childFragments children]
  | .group children => by
      rw [emptied, fragments, fragments, emptied_parenthesized, emptied_childFragments children]

theorem emptied_childFragments : (children : List Filter) →
    childFragments (emptiedAll children) =
      (childFragments children).map fun part => part.map Fragment.emptied
  | [] => rfl
  | child :: rest => by
      rw [emptiedAll, childFragments, emptied_fragments child, emptied_childFragments rest]
      rfl

end

end Filter

/-! ## From fragments to lexemes -/

namespace Sql

/-- A quoted name is read as the name that was meant. -/
theorem quoted_name (name : String) :
    (Lexeme.name (doubleBackticks (escapeChars name.toList))).quoted? = some (.name name) := by
  rw [Lexeme.quoted?, singleBackticks_doubleBackticks, unescape_escapeChars, String.ofList_toList]

/-- A quoted text is read as the text that was meant. -/
theorem quoted_text (s : String) :
    (Lexeme.text (escapeChars s.toList)).quoted? = some (.text s) := by
  rw [Lexeme.quoted?, unescape_escapeChars, String.ofList_toList]

theorem quoted_outside (s : List Char) : (s.map Lexeme.outside).filterMap Lexeme.quoted? = [] := by
  induction s with
  | nil => rfl
  | cons c s ih => exact ih

/-- The texts that are found in a literal are those it has. -/
theorem quoted_literalLexemes (value : Literal) (h : value.isList = false) :
    (literalLexemes value).filterMap Lexeme.quoted? = value.quoted := by
  cases value with
  | text s => rw [literalLexemes, List.filterMap_cons_some (quoted_text s)]; rfl
  | timestamp t => rw [literalLexemes, List.filterMap_cons_some (quoted_text _)]; rfl
  | list items => exact Bool.noConfusion h
  | _ => exact quoted_outside _

/-- Emptying a literal before or after it is written makes no difference. -/
theorem emptied_literalLexemes (value : Literal) (h : value.isList = false) :
    (literalLexemes value.emptied).map Lexeme.emptied =
      (literalLexemes value).map Lexeme.emptied := by
  cases value with
  | list items => exact Bool.noConfusion h
  | text s => simp only [Literal.emptied, literalLexemes, List.map_singleton, Lexeme.emptied]
  | timestamp t => simp only [Literal.emptied, literalLexemes, List.map_singleton, Lexeme.emptied]
  | _ => simp only [Literal.emptied]

/-- The lexer finds the names and texts of fragments, in order. -/
theorem quoted_written (fragments : List Fragment) (h : Written fragments) :
    (fragments.flatMap (Fragment.lexemes .inline)).filterMap Lexeme.quoted? =
      fragments.flatMap Fragment.quoted := by
  induction h with
  | nil => rfl
  | append hs ht ihs iht =>
      rw [List.flatMap_append, List.filterMap_append, ihs, iht, List.flatMap_append]
  | words s fixed =>
      rw [List.flatMap_singleton]
      -- Words are outside of quotes.
      exact quoted_outside s.toList
  | column name s fixed blank =>
      simp only [List.flatMap_cons, List.flatMap_nil, List.append_nil, Fragment.lexemes,
        List.singleton_append, List.filterMap_cons_some (quoted_name name), quoted_outside]
      rfl
  | operand value single =>
      rw [List.flatMap_singleton, List.flatMap_singleton]
      exact quoted_literalLexemes value single

/-- Emptying fragments empties what the lexer finds in them. -/
theorem emptied_written (fragments : List Fragment) (h : Written fragments) :
    ((fragments.map Fragment.emptied).flatMap (Fragment.lexemes .inline)).map Lexeme.emptied =
      (fragments.flatMap (Fragment.lexemes .inline)).map Lexeme.emptied := by
  induction h with
  | nil => rfl
  | append hs ht ihs iht =>
      rw [List.map_append, List.flatMap_append, List.map_append, ihs, iht, List.flatMap_append,
        List.map_append]
  | words s fixed => rfl
  | column name s fixed blank =>
      simp only [List.map_cons, List.map_nil, Fragment.emptied, List.flatMap_cons,
        List.flatMap_nil, Fragment.lexemes, List.singleton_append, Lexeme.emptied]
  | operand value single =>
      rw [List.map_singleton, List.flatMap_singleton, List.flatMap_singleton]
      -- Only here do quotes have something in them that could make a difference.
      exact emptied_literalLexemes value single

end Sql

namespace Filter

theorem lexemes_toSql (filter : Filter) :
    lexemes (filter.toSql .mySql) = filter.fragments.flatMap (Fragment.lexemes .inline) := by
  rw [lexemes, toList_toSql, lex_fragments]

-- What the quotes of a statement leave open does not depend on what stands in
-- them.
theorem emptied_lexemes (filter : Filter) :
    (lexemes (filter.toSql .mySql)).map Lexeme.emptied =
      (lexemes (filter.emptied.toSql .mySql)).map Lexeme.emptied := by
  rw [lexemes_toSql, lexemes_toSql, emptied_fragments,
    emptied_written _ filter.written_fragments]

/-- No text leaves its quotes. The lexer ends outside of quotes, what it finds
    in quotes are the names and texts of the tree, and the rest of the
    statement is the same for all trees that differ in nothing else. -/
theorem quotes_hold (filter : Filter) :
    (lex .outside (filter.toSql .mySql).toList).2 = .outside ∧
      (lexemes (filter.toSql .mySql)).filterMap Lexeme.quoted? = filter.quoted ∧
      ∀ other : Filter, other.emptied = filter.emptied →
        (lexemes (other.toSql .mySql)).map Lexeme.emptied =
          (lexemes (filter.toSql .mySql)).map Lexeme.emptied := by
  refine ⟨?_, ?_, fun other h => ?_⟩
  · rw [toList_toSql, lex_fragments]
  · rw [lexemes_toSql, quoted_written _ filter.written_fragments, quoted_fragments]
  · -- Both statements, once emptied, are that of the emptied tree.
    rw [emptied_lexemes other, h, ← emptied_lexemes filter]

/-- Hostile names and texts beside harmless ones. -/
theorem quotes_hold_hostile :
    (Filter.compare "a" .eq (.text "x")).emptied =
        (Filter.compare "\x60 OR \x60" .eq (.text "\" OR 1=1 \\")).emptied ∧
      (lexemes ((Filter.compare "a" .eq (.text "x")).toSql .mySql)).map Lexeme.emptied =
        (lexemes ((Filter.compare "\x60 OR \x60" .eq (.text "\" OR 1=1 \\")).toSql
          .mySql)).map Lexeme.emptied :=
  ⟨rfl, (quotes_hold (.compare "\x60 OR \x60" .eq (.text "\" OR 1=1 \\"))).2.2
    (.compare "a" .eq (.text "x")) rfl⟩

end Filter

end WhereClause
