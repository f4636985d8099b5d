import WhereClause.Proofs.Numerals
import WhereClause.Proofs.Spelling

/-!
# Quotes in Statements

A lexer for the quotes of a statement, and what it finds in a written filter.

The lexer knows three places. Outside of quotes every character stands for
itself. A backtick opens a name, which the next backtick closes unless it is
doubled. A double quote opens a text, which the next double quote closes,
where a backslash takes the character behind it along. The lexer does not
undo anything: the body of a name or a text is what stands between the quotes,
character by character. Undoing is a second step, with the doubled backticks
of a name first and the escape table, read from right to left, after that.

What the lexer finds in a fragment is `Fragment.lexemes`, and a filter is read
fragment by fragment. A name in backticks can be read on its own only if no
backtick follows, so the piece that is read is the column together with the
words behind it. This is the one place where a fragment needs its neighbour.

## Main definitions

* `Lexeme`, `Place`: What the lexer finds, and where it stands.
* `lex`: The lexer.
* `original`, `unescape`: The escape table from right to left, and a text with
  the table undone.
* `singleBackticks`: A name with doubled backticks undone.
* `Fragment.lexemes`: What the lexer finds in a fragment.

## Theorems

* `unescape_escapeChars`, `singleBackticks_doubleBackticks`: Undoing works.
* `lex_quoteText`, `lex_quoteName`: Quoted texts and names are one lexeme.
* `lex_written`: Fragments of filters are read one by one.
* `lex_fragments`: A filter is read as the lexemes of its fragments, and the
  lexer ends outside of quotes.
-/

namespace WhereClause

namespace Sql

/-- A part of a statement, as far as quotes go. -/
inductive Lexeme where
  /-- A character outside of quotes. -/
  | outside (c : Char)
  /-- What stands between two backticks. -/
  | name (body : List Char)
  /-- What stands between two double quotes. -/
  | text (body : List Char)
deriving DecidableEq, Repr

/-- Where the lexer stands, with what it has read since the quote opened. -/
inductive Place where
  | outside
  | inName (body : List Char)
  | inText (body : List Char)
deriving DecidableEq, Repr

/-- A lexeme before what is read after it. -/
def Lexeme.before (lexeme : Lexeme) (read : List Lexeme × Place) : List Lexeme × Place :=
  (lexeme :: read.1, read.2)

/-- The lexemes of a statement from a place on, and the place it ends at. -/
def lex : Place → List Char → List Lexeme × Place
  | place, [] => ([], place)
  | .outside, c :: rest =>
      if c = '\x60' then lex (.inName []) rest
      else if c = '"' then lex (.inText []) rest
      else (Lexeme.outside c).before (lex .outside rest)
  | .inName body, c :: rest =>
      if c = '\x60' then
        match rest with
        | '\x60' :: rest => lex (.inName (body ++ ['\x60', '\x60'])) rest
        | rest => (Lexeme.name body).before (lex .outside rest)
      else lex (.inName (body ++ [c])) rest
  | .inText body, c :: rest =>
      if c = '\\' then
        match rest with
        | d :: rest => lex (.inText (body ++ [c, d])) rest
        | [] => ([], .inText (body ++ [c]))
      else if c = '"' then (Lexeme.text body).before (lex .outside rest)
      else lex (.inText (body ++ [c])) rest

/-- In a name a doubled backtick is read on, both characters together. -/
theorem lex_name_doubled (body rest : List Char) :
    lex (.inName body) ('\x60' :: '\x60' :: rest) =
      lex (.inName (body ++ ['\x60', '\x60'])) rest := by
  rw [lex, if_pos rfl]

/-- A backtick with none behind it ends a name. -/
theorem lex_name_closed (body rest : List Char) (hrest : rest.head? ≠ some '\x60') :
    lex (.inName body) ('\x60' :: rest) = (Lexeme.name body).before (lex .outside rest) := by
  rw [lex.eq_def]
  simp only [if_true]
  split
  · exact absurd rfl hrest
  · rfl

theorem lex_name_other (body : List Char) (c : Char) (hc : c ≠ '\x60') (rest : List Char) :
    lex (.inName body) (c :: rest) = lex (.inName (body ++ [c])) rest := by
  rw [lex.eq_def]
  simp only [if_neg hc]

/-- In a text a backslash takes the next character along, be it a quote. -/
theorem lex_text_escaped (body : List Char) (c : Char) (rest : List Char) :
    lex (.inText body) ('\\' :: c :: rest) = lex (.inText (body ++ ['\\', c])) rest := by
  rw [lex, if_pos rfl]

theorem lex_text_closed (body rest : List Char) :
    lex (.inText body) ('"' :: rest) = (Lexeme.text body).before (lex .outside rest) := by
  rw [lex.eq_def]
  simp only [if_neg (show ¬ '"' = '\\' by decide), if_true]

theorem lex_text_other (body : List Char) (c : Char) (hc : c ≠ '\\' ∧ c ≠ '"')
    (rest : List Char) :
    lex (.inText body) (c :: rest) = lex (.inText (body ++ [c])) rest := by
  rw [lex.eq_def]
  simp only [if_neg hc.1, if_neg hc.2]

/-- Lexemes before what is read after them. -/
def prepend (lexemes : List Lexeme) (read : List Lexeme × Place) : List Lexeme × Place :=
  (lexemes ++ read.1, read.2)

theorem prepend_append (first second : List Lexeme) (read : List Lexeme × Place) :
    prepend (first ++ second) read = prepend first (prepend second read) := by
  simp only [prepend, List.append_assoc]

/-! ## Undoing -/

/-- The character that a letter behind a backslash stands for. -/
def original (letter : Char) : Option Char :=
  match letter with
  | '0' => some '\x00'
  | 'b' => some '\x08'
  | 't' => some '\t'
  | 'z' => some '\x1a'
  | 'n' => some '\n'
  | 'r' => some '\r'
  | '"' => some '"'
  | '\'' => some '\''
  | '\\' => some '\\'
  | '%' => some '%'
  | _ => none

/-- A text with the escape table undone. A backslash before anything that is
    not in the table stands for itself. -/
def unescape : List Char → List Char
  | [] => []
  | [c] => [c]
  | c :: letter :: rest =>
      if c = '\\' then
        match original letter with
        | some d => d :: unescape rest
        | none => c :: unescape (letter :: rest)
      else c :: unescape (letter :: rest)

/-- A text with every doubled backtick written once. -/
def singleBackticks : List Char → List Char
  | '\x60' :: '\x60' :: rest => '\x60' :: singleBackticks rest
  | c :: rest => c :: singleBackticks rest
  | [] => []

/-- The table read from right to left is the table. -/
theorem original_of_special (c letter : Char) (h : special c = some letter) :
    original letter = some c := by
  rw [special.eq_def] at h
  split at h <;> first | exact absurd h (by simp only [reduceCtorEq, not_false_eq_true]) | skip
  all_goals
    rw [← Option.some.inj h]
    rfl

/-- A character that is not in the table is neither of the two that the lexer
    looks for in a text. -/
theorem ne_of_special_none (c : Char) (h : special c = none) : c ≠ '\\' ∧ c ≠ '"' := by
  constructor <;> intro hc <;> rw [hc] at h <;> exact absurd h (by decide)

theorem escapeChars_cons_of_none (c : Char) (h : special c = none) (s : List Char) :
    escapeChars (c :: s) = c :: escapeChars s := by
  rw [escapeChars, List.flatMap_cons, escapeChar, h]
  rfl

theorem escapeChars_cons_of_some (c letter : Char) (h : special c = some letter)
    (s : List Char) : escapeChars (c :: s) = '\\' :: letter :: escapeChars s := by
  rw [escapeChars, List.flatMap_cons, escapeChar, h]
  rfl

theorem doubleBackticks_cons_self (s : List Char) :
    doubleBackticks ('\x60' :: s) = '\x60' :: '\x60' :: doubleBackticks s := rfl

theorem doubleBackticks_cons_of_ne (c : Char) (hc : c ≠ '\x60') (s : List Char) :
    doubleBackticks (c :: s) = c :: doubleBackticks s := by
  rw [doubleBackticks, List.flatMap_cons, if_neg hc]
  rfl

theorem unescape_cons_of_ne (c : Char) (hc : c ≠ '\\') (s : List Char) :
    unescape (c :: s) = c :: unescape s := by
  cases s with
  | nil => rfl
  | cons d rest => rw [unescape, if_neg hc]

/-- Escaping is undone by reading the table from right to left. -/
theorem unescape_escapeChars (s : List Char) : unescape (escapeChars s) = s := by
  induction s with
  | nil => rfl
  | cons c s ih =>
      rcases h : special c with _ | letter
      · -- The character stands for itself, and it is no backslash.
        rw [escapeChars_cons_of_none c h, unescape_cons_of_ne c (ne_of_special_none c h).1, ih]
      · -- The letter behind the backslash leads back to the character.
        rw [escapeChars_cons_of_some c letter h, unescape, if_pos rfl,
          original_of_special c letter h, ih]

theorem singleBackticks_cons_of_ne (c : Char) (hc : c ≠ '\x60') (s : List Char) :
    singleBackticks (c :: s) = c :: singleBackticks s := by
  rw [singleBackticks.eq_def]
  split
  · rename_i heq
    exact absurd (List.cons.inj heq).1 hc
  · rename_i heq
    rw [(List.cons.inj heq).1, (List.cons.inj heq).2]
  · rename_i heq
    exact absurd heq (List.cons_ne_nil _ _)

/-- Doubling backticks is undone by taking one of each two. -/
theorem singleBackticks_doubleBackticks (s : List Char) :
    singleBackticks (doubleBackticks s) = s := by
  induction s with
  | nil => rfl
  | cons c s ih =>
      by_cases hc : c = '\x60'
      · rw [hc, doubleBackticks_cons_self, singleBackticks, ih]
      · rw [doubleBackticks_cons_of_ne c hc, singleBackticks_cons_of_ne c hc, ih]

/-! ## Quoted texts and names -/

/-- Escaped characters stay inside their text, by induction on them. -/
theorem lex_escapeChars (body s rest : List Char) :
    lex (.inText body) (escapeChars s ++ '"' :: rest) =
      (Lexeme.text (body ++ escapeChars s)).before (lex .outside rest) := by
  induction s generalizing body with
  | nil =>
      rw [escapeChars, List.flatMap_nil, List.nil_append, List.append_nil]
      exact lex_text_closed body rest
  | cons c s ih =>
      rcases h : special c with _ | letter
      · rw [escapeChars_cons_of_none c h, List.cons_append,
          lex_text_other body c (ne_of_special_none c h), ih, List.append_assoc,
          List.singleton_append]
      · -- The backslash takes the letter along, whatever the letter is.
        rw [escapeChars_cons_of_some c letter h, List.cons_append, List.cons_append,
          lex_text_escaped, ih, List.append_assoc]
        rfl

/-- A quoted text is one lexeme, whatever is in it and whatever follows. -/
theorem lex_quoteText (s : String) (rest : List Char) :
    lex .outside ((quoteText s).toList ++ rest) =
      (Lexeme.text (escapeChars s.toList)).before (lex .outside rest) := by
  rw [quoteText, String.toList_ofList, List.cons_append, List.cons_append, List.append_assoc,
    List.singleton_append, lex, if_neg (by decide), if_pos rfl]
  exact lex_escapeChars [] s.toList rest

-- Doubled backticks stay inside their name, and the closing one closes it
-- unless a backtick follows.
theorem lex_doubleBackticks (body s rest : List Char) (hrest : rest.head? ≠ some '\x60') :
    lex (.inName body) (doubleBackticks s ++ '\x60' :: rest) =
      (Lexeme.name (body ++ doubleBackticks s)).before (lex .outside rest) := by
  induction s generalizing body with
  | nil =>
      rw [doubleBackticks, List.flatMap_nil, List.nil_append, List.append_nil]
      exact lex_name_closed body rest hrest
  | cons c s ih =>
      by_cases hc : c = '\x60'
      · rw [hc, doubleBackticks_cons_self, List.cons_append, List.cons_append, lex_name_doubled,
          ih, List.append_assoc]
        rfl
      · rw [doubleBackticks_cons_of_ne c hc, List.cons_append, lex_name_other body c hc, ih,
          List.append_assoc, List.singleton_append]

/-- A quoted name is one lexeme unless a backtick follows. -/
theorem lex_quoteName (name : String) (rest : List Char) (hrest : rest.head? ≠ some '\x60') :
    lex .outside ((quoteName name).toList ++ rest) =
      (Lexeme.name (doubleBackticks (escapeChars name.toList))).before (lex .outside rest) := by
  rw [quoteName, String.toList_ofList, List.cons_append, List.cons_append, List.append_assoc,
    List.singleton_append, lex, if_pos rfl]
  exact lex_doubleBackticks [] _ rest hrest

/-- Characters that are no quotes stand for themselves. -/
theorem lex_outside (s rest : List Char) (h : ∀ c ∈ s, c ≠ '"' ∧ c ≠ '\x60') :
    lex .outside (s ++ rest) = prepend (s.map .outside) (lex .outside rest) := by
  induction s with
  | nil => rfl
  | cons c s ih =>
      have hc := h c List.mem_cons_self
      rw [List.cons_append, lex, if_neg hc.2, if_neg hc.1,
        ih fun d hd => h d (List.mem_cons_of_mem c hd)]
      rfl

/-! ## Fragments -/

/-- What the lexer finds in a literal that is no list. -/
def literalLexemes : Literal → List Lexeme
  | .text s => [.text (escapeChars s.toList)]
  | .timestamp t => [.text (escapeChars t.statementText.toList)]
  | value => (mySqlLiteral value).toList.map .outside

/-- What the lexer finds in a fragment. -/
def Fragment.lexemes (mode : Mode) : Fragment → List Lexeme
  | .text s => s.toList.map .outside
  | .name column => [.name (doubleBackticks (escapeChars column.toList))]
  | .operand value =>
      match mode with
      | .inline => literalLexemes value
      | .parameterized => [.outside '?']
  | .bound _ => [.outside '?']

/-- A literal without quotes is read character by character. -/
theorem literalLexemes_of_not_quoted (value : Literal) (h : value.isQuoted = false) :
    literalLexemes value = (mySqlLiteral value).toList.map .outside := by
  cases value with
  | text s => exact Bool.noConfusion h
  | timestamp t => exact Bool.noConfusion h
  | _ => rfl

/-- A single literal is read as its lexemes, with quotes or without. -/
theorem lex_mySqlLiteral (value : Literal) (hlist : value.isList = false) (rest : List Char) :
    lex .outside ((mySqlLiteral value).toList ++ rest) =
      prepend (literalLexemes value) (lex .outside rest) := by
  by_cases hquoted : value.isQuoted = true
  · cases value with
    | text s => exact lex_quoteText s rest
    | timestamp t => exact lex_quoteText t.statementText rest
    | _ => exact Bool.noConfusion hquoted
  · have hnot := eq_false_of_ne_true hquoted
    -- What is not quoted is a number or a word, and neither has a quote in it.
    have hbare := isBareLiteral_mySqlLiteral value hlist hnot
    have hchars : ∀ c ∈ (mySqlLiteral value).toList, c ≠ '"' ∧ c ≠ '\x60' := by
      intro c hc
      have hkind := mem_bareLiteral _ hbare c hc
      constructor <;> intro heq <;> rw [heq] at hkind <;> exact absurd hkind (by decide)
    rw [literalLexemes_of_not_quoted value hnot]
    exact lex_outside _ rest hchars

/-- The fragments of filters are read one by one, whatever follows them. -/
theorem lex_written (mode : Mode) (fragments : List Fragment) (h : Written fragments)
    (rest : List Char) :
    lex .outside (fragments.flatMap (Fragment.chars mode) ++ rest) =
      prepend (fragments.flatMap (Fragment.lexemes mode)) (lex .outside rest) := by
  induction h generalizing rest with
  | nil => rfl
  | append hs ht ihs iht =>
      rw [List.flatMap_append, List.append_assoc, ihs, iht, List.flatMap_append, prepend_append]
  | words s fixed =>
      rw [List.flatMap_singleton, List.flatMap_singleton]
      exact lex_outside _ rest fun c hc => ⟨(fixed c hc).1, (fixed c hc).2.1⟩
  | column name s fixed blank =>
      -- The words behind the column begin with a blank, so no backtick follows.
      have hnext : (s.toList ++ rest).head? ≠ some '\x60' := by
        rw [List.head?_append, blank]
        exact fun h => absurd (Option.some.inj h) (by decide)
      have hwords := lex_outside s.toList rest fun c hc => ⟨(fixed c hc).1, (fixed c hc).2.1⟩
      simp only [List.flatMap_cons, List.flatMap_nil, List.append_nil, List.append_assoc]
      exact (lex_quoteName name _ hnext).trans (congrArg (Lexeme.before _) hwords)
  | operand value single =>
      rw [List.flatMap_singleton, List.flatMap_singleton]
      cases mode with
      | inline => exact lex_mySqlLiteral value single rest
      | parameterized =>
          rw [chars_operand_parameterized]
          exact lex_outside ['?'] rest (List.forall_mem_singleton.2 ⟨by decide, by decide⟩)

end Sql

open Sql

namespace Filter

/-- A filter is read as the lexemes of its fragments, and the lexer ends
    outside of quotes. -/
theorem lex_fragments (mode : Mode) (filter : Filter) :
    lex .outside (filter.fragments.flatMap (Fragment.chars mode)) =
      (filter.fragments.flatMap (Fragment.lexemes mode), .outside) := by
  have h := lex_written mode _ filter.written_fragments []
  rw [List.append_nil] at h
  rw [h, prepend, lex, List.append_nil]

end Filter

end WhereClause
