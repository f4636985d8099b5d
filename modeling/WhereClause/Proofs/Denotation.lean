import Mathlib.Data.String.Basic
import WhereClause.Proofs.Columns
import WhereClause.Proofs.Escaping
import WhereClause.Proofs.Parameters
import WhereClause.Proofs.Quoting

/-!
# What Quotes Denote

How the database reads what stands in the quotes of a statement.

The escape table can be read from right to left, and then every name and every
text comes back. The database does not know the table. It has rules of its own,
and these are written down here, for its default mode. In a text a backslash
takes the character behind it along. Six of these characters stand for others,
a percent sign and an underscore keep their backslash, and any other character
stands for itself. In a name a doubled backtick stands for one, and a backslash
has no meaning.

The table agrees with these rules in most of its entries, and disagrees in two
of them. It puts a backslash before the percent sign, which keeps it, so that
is what the text then has. And it writes the character of number 26 as a small
letter, where the rules only know the large one, so the letter is what is left.
A text with neither of them is read as it was meant. In names the table is used
all the same, so a name is read as its escaped form, and as it was meant only
if there is nothing to escape.

What is said of single texts and names is then true of statements, because the
lexer of a statement closes its quotes where the database does. With this the
literals in a statement can be compared with the values of a statement that has
them apart, and its names with the keys of the document.

## Main definitions

* `meant`, `denoted`: A character behind a backslash, and a text, as they are
  read.
* `denotation?`: What is in quotes, as it is read.
* `asRead`: What a text is read as after it has been quoted.
* `denotedTexts`, `denotedNames`: The texts and the names of a statement, as
  they are read.

## Theorems

* `denoted_escapeChars`: How an escaped text is read.
* `denotation_quoteText`, `denotation_quoteName`: How quoted texts and names
  are read.
* `asRead_eq_self_iff`: Which texts are read as they were meant. For names this
  is `escape_eq_self_iff`.
* `denoted_toSql`: How the quotes of a written filter are read.
* `compiled_texts_as_read`: The texts in a compiled statement, beside the values
  that are passed apart.
* `compiled_names_as_read`: The names in a compiled statement, beside the keys.
-/

namespace WhereClause

namespace Sql

/-! ## The rules -/

/-- What a character is read as behind a backslash. -/
def meant (c : Char) : List Char :=
  match c with
  | '0' => ['\x00']
  | 'b' => ['\x08']
  | 'n' => ['\n']
  | 'r' => ['\r']
  | 't' => ['\t']
  | 'Z' => ['\x1a']
  | '%' => ['\\', '%']
  | '_' => ['\\', '_']
  | c => [c]

/-- What the body of a text is read as. -/
def denoted : List Char → List Char
  | [] => []
  | [c] => [c]
  | c :: d :: rest =>
      if c = '\\' then meant d ++ denoted rest
      else c :: denoted (d :: rest)

/-- The name or text that a lexeme is read as. -/
def Lexeme.denoted? : Lexeme → Option Quoted
  | .outside _ => none
  | .name body => some (.name (String.ofList (singleBackticks body)))
  | .text body => some (.text (String.ofList (denoted body)))

/-- What a single name or text in quotes is read as. -/
def denotation? (s : String) : Option Quoted :=
  match lex .outside s.toList with
  | ([lexeme], .outside) => lexeme.denoted?
  | _ => none

/-- The text in quotes, if it is no name. -/
def Quoted.text? : Quoted → Option String
  | .name _ => none
  | .text s => some s

/-- The name in quotes, if it is no text. -/
def Quoted.name? : Quoted → Option String
  | .name s => some s
  | .text _ => none

/-- The texts that a statement has, as they are read, from left to right. -/
def denotedTexts (statement : String) : List String :=
  ((lexemes statement).filterMap Lexeme.denoted?).filterMap Quoted.text?

/-- The names that a statement has, as they are read, from left to right. -/
def denotedNames (statement : String) : List String :=
  ((lexemes statement).filterMap Lexeme.denoted?).filterMap Quoted.name?

/-! ## Texts -/

/-- What a character is read as after it has been escaped. -/
def asReadChar (c : Char) : List Char :=
  match c with
  | '%' => ['\\', '%']
  | '\x1a' => ['z']
  | c => [c]

/-- What a text is read as after it has been quoted. -/
def asRead (s : String) : String :=
  String.ofList (s.toList.flatMap asReadChar)

-- Entry by entry, this compares the table with the rules.
theorem meant_of_special (c letter : Char) (h : special c = some letter) :
    meant letter = asReadChar c := by
  rw [special.eq_def] at h
  split at h <;> first | exact absurd h (by simp only [reduceCtorEq, not_false_eq_true]) | skip
  all_goals
    rw [← Option.some.inj h]
    rfl

/-- Apart from the two exceptions a character is read as itself. -/
theorem asReadChar_of_ne (c : Char) (hpercent : c ≠ '%') (hcontrol : c ≠ '\x1a') :
    asReadChar c = [c] := by
  rw [asReadChar.eq_def]
  split
  · exact absurd rfl hpercent
  · exact absurd rfl hcontrol
  · rfl

/-- What the table leaves alone is read as itself, since both exceptions are in
    the table. -/
theorem asReadChar_of_special_none (c : Char) (h : special c = none) : asReadChar c = [c] := by
  refine asReadChar_of_ne c ?_ ?_ <;> intro hc <;> rw [hc] at h <;> exact absurd h (by decide)

/-- A character is read by itself unless it is a backslash. -/
theorem denoted_cons_of_ne (c : Char) (hc : c ≠ '\\') (s : List Char) :
    denoted (c :: s) = c :: denoted s := by
  cases s with
  | nil => rfl
  | cons d rest => rw [denoted, if_neg hc]

/-- An escaped text is read character by character. -/
theorem denoted_escapeChars (s : List Char) : denoted (escapeChars s) = s.flatMap asReadChar := by
  induction s with
  | nil => rfl
  | cons c s ih =>
      rcases h : special c with _ | letter
      · -- A character that is not in the table stands for itself.
        rw [escapeChars_cons_of_none c h, denoted_cons_of_ne c (ne_of_special_none c h).1, ih,
          List.flatMap_cons, asReadChar_of_special_none c h, List.singleton_append]
      · -- A character of the table is a backslash with a letter behind it.
        rw [escapeChars_cons_of_some c letter h, denoted, if_pos rfl, ih,
          meant_of_special c letter h, List.flatMap_cons]

/-- A quoted text is a single text, and its body is read character by character. -/
theorem denotation_quoteText (s : String) :
    denotation? (quoteText s) = some (.text (asRead s)) := by
  have hlex := lex_quoteText s []
  rw [List.append_nil] at hlex
  rw [denotation?, hlex]
  show some (Quoted.text (String.ofList (denoted (escapeChars s.toList)))) = _
  rw [denoted_escapeChars, asRead]

-- One character more for each percent sign.
theorem length_asRead (s : List Char) :
    (s.flatMap asReadChar).length = s.length + s.count '%' := by
  induction s with
  | nil => rfl
  | cons c s ih =>
      rw [List.flatMap_cons, List.length_append, ih, List.length_cons, List.count_cons]
      by_cases hpercent : c = '%'
      · rw [hpercent, if_pos (by decide)]
        show 2 + _ = _
        omega
      · have hone : (asReadChar c).length = 1 := by
          rw [asReadChar.eq_def]
          split
          · exact absurd rfl hpercent
          · rfl
          · rfl
        rw [hone, if_neg (by simpa only [beq_iff_eq] using hpercent)]
        omega

-- The control character is never read.
theorem not_mem_asRead (s : List Char) : '\x1a' ∉ s.flatMap asReadChar := by
  intro hmem
  rcases List.mem_flatMap.1 hmem with ⟨c, _, hc⟩
  by_cases hcontrol : c = '\x1a'
  · rw [hcontrol] at hc
    exact absurd hc (by decide)
  · by_cases hpercent : c = '%'
    · rw [hpercent] at hc
      exact absurd hc (by decide)
    · rw [asReadChar_of_ne c hpercent hcontrol] at hc
      exact hcontrol (List.mem_singleton.1 hc).symm

/-- A text is read as it was meant if it has neither of the two characters. -/
theorem asRead_eq_self_iff (s : String) :
    asRead s = s ↔ '%' ∉ s.toList ∧ '\x1a' ∉ s.toList := by
  rw [asRead, String.ofList_eq]
  constructor
  · intro h
    have hlength := length_asRead s.toList
    have hcontrol := not_mem_asRead s.toList
    rw [h] at hlength hcontrol
    -- A percent sign would make the text longer, and the control character would
    -- be lost.
    exact ⟨List.count_eq_zero.1 (by omega), hcontrol⟩
  · intro ⟨hpercent, hcontrol⟩
    have heach : ∀ c ∈ s.toList, asReadChar c = [c] := fun c hc =>
      asReadChar_of_ne c (fun heq => hpercent (heq ▸ hc)) fun heq => hcontrol (heq ▸ hc)
    rw [List.flatMap_congr heach, List.flatMap_singleton']

/-! ## Names -/

/-- A quoted name is a single name. Only the doubling of backticks is undone, so
    the escaped form is left. -/
theorem denotation_quoteName (name : String) :
    denotation? (quoteName name) = some (.name (escape name)) := by
  have hlex := lex_quoteName name [] nofun
  rw [List.append_nil] at hlex
  rw [denotation?, hlex]
  show some (Quoted.name (String.ofList (singleBackticks _))) = _
  rw [singleBackticks_doubleBackticks, escape]

/-! ## Statements -/

/-- What a name or a text is read as after it has been quoted. -/
def Quoted.asRead : Quoted → Quoted
  | .name s => .name (escape s)
  | .text s => .text (Sql.asRead s)

/-- What the lexer finds in a fragment is read as it is after quoting. -/
theorem denoted_lexeme (fragment : Fragment) :
    ∀ lexeme ∈ fragment.lexemes .inline, lexeme.denoted? = lexeme.quoted?.map Quoted.asRead := by
  -- Outside of quotes there is nothing to read.
  have hout : ∀ s : List Char, ∀ lexeme ∈ s.map Lexeme.outside,
      lexeme.denoted? = lexeme.quoted?.map Quoted.asRead := by
    intro s lexeme hmem
    rcases List.mem_map.1 hmem with ⟨c, _, rfl⟩
    rfl
  have htext : ∀ s : String, (Lexeme.text (escapeChars s.toList)).denoted? =
      (Lexeme.text (escapeChars s.toList)).quoted?.map Quoted.asRead := by
    intro s
    rw [quoted_text, Lexeme.denoted?, denoted_escapeChars]
    rfl
  cases fragment with
  | text s => exact hout s.toList
  | bound value => exact hout ['?']
  | name column =>
      refine List.forall_mem_singleton.2 ?_
      rw [quoted_name, Lexeme.denoted?, singleBackticks_doubleBackticks]
      rfl
  | operand value =>
      cases value with
      | text s => exact List.forall_mem_singleton.2 (htext s)
      | timestamp t => exact List.forall_mem_singleton.2 (htext t.statementText)
      | int _ | uint _ | float _ | bool _ | list _ | null => exact hout _

end Sql

open Sql

namespace Filter

/-- The quotes of a written filter are read as the names and texts of the tree
    are after quoting. -/
theorem denoted_toSql (filter : Filter) :
    (lexemes (filter.toSql .mySql)).filterMap Lexeme.denoted? =
      filter.quoted.map Quoted.asRead := by
  have heach : ∀ lexeme ∈ filter.fragments.flatMap (Fragment.lexemes .inline),
      lexeme.denoted? = lexeme.quoted?.map Quoted.asRead := by
    intro lexeme hmem
    rcases List.mem_flatMap.1 hmem with ⟨fragment, _, hlexeme⟩
    exact denoted_lexeme fragment lexeme hlexeme
  rw [lexemes_toSql, List.filterMap_congr heach, ← List.map_filterMap,
    quoted_written _ filter.written_fragments, quoted_fragments]

theorem denotedTexts_toSql (filter : Filter) :
    denotedTexts (filter.toSql .mySql) = (filter.quoted.filterMap Quoted.text?).map asRead := by
  rw [denotedTexts, denoted_toSql, List.filterMap_map, List.map_filterMap]
  exact List.filterMap_congr fun quoted _ => by cases quoted <;> rfl

theorem denotedNames_toSql (filter : Filter) :
    denotedNames (filter.toSql .mySql) = (filter.quoted.filterMap Quoted.name?).map escape := by
  rw [denotedNames, denoted_toSql, List.filterMap_map, List.map_filterMap]
  exact List.filterMap_congr fun quoted _ => by cases quoted <;> rfl

end Filter

/-! ## Texts and values -/

/-- The text that a literal is in a statement, if it is one. -/
def Literal.statementText? : Literal → Option String
  | .text s => some s
  | .timestamp t => some t.statementText
  | _ => none

/-- The literal of a value is a text in a statement exactly if the value is one. -/
theorem Literal.statementText_ofJson (value : Json) :
    (ofJson value).statementText? = value.text? := by
  cases value with
  | number n =>
      cases n with
      | whole n bounds =>
          rw [ofJson, ofNumber]
          split <;> rfl
      | real x finite => rfl
  | null | bool _ | text _ | array _ | object _ => rfl

namespace Sql

/-- The texts of fragments are those of the values that are passed apart. -/
theorem texts_written (fragments : List Fragment) (h : Written fragments) :
    (fragments.flatMap Fragment.quoted).filterMap Quoted.text? =
      (fragments.flatMap (Fragment.values .parameterized)).filterMap Literal.statementText? := by
  induction h with
  | nil => rfl
  | append hs ht ihs iht =>
      rw [List.flatMap_append, List.flatMap_append, List.filterMap_append, List.filterMap_append,
        ihs, iht]
  | words s fixed => rfl
  | column name s fixed blank => rfl
  | operand value single =>
      cases value with
      | list items => exact Bool.noConfusion single
      | int _ | uint _ | float _ | bool _ | text _ | timestamp _ | null => rfl

end Sql

namespace Literal

mutual

-- There are no names in a literal.
theorem names_quoted : (value : Literal) → value.quoted.filterMap Quoted.name? = []
  | .list items => names_quotedItems items
  | .int _ | .uint _ | .float _ | .bool _ | .text _ | .timestamp _ | .null => rfl

theorem names_quotedItems : (items : List Literal) →
    (quotedItems items).filterMap Quoted.name? = []
  | [] => rfl
  | item :: rest => by
      rw [quotedItems, List.filterMap_append, names_quoted item, names_quotedItems rest]
      rfl

end

end Literal

namespace Filter

theorem texts_quoted (filter : Filter) :
    filter.quoted.filterMap Quoted.text? =
      (filter.toParameterized .mySql).values.toList.filterMap Literal.statementText? := by
  rw [values_toParameterized, ← texts_written _ filter.written_fragments, quoted_fragments]

mutual

/-- The names of a tree are its columns. -/
theorem names_quoted : (filter : Filter) → filter.quoted.filterMap Quoted.name? = filter.mentions
  | .compare column op operand => by
      rw [quoted, List.filterMap_cons, operand.names_quoted]
      rfl
  | .isNull _ | .regex _ _ _ => rfl
  | .logical op children => names_quotedAll children
  | .group children => names_quotedAll children

theorem names_quotedAll : (children : List Filter) →
    (quotedAll children).filterMap Quoted.name? = mentionsAll children
  | [] => rfl
  | child :: rest => by
      rw [quotedAll, List.filterMap_append, names_quoted child, names_quotedAll rest]
      rfl

end

end Filter

/-- The texts in a compiled statement stand where the values are in one with
    placeholders, and are the texts of the document. They are read as that but
    for two characters: a percent sign is read with a backslash before it, and
    the character of number 26 as a letter. -/
theorem compiled_texts_as_read :
    (∀ s, denotation? (mySqlLiteral (.text s)) = some (.text (asRead s))) ∧
      (∀ s, asRead s = s ↔ '%' ∉ s.toList ∧ '\x1a' ∉ s.toList) ∧
      ∀ (settings : Settings) (document : Json),
        (∃ fault, (compile settings document).outcome = .error fault ∧
          (compileParameterized settings document).outcome = .error fault) ∨
        ∃ sql clause, (compile settings document).outcome = .ok sql ∧
          (compileParameterized settings document).outcome = .ok clause ∧
          clause.Fills sql ∧
          clause.values.toList.filterMap Literal.statementText? =
            document.literals.filterMap Json.text? ∧
          denotedTexts sql = (document.literals.filterMap Json.text?).map asRead := by
  refine ⟨denotation_quoteText, asRead_eq_self_iff, fun settings document => ?_⟩
  simp only [compile, compileParameterized, Traced.outcome_bind]
  cases hbuild : (settings.build document).outcome with
  | error fault => exact Or.inl ⟨fault, rfl, rfl⟩
  | ok filter =>
      -- The values that are passed apart are literals of the document, in order.
      have htexts : (filter.toParameterized .mySql).values.toList.filterMap
          Literal.statementText? = document.literals.filterMap Json.text? := by
        rcases Filter.isDocument_of_build _ document filter hbuild with ⟨hdocument, rfl⟩
        rw [Filter.values_ofDocument document hdocument, List.filterMap_map]
        exact List.filterMap_congr fun value _ => Literal.statementText_ofJson value
      refine Or.inr ⟨_, _, rfl, rfl, filter.fills_toSql, htexts, ?_⟩
      rw [filter.denotedTexts_toSql, filter.texts_quoted, htexts]

/-- A text with a percent sign is not read as it was meant, and neither is the
    character of number 26. The value of the other statement is the text
    itself. -/
theorem percent_keeps_backslash :
    denotation? (mySqlLiteral (.text "100%")) ≠ some (.text "100%") ∧
      denotation? (mySqlLiteral (.text "\x1a")) ≠ some (.text "\x1a") ∧
      ∃ sql clause, (compile {} (.object [("note", .text "100%")])).outcome = .ok sql ∧
        (compileParameterized {} (.object [("note", .text "100%")])).outcome = .ok clause ∧
        denotedTexts sql = ["100\\%"] ∧ clause.values.toList = [.text "100%"] := by
  have hpercent : asRead "100%" ≠ "100%" := by decide
  have hcontrol : asRead "\x1a" ≠ "\x1a" := by decide
  refine ⟨fun h => hpercent ?_, fun h => hcontrol ?_, _, _, rfl, rfl, ?_, rfl⟩
  · exact Quoted.text.inj (Option.some.inj ((denotation_quoteText _).symm.trans h))
  · exact Quoted.text.inj (Option.some.inj ((denotation_quoteText _).symm.trans h))
  · exact Filter.denotedTexts_toSql (.compare "note" .eq (.text "100%"))

/-- The names in a compiled statement are those of columns, which are keys of
    the document. They are read as their escaped forms, so as they were meant if
    there is nothing in them to escape. -/
theorem compiled_names_as_read :
    (∀ name, denotation? (quoteName name) = some (.name (escape name))) ∧
      (∀ name, escape name = name ↔ isPlain name = true) ∧
      ∀ (settings : Settings) (document : Json),
        (∃ fault, (compile settings document).outcome = .error fault) ∨
        ∃ filter sql, (settings.build document).outcome = .ok filter ∧
          (compile settings document).outcome = .ok sql ∧
          denotedNames sql = filter.mentions.map escape ∧
          ∀ column ∈ filter.mentions,
            column ∈ document.keys ∧ Key.hasSigil column = false := by
  refine ⟨denotation_quoteName, escape_eq_self_iff, fun settings document => ?_⟩
  simp only [compile, Traced.outcome_bind]
  cases hbuild : (settings.build document).outcome with
  | error fault => exact Or.inl ⟨fault, rfl⟩
  | ok filter =>
      refine Or.inr ⟨filter, _, rfl, rfl, ?_, Filter.mentions_of_build _ document filter hbuild⟩
      rw [filter.denotedNames_toSql, filter.names_quoted]

/-- A name with a quote in it is read with a backslash before the quote, and the
    document has no such key. -/
theorem quoted_name_keeps_backslash :
    denotation? (quoteName "te'st") ≠ some (.name "te'st") ∧
      ∃ sql, (compile {} (.object [("te'st", .null)])).outcome = .ok sql ∧
        denotedNames sql = ["te\\'st"] ∧
        "te\\'st" ∉ (Json.object [("te'st", .null)]).keys := by
  have hquote : escape "te'st" ≠ "te'st" := by decide
  refine ⟨fun h => hquote ?_, _, rfl, Filter.denotedNames_toSql (.isNull "te'st"), by decide⟩
  exact Quoted.name.inj (Option.some.inj ((denotation_quoteName _).symm.trans h))

end WhereClause
