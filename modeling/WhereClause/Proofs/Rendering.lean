import WhereClause.Proofs.Condition

/-!
# Written Filters Keep their Meaning

A filter that is written and read again has the truth it had.

The truth of a filter is defined on the tree, with atoms for its leaves. That
it is also what the statement says takes two things of every piece of the
statement: that it becomes tokens of its own, and that the grammar reads these
as a condition of the right truth. `Says` is both at once. It is closed under
the ways in which pieces are put together, so the theorem about filters is an
induction with one line for each of them.

A piece cannot always be cut off where it ends. A number followed by a digit
would be another number. So there are two relations between pieces and
tokens: `Closed` pieces end by themselves, and `Tokenized` ones need something
behind them that breaks a run. A statement never lacks it, because operators
and separators begin with a blank, and lists and groups end with a
parenthesis.

Not every tree is a condition. A connective without children has no truth in
SQL, and neither has a set operator without items. `WellShaped` leaves these
out, as well as lists where a single value is needed.

## Main definitions

* `Filter.truth`: The truth of a filter.
* `Filter.WellShaped`: The trees that are conditions.
* `Breaks`, `Closed`, `Tokenized`: How pieces of a statement become tokens.
* `Says`: A piece that is read as a condition of a given truth.

## Theorems

* `Says.joined`, `Says.parenthesized`: Conditions between separators, and in
  parentheses.
* `says_fragments`: The fragments of a well-shaped filter say what it means.
* `reads_toSql`: So does the statement as a whole.
-/

namespace WhereClause

open Sql

/-- The texts of the literals that a column is compared with. -/
def Literal.texts : Literal → List String
  | .list items => items.map mySqlLiteral
  | value => [mySqlLiteral value]

theorem Literal.texts_of_not_list (value : Literal) (h : value.isList = false) :
    value.texts = [mySqlLiteral value] := by
  cases value with
  | list items => exact Bool.noConfusion h
  | _ => rfl

namespace Filter

/-- The operator of a pattern. -/
def patternOperator (ignoreCase : Bool) : String :=
  if ignoreCase then "REGEXP" else "REGEXP BINARY"

mutual

/-- The truth of a filter, if that of the atoms is known. -/
def truth (assignment : Atom → Truth) : Filter → Truth
  | .compare column op operand => assignment ⟨column, op.sql, operand.texts⟩
  | .isNull column => assignment ⟨column, "IS NULL", []⟩
  | .regex column pattern ignoreCase =>
      assignment ⟨column, patternOperator ignoreCase, [quoteText pattern]⟩
  | .logical op children => Truth.joinAll op (truths assignment children)
  | .group children => Truth.joinAll .and (truths assignment children)

/-- The truths of several filters. -/
def truths (assignment : Atom → Truth) : List Filter → List Truth
  | [] => []
  | child :: rest => child.truth assignment :: truths assignment rest

end

theorem truths_eq_map (assignment : Atom → Truth) (children : List Filter) :
    truths assignment children = children.map (truth assignment) := by
  induction children with
  | nil => rfl
  | cons child rest ih => rw [truths, ih, List.map_cons]

/-- The trees that are conditions: connectives have children, groups have
    several, set operators have a list of single values, and other operators
    have a single value. -/
inductive WellShaped : Filter → Prop where
  | compare (column : String) (op : Comparison) (operand : Literal) (ordinary : op.isSet = false)
      (single : operand.isList = false) : WellShaped (.compare column op operand)
  | among (column : String) (op : Comparison) (items : List Literal) (set : op.isSet = true)
      (inhabited : items ≠ []) (flat : ∀ item ∈ items, item.isList = false) :
      WellShaped (.compare column op (.list items))
  | isNull (column : String) : WellShaped (.isNull column)
  | regex (column pattern : String) (ignoreCase : Bool) :
      WellShaped (.regex column pattern ignoreCase)
  | logical (op : Connective) (children : List Filter) (inhabited : children ≠ [])
      (all : ∀ child ∈ children, WellShaped child) : WellShaped (.logical op children)
  | group (children : List Filter) (several : 2 ≤ children.length)
      (all : ∀ child ∈ children, WellShaped child) : WellShaped (.group children)

end Filter

namespace Sql

/-! ## Pieces and tokens -/

/-- Lexemes before which a run of characters ends. -/
def Breaks (lexemes : List Lexeme) : Prop :=
  ∀ c, lexemes.head? = some (.outside c) → (punctuation? c).isSome

theorem breaks_append (first second : List Lexeme) (h : Breaks first) (h' : Breaks second) :
    Breaks (first ++ second) := by
  intro c hc
  cases first with
  | nil => exact h' c hc
  | cons lexeme rest => exact h c hc

-- A run ends where lexemes break it.
theorem tokenize_of_breaks (run : List Char) (lexemes : List Lexeme) (h : Breaks lexemes) :
    tokenize run lexemes = closeRun run (tokenize [] lexemes) := by
  cases lexemes with
  | nil => rfl
  | cons lexeme rest =>
      cases lexeme with
      | outside c =>
          rcases Option.isSome_iff_exists.1 (h c rfl) with ⟨tokens, htokens⟩
          simp only [tokenize, htokens]
          rfl
      | name body => rfl
      | text body => rfl

-- Characters of one kind are one run.
theorem tokenize_run (run s : List Char) (kind : Bool) (hrun : ∀ c ∈ run, isSign c = kind)
    (h : ∀ c ∈ s, punctuation? c = none ∧ isSign c = kind) (rest : List Lexeme) :
    tokenize run (s.map .outside ++ rest) = tokenize (run ++ s) rest := by
  induction s generalizing run with
  | nil => rw [List.map_nil, List.nil_append, List.append_nil]
  | cons c s ih =>
      have hc := h c List.mem_cons_self
      have hsame : run.all (isSign · = isSign c) = true := by
        refine List.all_eq_true.2 fun d hd => decide_eq_true ?_
        rw [hrun d hd, hc.2]
      have hlonger : ∀ d ∈ run ++ [c], isSign d = kind := by
        intro d hd
        rcases List.mem_append.1 hd with hd | hd
        · exact hrun d hd
        · rw [List.mem_singleton.1 hd]
          exact hc.2
      rw [List.map_cons, List.cons_append, tokenize, hc.1, hsame]
      refine (ih (run ++ [c]) hlonger fun d hd => h d (List.mem_cons_of_mem c hd)).trans ?_
      rw [List.append_assoc, List.singleton_append]

/-- The lexemes of fragments whose operands are written into the text. -/
def inlined (fragments : List Fragment) : List Lexeme :=
  fragments.flatMap (Fragment.lexemes .inline)

-- Words in front of other fragments break a run if they begin with a blank or
-- with punctuation.
theorem breaks_text (s : String) (c : Char) (hs : s.toList.head? = some c)
    (hc : (punctuation? c).isSome) (rest : List Fragment) :
    Breaks (inlined (.text s :: rest)) := by
  intro d hd
  have hhead : (inlined (.text s :: rest)).head? = some (.outside c) := by
    show (s.toList.map Lexeme.outside ++ _).head? = _
    rw [List.head?_append, List.head?_map, hs]
    rfl
  rw [hhead] at hd
  cases hd
  exact hc

theorem inlined_append (first second : List Fragment) :
    inlined (first ++ second) = inlined first ++ inlined second :=
  List.flatMap_append

/-- Fragments that become tokens, whatever follows. -/
def Closed (fragments : List Fragment) (ts : List Token) : Prop :=
  ∀ rest, tokenize [] (inlined fragments ++ rest) = ts ++ tokenize [] rest

/-- Fragments that become tokens, if what follows breaks a run. -/
def Tokenized (fragments : List Fragment) (ts : List Token) : Prop :=
  ∀ rest, Breaks rest → tokenize [] (inlined fragments ++ rest) = ts ++ tokenize [] rest

theorem Closed.tokenized {fragments : List Fragment} {ts : List Token}
    (h : Closed fragments ts) : Tokenized fragments ts :=
  fun rest _ => h rest

/-- What ends by itself needs nothing from what follows. -/
theorem Closed.append {first second : List Fragment} {ss ts : List Token}
    (h : Closed first ss) (h' : Tokenized second ts) : Tokenized (first ++ second) (ss ++ ts) := by
  intro rest hrest
  rw [inlined_append, List.append_assoc, h, h' rest hrest, List.append_assoc]

/-- What does not end by itself needs what follows to break the run. -/
theorem Tokenized.append {first second : List Fragment} {ss ts : List Token}
    (h : Tokenized first ss) (hbreaks : Breaks (inlined second)) (h' : Tokenized second ts) :
    Tokenized (first ++ second) (ss ++ ts) := by
  intro rest hrest
  rw [inlined_append, List.append_assoc, h _ (breaks_append _ _ hbreaks hrest), h' rest hrest,
    List.append_assoc]

/-- A name ends with its backtick, and the token has the column as it was. -/
theorem closed_name (column : String) : Closed [.name column] [.name column] := by
  intro rest
  show tokenize [] (.name _ :: rest) = _
  rw [tokenize, singleBackticks_doubleBackticks, unescape_escapeChars, String.ofList_toList]
  rfl

theorem closed_separator (op : Connective) :
    Closed [.text (Filter.separator op)] [.word op.sql] := by
  intro rest
  cases op <;> rfl

theorem closed_opening : Closed [.text "("] [.opening] :=
  fun _ => rfl

theorem closed_closing : Closed [.text ")"] [.closing] :=
  fun _ => rfl

theorem closed_comma : Closed [.text ", "] [.comma] :=
  fun _ => rfl

/-- The tokens of the operator between a column and its operand. -/
def operatorTokens : Comparison → List Token
  | .noneOf => [.word "NOT", .word "IN"]
  | op => [.word op.sql]

theorem closed_operator (op : Comparison) :
    Closed [.text (" " ++ op.sql ++ " ")] (operatorTokens op) := by
  intro rest
  cases op <;> rfl

/-- The test for null ends with a word, so something has to follow. -/
theorem tokenized_isNull : Tokenized [.text " IS NULL"] [.word "IS", .word "NULL"] := by
  intro rest hrest
  have hrun : tokenize [] (inlined [.text " IS NULL"] ++ rest) =
      .word "IS" :: tokenize ['N', 'U', 'L', 'L'] rest := rfl
  rw [hrun, tokenize_of_breaks _ rest hrest]
  rfl

-- A bare literal has characters of one kind, and is not empty.
theorem tokenize_bareLiteral (word : String) (h : isBareLiteral word = true)
    (rest : List Lexeme) (hrest : Breaks rest) :
    tokenize [] (word.toList.map .outside ++ rest) = .word word :: tokenize [] rest := by
  have hkind : ∀ c ∈ word.toList, punctuation? c = none ∧ isSign c = false := by
    intro c hc
    have hchar := mem_bareLiteral word h c hc
    have hne : ∀ d, ¬(d.isAlphanum = true ∨ d = '.' ∨ d = '-') → c ≠ d := by
      intro d hd heq
      exact hd (heq ▸ hchar)
    constructor
    · simp only [punctuation?, if_neg (hne ' ' (by decide)), if_neg (hne '(' (by decide)),
        if_neg (hne ')' (by decide)), if_neg (hne ',' (by decide))]
    · simp only [isSign, decide_eq_false (hne '=' (by decide)),
        decide_eq_false (hne '<' (by decide)), decide_eq_false (hne '>' (by decide)),
        decide_eq_false (hne '!' (by decide)), Bool.or_false]
  have hinhabited : word.toList.isEmpty = false := by
    refine List.isEmpty_eq_false_iff.2 fun hnil => ?_
    rw [String.toList_eq_nil_iff.1 hnil] at h
    exact absurd h (by decide)
  rw [tokenize_run [] word.toList false nofun hkind, List.nil_append,
    tokenize_of_breaks _ rest hrest, closeRun, hinhabited, if_neg Bool.false_ne_true,
    String.ofList_toList]

-- A single literal is one token.
theorem tokenized_operand (value : Literal) (h : value.isList = false) :
    ∃ token : Token, token.literal? = some (mySqlLiteral value) ∧
      Tokenized [.operand value] [token] := by
  have hinlined : inlined [.operand value] = literalLexemes value := List.append_nil _
  by_cases hquoted : value.isQuoted = true
  · refine ⟨.quoted (mySqlLiteral value), rfl, fun rest _ => ?_⟩
    rw [hinlined]
    cases value with
    | text s => rfl
    | timestamp t => rfl
    | _ => exact Bool.noConfusion hquoted
  · have hnot := eq_false_of_ne_true hquoted
    have hbare := isBareLiteral_mySqlLiteral value h hnot
    -- Only what follows shows where a bare literal ends.
    refine ⟨.word (mySqlLiteral value), if_pos hbare, fun rest hrest => ?_⟩
    rw [hinlined, literalLexemes_of_not_quoted value hnot]
    exact tokenize_bareLiteral _ hbare rest hrest

-- The first two parts can be joined in advance.
theorem joined_merge (separator : String) (first second : List Fragment)
    (rest : List (List Fragment)) :
    joined separator (first :: second :: rest) =
      joined separator ((first ++ [.text separator] ++ second) :: rest) := by
  cases rest with
  | nil => rw [joined_cons_cons, joined_singleton, joined_singleton]
  | cons third rest =>
      rw [joined_cons_cons, joined_cons_cons, joined_cons_cons, ← List.append_assoc,
        ← List.append_assoc]

-- The items of a list are literals with commas between them.
theorem tokenized_items (items : List Literal) (inhabited : items ≠ [])
    (flat : ∀ item ∈ items, item.isList = false) :
    ∃ ts, Listed ts (items.map mySqlLiteral) ∧
      Tokenized (joined ", " (items.map Literal.fragments)) ts := by
  induction items with
  | nil => exact absurd rfl inhabited
  | cons item rest ih =>
      have hsingle := flat item List.mem_cons_self
      rcases tokenized_operand item hsingle with ⟨token, hliteral, htoken⟩
      rw [← item.fragments_of_not_list hsingle] at htoken
      -- Induction on the items. All but the last have a comma behind them.
      cases rest with
      | nil =>
          refine ⟨[token], .last hliteral, ?_⟩
          rw [List.map_singleton, joined_singleton]
          exact htoken
      | cons second rest =>
          rcases ih nofun fun other hother => flat other (List.mem_cons_of_mem _ hother) with
            ⟨ts, hlisted, hts⟩
          refine ⟨token :: .comma :: ts, .more hliteral hlisted, ?_⟩
          rw [List.map_cons, List.map_cons, joined_cons_cons, List.append_assoc]
          exact htoken.append (breaks_text ", " ',' (by decide) rfl _) (closed_comma.append hts)

/-! ## Pieces and conditions -/

/-- Fragments that are read as a condition of a rank that has a given
    truth. -/
def Says (rank : Rank) (fragments : List Fragment) (meaning : (Atom → Truth) → Truth) : Prop :=
  ∃ ts c, Tokenized fragments ts ∧ Reads rank ts c ∧
    ∀ assignment, c.truth assignment = meaning assignment

/-- The rank of conditions under a connective. -/
def connectiveRank : Connective → Rank
  | .and => .conjunction
  | .or => .disjunction

/-- A primary stands under either connective. -/
theorem Says.under {fragments : List Fragment} {meaning : (Atom → Truth) → Truth}
    (op : Connective) (h : Says .primary fragments meaning) :
    Says (connectiveRank op) fragments meaning := by
  rcases h with ⟨ts, c, hts, hreads, htruth⟩
  cases op with
  | and => exact ⟨ts, c, hts, .primary hreads, htruth⟩
  | or => exact ⟨ts, c, hts, .conjunction (.primary hreads), htruth⟩

/-- A primary behind conditions under the same connective. -/
theorem Says.join {first second : List Fragment} {left right : (Atom → Truth) → Truth}
    (op : Connective) (h : Says (connectiveRank op) first left) (h' : Says .primary second right) :
    Says (connectiveRank op) (first ++ [.text (Filter.separator op)] ++ second)
      fun assignment => Truth.join op (left assignment) (right assignment) := by
  rcases h with ⟨ss, c, hss, hc, hleft⟩
  rcases h' with ⟨ts, d, hts, hd, hright⟩
  have htokens : Tokenized (first ++ [.text (Filter.separator op)] ++ second)
      (ss ++ [.word op.sql] ++ ts) := by
    rw [List.append_assoc, List.append_assoc]
    refine hss.append (breaks_text _ ' ' ?_ rfl _) ((closed_separator op).append hts)
    cases op <;> decide
  -- Both rules of the grammar have what was before on the left.
  cases op with
  | and =>
      refine ⟨_, .and c d, htokens, .and hc hd, fun assignment => ?_⟩
      rw [Condition.truth, hleft, hright]
      rfl
  | or =>
      refine ⟨_, .or c d, htokens, .or hc (.primary hd), fun assignment => ?_⟩
      rw [Condition.truth, hleft, hright]
      rfl

theorem Says.congr {rank : Rank} {fragments : List Fragment}
    {meaning other : (Atom → Truth) → Truth} (h : Says rank fragments meaning)
    (heq : ∀ assignment, meaning assignment = other assignment) : Says rank fragments other := by
  rcases h with ⟨ts, c, hts, hreads, htruth⟩
  exact ⟨ts, c, hts, hreads, fun assignment => (htruth assignment).trans (heq assignment)⟩

section Parts

variable {α : Type} (fragments : α → List Fragment) (meaning : (Atom → Truth) → α → Truth)

-- More primaries behind conditions under the same connective. The grammar
-- reads from left to right, so what has been read is on the left.
theorem Says.joined_cons (op : Connective) (parts : List α) (first : List Fragment)
    (left : (Atom → Truth) → Truth) (hfirst : Says (connectiveRank op) first left)
    (h : ∀ part ∈ parts, Says .primary (fragments part) (meaning · part)) :
    Says (connectiveRank op) (joined (Filter.separator op) (first :: parts.map fragments))
      fun assignment =>
        Truth.join op (left assignment) (Truth.joinAll op (parts.map (meaning assignment))) := by
  induction parts generalizing first left with
  | nil =>
      rw [List.map_nil, joined_singleton]
      exact hfirst.congr fun assignment => (Truth.join_neutral op _).symm
  | cons part rest ih =>
      rw [List.map_cons, joined_merge]
      have hboth := hfirst.join op (h part List.mem_cons_self)
      have hrest := ih _ _ hboth fun other hother => h other (List.mem_cons_of_mem _ hother)
      exact hrest.congr fun assignment => Truth.join_assoc op _ _ _

/-- Several primaries with a connective between them. -/
theorem Says.joined (op : Connective) (parts : List α) (inhabited : parts ≠ [])
    (h : ∀ part ∈ parts, Says .primary (fragments part) (meaning · part)) :
    Says (connectiveRank op) (joined (Filter.separator op) (parts.map fragments))
      fun assignment => Truth.joinAll op (parts.map (meaning assignment)) := by
  cases parts with
  | nil => exact absurd rfl inhabited
  | cons part rest =>
      have hpart := (h part List.mem_cons_self).under op
      exact Says.joined_cons fragments meaning op rest _ _ hpart fun other hother =>
        h other (List.mem_cons_of_mem _ hother)

/-- Several primaries under a connective are a primary in parentheses. -/
theorem Says.parenthesized (op : Connective) (parts : List α) (inhabited : parts ≠ [])
    (h : ∀ part ∈ parts, Says .primary (fragments part) (meaning · part)) :
    Says .primary (parenthesized (Filter.separator op) (parts.map fragments))
      fun assignment => Truth.joinAll op (parts.map (meaning assignment)) := by
  rcases Says.joined fragments meaning op parts inhabited h with ⟨ts, c, hts, hreads, htruth⟩
  -- In parentheses stands a disjunction, and a conjunction is one.
  have hwhole : Reads .disjunction ts c := by
    cases op with
    | and => exact .conjunction hreads
    | or => exact hreads
  refine ⟨_, c, ?_, .grouped hwhole, htruth⟩
  rw [Sql.parenthesized, List.append_assoc]
  exact closed_opening.append
    (hts.append (breaks_text ")" ')' (by decide) rfl []) closed_closing.tokenized)

end Parts

theorem says_atom {fragments : List Fragment} {ts : List Token} {a : Atom}
    (h : Tokenized fragments ts) (hspells : Spells ts a) :
    Says .primary fragments fun assignment => assignment a :=
  ⟨ts, .atom a, h, .atom hspells, fun _ => rfl⟩

end Sql

namespace Filter

theorem says_compare (column : String) (op : Comparison) (operand : Literal)
    (ordinary : op.isSet = false) (single : operand.isList = false) :
    Says .primary (compareFragments column op operand) fun assignment =>
      assignment ⟨column, op.sql, [mySqlLiteral operand]⟩ := by
  rcases tokenized_operand operand single with ⟨token, hliteral, htoken⟩
  rw [compareFragments, ordinary, if_neg Bool.false_ne_true,
    operand.fragments_of_not_list single]
  have htokens : Tokenized _ ([.name column] ++ (operatorTokens op ++ [token])) :=
    (closed_name column).append ((closed_operator op).append htoken)
  refine says_atom htokens ?_
  -- Set operators are excluded, and all others are signs.
  cases op with
  | oneOf | noneOf => exact Bool.noConfusion ordinary
  | _ => exact .sign column _ (by decide) hliteral

/-- A comparison with several values has them in parentheses. -/
theorem says_among (column : String) (op : Comparison) (items : List Literal)
    (set : op.isSet = true) (inhabited : items ≠ [])
    (flat : ∀ item ∈ items, item.isList = false) :
    Says .primary (compareFragments column op (.list items)) fun assignment =>
      assignment ⟨column, op.sql, items.map mySqlLiteral⟩ := by
  rcases tokenized_items items inhabited flat with ⟨ts, hlisted, hts⟩
  rw [compareFragments, set, if_pos rfl, parenthesized, joined_singleton, Literal.fragments,
    Literal.itemFragments_eq_map]
  have hclosing : Tokenized (joined ", " (items.map Literal.fragments) ++ [.text ")"])
      (ts ++ [.closing]) :=
    hts.append (breaks_text ")" ')' (by decide) rfl []) closed_closing.tokenized
  have htokens : Tokenized ([.name column] ++ ([.text (" " ++ op.sql ++ " ")] ++ ([.text "("] ++
      (joined ", " (items.map Literal.fragments) ++ [.text ")"]))))
      ([.name column] ++ (operatorTokens op ++ ([.opening] ++ (ts ++ [.closing])))) :=
    (closed_name column).append ((closed_operator op).append (closed_opening.append hclosing))
  refine says_atom htokens ?_
  cases op with
  | oneOf => exact .oneOf column hlisted
  | noneOf => exact .noneOf column hlisted
  | _ => exact Bool.noConfusion set

theorem says_isNull (column : String) :
    Says .primary (fragments (.isNull column)) fun assignment =>
      assignment ⟨column, "IS NULL", []⟩ :=
  says_atom ((closed_name column).append tokenized_isNull) (.isNull column)

theorem says_regex (column pattern : String) (ignoreCase : Bool) :
    Says .primary (fragments (.regex column pattern ignoreCase)) fun assignment =>
      assignment ⟨column, patternOperator ignoreCase, [quoteText pattern]⟩ := by
  rcases tokenized_operand (.text pattern) rfl with ⟨token, hliteral, htoken⟩
  cases ignoreCase with
  | true =>
      have hoperator : Closed [.text " REGEXP "] [.word "REGEXP"] := fun _ => rfl
      exact says_atom ((closed_name column).append (hoperator.append htoken))
        (.regexp column hliteral)
  | false =>
      have hoperator : Closed [.text " REGEXP BINARY "] [.word "REGEXP", .word "BINARY"] :=
        fun _ => rfl
      exact says_atom ((closed_name column).append (hoperator.append htoken))
        (.regexpBinary column hliteral)

/-- The fragments of a well-shaped filter say what it means. -/
theorem says_fragments (filter : Filter) (h : WellShaped filter) :
    Says .primary filter.fragments filter.truth := by
  induction h with
  | compare column op operand ordinary single =>
      refine (says_compare column op operand ordinary single).congr fun assignment => ?_
      rw [truth, operand.texts_of_not_list single]
  | among column op items set inhabited flat =>
      exact says_among column op items set inhabited flat
  | isNull column => exact says_isNull column
  | regex column pattern ignoreCase => exact says_regex column pattern ignoreCase
  | logical op children inhabited all ih =>
      rw [fragments, childFragments_eq_map]
      refine (Says.parenthesized fragments truth op children inhabited ih).congr
        fun assignment => ?_
      rw [truth, truths_eq_map]
  | group children several all ih =>
      have inhabited : children ≠ [] := by
        intro hnil
        rw [hnil] at several
        exact absurd several (by decide)
      rw [fragments, childFragments_eq_map]
      refine (Says.parenthesized fragments truth .and children inhabited ih).congr
        fun assignment => ?_
      rw [truth, truths_eq_map]

/-- A well-shaped filter is written as a condition that has its truth, and can
    be read in no other way. -/
theorem reads_toSql (filter : Filter) (h : WellShaped filter) :
    ∃ condition, Reads .disjunction (tokens (filter.toSql .mySql)) condition ∧
      (∀ other, Reads .disjunction (tokens (filter.toSql .mySql)) other → other = condition) ∧
      ∀ assignment, condition.truth assignment = filter.truth assignment := by
  rcases says_fragments filter h with ⟨ts, c, hts, hreads, htruth⟩
  have htokens : tokens (filter.toSql .mySql) = ts := by
    have hall := hts [] nofun
    rw [List.append_nil] at hall
    rw [tokens, lexemes_toSql]
    exact hall.trans (List.append_nil ts)
  -- A filter is a primary, and a primary on its own is a disjunction.
  have hwhole : Reads .disjunction ts c := .conjunction (.primary hreads)
  rw [htokens]
  exact ⟨c, hwhole, fun other hother => reads_unique ts other c hother hwhole, htruth⟩

end Filter

end WhereClause
