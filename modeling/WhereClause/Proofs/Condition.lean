import WhereClause.Proofs.Quoting

/-!
# Reading Conditions

What a condition in a statement says, independently of how it was written.

The truth of a condition has three values, since a comparison with null is
neither true nor false. A condition is put together from atoms, and what an
atom means is left open: it is a column, an operator and the texts of the
literals, and an assignment says whether it holds. Two conditions that have
the same truth under every assignment ask for the same rows of any table.

A statement is read in two steps. What the lexer of quotes has found becomes
tokens: runs of characters become words, and punctuation, names and texts
stand for themselves. Signs and letters are two kinds of characters, so a run
ends between them, as it does at blanks. The tokens are read by a grammar,
`Reads`, with the usual ranks: a disjunction of conjunctions of primaries,
where a primary is an atom or a disjunction in parentheses. A bare word is a
literal only if it is one, so a keyword never passes for a value.

A grammar could read the same tokens in two ways. This one does not, and the
reason is a machine that reads tokens from left to right, with the open
parentheses on a stack. `run_of_reads` says that the machine follows every
derivation of the grammar, and a machine ends in one way only.

## Main definitions

* `Truth`, `Truth.joinAll`: The three truth values, and the truth of several
  conditions under a connective.
* `Atom`, `Condition`, `Condition.truth`: Conditions and their truth.
* `Token`, `tokens`: The tokens of a statement.
* `Spells`, `Reads`: The grammar of atoms and of conditions.
* `Reading`, `Reading.step`, `Reading.run`: The machine.

## Theorems

* `run_of_reads`: The machine follows the grammar.
* `reads_unique`: There are no two ways to read the same tokens.
-/

namespace WhereClause

namespace Sql

/-- The truth values of conditions. -/
inductive Truth where
  | fails
  | unknown
  | holds
deriving DecidableEq, Repr

namespace Truth

/-- Whether both hold. -/
def and : Truth → Truth → Truth
  | .fails, _ => .fails
  | _, .fails => .fails
  | .unknown, _ => .unknown
  | _, .unknown => .unknown
  | .holds, .holds => .holds

/-- Whether one holds at least. -/
def or : Truth → Truth → Truth
  | .holds, _ => .holds
  | _, .holds => .holds
  | .unknown, _ => .unknown
  | _, .unknown => .unknown
  | .fails, .fails => .fails

/-- The truth of two conditions under a connective. -/
def join : Connective → Truth → Truth → Truth
  | .and => and
  | .or => or

/-- The truth of no conditions under a connective. -/
def neutral : Connective → Truth
  | .and => .holds
  | .or => .fails

/-- The truth of several conditions under a connective. -/
def joinAll (op : Connective) (truths : List Truth) : Truth :=
  truths.foldr (join op) (neutral op)

/-- Conditions under the same connective can be put together in any order of
    grouping. -/
theorem join_assoc (op : Connective) (a b c : Truth) :
    join op (join op a b) c = join op a (join op b c) := by
  cases op <;> cases a <;> cases b <;> cases c <;> rfl

theorem join_neutral (op : Connective) (a : Truth) : join op a (neutral op) = a := by
  cases op <;> cases a <;> rfl

end Truth

/-- A comparison of a column with literals, by their texts. -/
structure Atom where
  column : String
  operator : String
  literals : List String
deriving DecidableEq, Repr

/-- A condition as it is read. -/
inductive Condition where
  | atom (a : Atom)
  | and (first second : Condition)
  | or (first second : Condition)
deriving DecidableEq, Repr

/-- The truth of a condition, if that of the atoms is known. -/
def Condition.truth (assignment : Atom → Truth) : Condition → Truth
  | .atom a => assignment a
  | .and first second => (first.truth assignment).and (second.truth assignment)
  | .or first second => (first.truth assignment).or (second.truth assignment)

/-! ## Tokens -/

/-- A part of a condition. -/
inductive Token where
  /-- A run of letters and digits, or of signs. -/
  | word (s : String)
  /-- A name, as it was meant. -/
  | name (s : String)
  /-- A text with its quotes, as it is spelled. -/
  | quoted (s : String)
  | opening
  | closing
  | comma
deriving DecidableEq, Repr

/-- The tokens of a character that is in no word. -/
def punctuation? (c : Char) : Option (List Token) :=
  if c = ' ' then some []
  else if c = '(' then some [.opening]
  else if c = ')' then some [.closing]
  else if c = ',' then some [.comma]
  else none

/-- Whether a character is part of an operator that is not spelled with
    letters. -/
def isSign (c : Char) : Bool :=
  c = '=' || c = '<' || c = '>' || c = '!'

/-- The word that a run has become, before what follows it. -/
def closeRun (run : List Char) (tokens : List Token) : List Token :=
  if run.isEmpty then tokens else .word (String.ofList run) :: tokens

/-- The tokens of lexemes, where a run has been open. -/
def tokenize (run : List Char) : List Lexeme → List Token
  | [] => closeRun run []
  | .outside c :: rest =>
      match punctuation? c with
      | some tokens => closeRun run (tokens ++ tokenize [] rest)
      | none =>
          if run.all (isSign · = isSign c) then tokenize (run ++ [c]) rest
          else closeRun run (tokenize [c] rest)
  | .name body :: rest =>
      closeRun run (.name (String.ofList (unescape (singleBackticks body))) :: tokenize [] rest)
  | .text body :: rest =>
      closeRun run (.quoted (String.ofList ('"' :: body ++ ['"'])) :: tokenize [] rest)

/-- The tokens of a statement. -/
def tokens (statement : String) : List Token :=
  tokenize [] (lexemes statement)

/-! ## The grammar -/

/-- The text of a literal, if a token is one. -/
def Token.literal? : Token → Option String
  | .word s => if isBareLiteral s then some s else none
  | .quoted s => some s
  | _ => none

/-- The operators between a column and a single literal that are signs. -/
def signs : List String :=
  ["=", ">", ">=", "<", "<=", "!="]

/-- Tokens that are literals with commas between them, with at least one
    literal. -/
inductive Listed : List Token → List String → Prop where
  | last {token : Token} {s : String} (h : token.literal? = some s) : Listed [token] [s]
  | more {token : Token} {s : String} {ts : List Token} {rest : List String}
      (h : token.literal? = some s) (hrest : Listed ts rest) :
      Listed (token :: .comma :: ts) (s :: rest)

/-- Tokens that spell an atom. -/
inductive Spells : List Token → Atom → Prop where
  | isNull (column : String) :
      Spells [.name column, .word "IS", .word "NULL"] ⟨column, "IS NULL", []⟩
  | sign (column sign : String) {token : Token} {s : String} (hsign : sign ∈ signs)
      (h : token.literal? = some s) :
      Spells [.name column, .word sign, token] ⟨column, sign, [s]⟩
  | regexp (column : String) {token : Token} {s : String} (h : token.literal? = some s) :
      Spells [.name column, .word "REGEXP", token] ⟨column, "REGEXP", [s]⟩
  | regexpBinary (column : String) {token : Token} {s : String} (h : token.literal? = some s) :
      Spells [.name column, .word "REGEXP", .word "BINARY", token]
        ⟨column, "REGEXP BINARY", [s]⟩
  | oneOf (column : String) {ts : List Token} {texts : List String} (h : Listed ts texts) :
      Spells ([.name column, .word "IN", .opening] ++ ts ++ [.closing]) ⟨column, "IN", texts⟩
  | noneOf (column : String) {ts : List Token} {texts : List String} (h : Listed ts texts) :
      Spells ([.name column, .word "NOT", .word "IN", .opening] ++ ts ++ [.closing])
        ⟨column, "NOT IN", texts⟩

/-- How tightly a condition is held together. -/
inductive Rank where
  | primary
  | conjunction
  | disjunction
deriving DecidableEq, Repr

/-- Tokens that are a condition of a rank. Conditions of the same rank are
    read from left to right. -/
inductive Reads : Rank → List Token → Condition → Prop where
  | atom {ts : List Token} {a : Atom} (h : Spells ts a) : Reads .primary ts (.atom a)
  | grouped {ts : List Token} {c : Condition} (h : Reads .disjunction ts c) :
      Reads .primary ([.opening] ++ ts ++ [.closing]) c
  | primary {ts : List Token} {c : Condition} (h : Reads .primary ts c) :
      Reads .conjunction ts c
  | and {ss ts : List Token} {c d : Condition} (hc : Reads .conjunction ss c)
      (hd : Reads .primary ts d) :
      Reads .conjunction (ss ++ [.word "AND"] ++ ts) (.and c d)
  | conjunction {ts : List Token} {c : Condition} (h : Reads .conjunction ts c) :
      Reads .disjunction ts c
  | or {ss ts : List Token} {c d : Condition} (hc : Reads .disjunction ss c)
      (hd : Reads .conjunction ts d) :
      Reads .disjunction (ss ++ [.word "OR"] ++ ts) (.or c d)

/-! ## The machine -/

/-- What has been read since a parenthesis was opened. -/
structure Level where
  /-- The disjunction to the left of the last OR. -/
  before : Option Condition := none
  /-- The conjunction to the left of the last AND, or of where the machine
      stands. -/
  beside : Option Condition := none
deriving Repr

/-- The level with another primary. -/
def Level.add (level : Level) (c : Condition) : Level :=
  match level.beside with
  | none => { level with beside := some c }
  | some b => { level with beside := some (.and b c) }

/-- The whole level as one condition. -/
def Level.value : Level → Option Condition
  | ⟨none, beside⟩ => beside
  | ⟨some b, some c⟩ => some (.or b c)
  | ⟨some _, none⟩ => none

/-- Where the machine stands. -/
inductive Stand where
  /-- A condition has to begin. -/
  | start
  /-- A condition has just ended. -/
  | done
  | column (name : String)
  | is (name : String)
  | not (name : String)
  | regexp (name : String)
  /-- A literal has to follow. -/
  | operand (name operator : String)
  /-- A list of literals has to follow. -/
  | list (name operator : String)
  /-- An item of a list has to follow. -/
  | item (name operator : String) (texts : List String)
  /-- An item of a list has just ended. -/
  | listed (name operator : String) (texts : List String)
deriving Repr

/-- The machine: where it stands, and the levels that are open. -/
structure Reading where
  stand : Stand := .start
  level : Level := {}
  outer : List Level := []
deriving Repr

namespace Reading

/-- The machine after a condition has ended. -/
def finish (reading : Reading) (c : Condition) : Reading :=
  { reading with stand := .done, level := reading.level.add c }

/-- The machine after a word behind a column. -/
def behindColumn (reading : Reading) (name word : String) : Option Reading :=
  if word = "IS" then some { reading with stand := .is name }
  else if word = "NOT" then some { reading with stand := .not name }
  else if word = "IN" then some { reading with stand := .list name "IN" }
  else if word = "REGEXP" then some { reading with stand := .regexp name }
  else if word ∈ signs then some { reading with stand := .operand name word }
  else none

/-- The machine after a literal, behind which an atom ends. -/
def behindOperand (reading : Reading) (name operator : String) (token : Token) :
    Option Reading :=
  token.literal?.map fun s => reading.finish (.atom ⟨name, operator, [s]⟩)

/-- The machine after one more token. -/
def step (reading : Reading) (token : Token) : Option Reading :=
  match reading.stand with
  | .start =>
      match token with
      | .name name => some { reading with stand := .column name }
      | .opening => some ⟨.start, {}, reading.level :: reading.outer⟩
      | _ => none
  | .done =>
      match token with
      | .word word =>
          if word = "AND" then some { reading with stand := .start }
          else if word = "OR" then
            some { reading with stand := .start, level := { before := reading.level.value } }
          else none
      | .closing =>
          match reading.outer, reading.level.value with
          | level :: outer, some c => some ⟨.done, level.add c, outer⟩
          | _, _ => none
      | _ => none
  | .column name =>
      match token with
      | .word word => reading.behindColumn name word
      | _ => none
  | .is name =>
      if token = .word "NULL" then some (reading.finish (.atom ⟨name, "IS NULL", []⟩)) else none
  | .not name =>
      if token = .word "IN" then some { reading with stand := .list name "NOT IN" } else none
  | .regexp name =>
      if token = .word "BINARY" then some { reading with stand := .operand name "REGEXP BINARY" }
      else reading.behindOperand name "REGEXP" token
  | .operand name operator => reading.behindOperand name operator token
  | .list name operator =>
      if token = .opening then some { reading with stand := .item name operator [] } else none
  | .item name operator texts =>
      token.literal?.map fun s => { reading with stand := .listed name operator (texts ++ [s]) }
  | .listed name operator texts =>
      if token = .comma then some { reading with stand := .item name operator texts }
      else if token = .closing then some (reading.finish (.atom ⟨name, operator, texts⟩))
      else none

/-- The condition that the machine finds in tokens, if it finds one. -/
def run (reading : Reading) : List Token → Option Condition
  | [] =>
      match reading.stand, reading.outer with
      | .done, [] => reading.level.value
      | _, _ => none
  | token :: rest =>
      match reading.step token with
      | some next => next.run rest
      | none => none

theorem run_cons (reading next : Reading) (token : Token) (h : reading.step token = some next)
    (rest : List Token) : reading.run (token :: rest) = next.run rest := by
  rw [run, h]

/-- A literal ends the atom that it is the operand of. -/
theorem run_operand (reading : Reading) (name operator s : String) (token : Token)
    (h : token.literal? = some s) (rest : List Token) :
    run { reading with stand := .operand name operator } (token :: rest) =
      (reading.finish (.atom ⟨name, operator, [s]⟩)).run rest := by
  refine run_cons _ _ _ ?_ rest
  show behindOperand _ name operator token = _
  rw [behindOperand, h]
  rfl

/-- The items of a list are collected up to its end, where the atom ends. -/
theorem run_listed (reading : Reading) (name operator : String) (ts : List Token)
    (texts : List String) (h : Listed ts texts) (before : List String) (rest : List Token) :
    run { reading with stand := .item name operator before } (ts ++ .closing :: rest) =
      (reading.finish (.atom ⟨name, operator, before ++ texts⟩)).run rest := by
  induction h generalizing before with
  | @last token s hs =>
      -- The parenthesis that closes the list ends the atom.
      have hitem : step { reading with stand := .item name operator before } token =
          some { reading with stand := .listed name operator (before ++ [s]) } := by
        simp only [step, hs, Option.map_some]
      exact (run_cons _ _ _ hitem _).trans (run_cons _ _ _ rfl rest)
  | @more token s ts texts hs hrest ih =>
      -- A comma leads back to where an item has to follow.
      have hitem : step { reading with stand := .item name operator before } token =
          some { reading with stand := .listed name operator (before ++ [s]) } := by
        simp only [step, hs, Option.map_some]
      refine (run_cons _ _ _ hitem _).trans ((run_cons _ _ _ rfl _).trans ?_)
      exact (ih (before ++ [s])).trans (by rw [List.append_assoc, List.singleton_append])

/-- The machine reads an atom and adds it to the level, one case per way to
    spell an atom. -/
theorem run_of_spells (ts : List Token) (a : Atom) (h : Spells ts a) (level : Level)
    (outer : List Level) (rest : List Token) :
    run ⟨.start, level, outer⟩ (ts ++ rest) = run ⟨.done, level.add (.atom a), outer⟩ rest := by
  cases h with
  | isNull column =>
      -- Each token has its own stand, so every step is computed.
      exact (run_cons _ _ _ rfl _).trans ((run_cons _ _ _ rfl _).trans (run_cons _ _ _ rfl rest))
  | @sign column sign token s hsign hs =>
      have hword : step ⟨.column column, level, outer⟩ (.word sign) =
          some ⟨.operand column sign, level, outer⟩ := by
        -- A sign is none of the words that are looked for before the signs.
        have hwords : ∀ sign ∈ signs, sign ≠ "IS" ∧ sign ≠ "NOT" ∧ sign ≠ "IN" ∧
            sign ≠ "REGEXP" := by decide
        have hne := hwords sign hsign
        simp only [step, behindColumn, if_neg hne.1, if_neg hne.2.1, if_neg hne.2.2.1,
          if_neg hne.2.2.2, if_pos hsign]
      refine (run_cons _ _ _ rfl _).trans ((run_cons _ _ _ hword _).trans ?_)
      exact run_operand ⟨.start, level, outer⟩ column sign s token hs rest
  | @regexp column token s hs =>
      -- A literal is not the word that would make the operator longer.
      have hliteral : step ⟨.regexp column, level, outer⟩ token =
          some ⟨.done, level.add (.atom ⟨column, "REGEXP", [s]⟩), outer⟩ := by
        have hne : token ≠ .word "BINARY" := by
          intro heq
          have hno : (Token.word "BINARY").literal? = none := by decide
          rw [heq, hno] at hs
          cases hs
        simp only [step, if_neg hne, behindOperand, hs, Option.map_some, finish]
      exact (run_cons _ _ _ rfl _).trans ((run_cons _ _ _ rfl _).trans
        (run_cons _ _ _ hliteral rest))
  | @regexpBinary column token s hs =>
      refine (run_cons _ _ _ rfl _).trans ((run_cons _ _ _ rfl _).trans
        ((run_cons _ _ _ rfl _).trans ?_))
      exact run_operand ⟨.start, level, outer⟩ column "REGEXP BINARY" s token hs rest
  | @oneOf column ts texts hlisted =>
      simp only [List.append_assoc, List.cons_append, List.nil_append]
      refine (run_cons _ _ _ rfl _).trans ((run_cons _ _ _ rfl _).trans
        ((run_cons _ _ _ rfl _).trans ?_))
      exact run_listed ⟨.start, level, outer⟩ column "IN" ts texts hlisted [] rest
  | @noneOf column ts texts hlisted =>
      simp only [List.append_assoc, List.cons_append, List.nil_append]
      refine (run_cons _ _ _ rfl _).trans ((run_cons _ _ _ rfl _).trans
        ((run_cons _ _ _ rfl _).trans ((run_cons _ _ _ rfl _).trans ?_)))
      exact run_listed ⟨.start, level, outer⟩ column "NOT IN" ts texts hlisted [] rest

end Reading

open Reading

/-- What the machine does with a condition of a rank. A primary is added to
    the level, a conjunction becomes what stands beside, and a disjunction
    makes up the whole level. -/
def Rank.Follows (ts : List Token) (c : Condition) : Rank → Prop
  | .primary => ∀ level outer rest,
      run ⟨.start, level, outer⟩ (ts ++ rest) = run ⟨.done, level.add c, outer⟩ rest
  | .conjunction => ∀ before outer rest,
      run ⟨.start, ⟨before, none⟩, outer⟩ (ts ++ rest) =
        run ⟨.done, ⟨before, some c⟩, outer⟩ rest
  | .disjunction => ∃ level : Level, level.value = some c ∧ ∀ outer rest,
      run ⟨.start, {}, outer⟩ (ts ++ rest) = run ⟨.done, level, outer⟩ rest

/-- The machine follows every derivation. -/
theorem run_of_reads (rank : Rank) (ts : List Token) (c : Condition) (h : Reads rank ts c) :
    rank.Follows ts c := by
  induction h with
  | @atom ts a h => exact run_of_spells ts a h
  | @grouped ts c h ih =>
      -- The level outside waits on the stack until the parenthesis closes.
      intro level outer rest
      rcases ih with ⟨inner, hvalue, hrun⟩
      have hclose : step ⟨.done, inner, level :: outer⟩ .closing =
          some ⟨.done, level.add c, outer⟩ := by
        simp only [step, hvalue]
      simp only [List.append_assoc, List.cons_append, List.nil_append]
      exact (run_cons _ _ _ rfl _).trans ((hrun _ _).trans (run_cons _ _ _ hclose rest))
  | primary h ih => exact fun before outer rest => ih ⟨before, none⟩ outer rest
  | and hc hd ihc ihd =>
      intro before outer rest
      rw [List.append_assoc, List.append_assoc]
      exact (ihc before outer _).trans ((run_cons _ _ _ rfl _).trans
        (ihd ⟨before, some _⟩ outer rest))
  | @conjunction ts c h ih => exact ⟨⟨none, some c⟩, rfl, fun outer rest => ih none outer rest⟩
  | @or ss ts c d hc hd ihc ihd =>
      -- The disjunction so far becomes what stands before the new one.
      rcases ihc with ⟨level, hvalue, hrun⟩
      refine ⟨⟨some c, some d⟩, rfl, fun outer rest => ?_⟩
      have hor : step ⟨.done, level, outer⟩ (.word "OR") =
          some ⟨.start, ⟨some c, none⟩, outer⟩ := by
        rw [← hvalue]
        rfl
      rw [List.append_assoc, List.append_assoc]
      exact (hrun outer _).trans ((run_cons _ _ _ hor _).trans (ihd (some c) outer rest))

/-- The same tokens are not read in two ways. -/
theorem reads_unique (ts : List Token) (c d : Condition) (hc : Reads .disjunction ts c)
    (hd : Reads .disjunction ts d) : c = d := by
  -- The machine finds whatever the grammar reads, and it finds one condition at
  -- most.
  have hrun : ∀ e, Reads .disjunction ts e → run {} ts = some e := by
    intro e he
    rcases run_of_reads _ _ _ he with ⟨level, hvalue, hlevel⟩
    have hend := hlevel [] []
    rw [List.append_nil] at hend
    exact hend.trans hvalue
  exact Option.some.inj ((hrun c hc).symm.trans (hrun d hd))

-- A conjunction is held together more tightly than a disjunction.
example : run {} [.name "a", .word "IS", .word "NULL", .word "OR", .name "b", .word "=",
      .quoted "\"x\"", .word "AND", .name "c", .word "REGEXP", .quoted "\"y\""] =
    some (.or (.atom ⟨"a", "IS NULL", []⟩)
      (.and (.atom ⟨"b", "=", ["\"x\""]⟩) (.atom ⟨"c", "REGEXP", ["\"y\""]⟩))) := rfl

end Sql

end WhereClause
