/-!
# Escaped Texts

How a text is written between the quotes of a statement.

A text or a name that gets into a statement must not end its own quotes, so
the characters that have a meaning there take a backslash: the quotes, the
backslash itself and the percent sign stand behind it as they are, and six
control characters are written as letters. Everything else stands for itself.

Each character is escaped without regard to its neighbours. The escaped form
of a text put together from two is therefore put together from the two
escaped forms.

Most texts have nothing to escape. A text is therefore looked through before it
is escaped, and if that finds nothing the text is given back as it is.

## Main definitions

* `special`: The letter that stands for a character behind the backslash.
* `escapeChar`, `escape`: A character and a text, escaped.
* `isPlain`: Whether a text has nothing to escape.
* `needsEscape`, `escapeText`: What a text is looked through for, and a text
  escaped after that.
* `quoteText`: A text in double quotes.
* `quoteName`: A name in backticks.

## Theorems

* `escapeChars_append`: Escaping works on either part of a text alone.
* `escapeChars_eq_self_iff`: Escaping changes a text exactly if it is not
  plain.
-/

namespace WhereClause

namespace Sql

/-- What stands behind the backslash for a character that needs one. -/
def special (c : Char) : Option Char :=
  match c with
  | '\x00' => some '0'
  | '\x08' => some 'b'
  | '\t' => some 't'
  | '\x1a' => some 'z'
  | '\n' => some 'n'
  | '\r' => some 'r'
  | '"' => some '"'
  | '\'' => some '\''
  | '\\' => some '\\'
  | '%' => some '%'
  | _ => none

/-- One character, escaped. -/
def escapeChar (c : Char) : List Char :=
  match special c with
  | some letter => ['\\', letter]
  | none => [c]

/-- The characters of a text, escaped. -/
def escapeChars (s : List Char) : List Char :=
  s.flatMap escapeChar

/-- Whether a text has nothing to escape. -/
def isPlain (s : String) : Bool :=
  s.toList.all fun c => (special c).isNone

/-- A text, escaped. -/
def escape (s : String) : String :=
  String.ofList (escapeChars s.toList)

/-- Whether a character has to be escaped. -/
def needsEscape (c : Char) : Bool :=
  ['\x00', '\x08', '\t', '\x1a', '\n', '\r', '"', '\'', '\\', '%'].contains c

/-- What escaping makes of a text. -/
inductive Escaped where
  /-- The text itself. -/
  | same (s : String)
  /-- A text that was written in its place. -/
  | rewritten (s : String)
deriving DecidableEq, Repr

/-- The text that is to be used. -/
def Escaped.text : Escaped → String
  | .same s => s
  | .rewritten s => s

/-- Escape a text, unless there is nothing to escape in it. -/
def escapeText (s : String) : Escaped :=
  if s.toList.any needsEscape then .rewritten (escape s) else .same s

/-- Write every backtick twice. -/
def doubleBackticks (s : List Char) : List Char :=
  s.flatMap fun c => if c = '\x60' then ['\x60', '\x60'] else [c]

/-- A text in double quotes. -/
def quoteText (s : String) : String :=
  String.ofList ('"' :: escapeChars s.toList ++ ['"'])

/-- A name in backticks. A backtick in it is written twice, after
    escaping. -/
def quoteName (name : String) : String :=
  String.ofList ('\x60' :: doubleBackticks (escapeChars name.toList) ++ ['\x60'])

theorem escapeChars_append (s t : List Char) :
    escapeChars (s ++ t) = escapeChars s ++ escapeChars t :=
  List.flatMap_append

/-- Escaping leaves alone exactly the texts with nothing to escape. -/
theorem escapeChars_eq_self_iff (s : List Char) :
    escapeChars s = s ↔ s.all (fun c => (special c).isNone) = true := by
  induction s with
  | nil => simp only [escapeChars, List.flatMap_nil, List.all_nil]
  | cons c rest ih =>
      have hcons : escapeChars (c :: rest) = escapeChar c ++ escapeChars rest :=
        List.flatMap_cons
      -- Escaping never makes a text shorter, so a backslash is not made up for.
      have hlen : rest.length ≤ (escapeChars rest).length := by
        clear ih hcons
        induction rest with
        | nil => exact Nat.le_refl 0
        | cons d rest ih =>
            rw [escapeChars, List.flatMap_cons, List.length_append, List.length_cons]
            have hd : 1 ≤ (escapeChar d).length := by
              rw [escapeChar]; split <;> simp only [List.length_cons, List.length_nil] <;> omega
            have := ih
            rw [escapeChars] at this
            omega
      rw [hcons, escapeChar, List.all_cons]
      cases h : special c with
      | none =>
          simp only [List.cons_append, List.nil_append, List.cons.injEq, true_and, ih,
            Option.isNone_none, Bool.true_and]
      | some letter =>
          simp only [List.cons_append, List.nil_append, Option.isNone_some, Bool.false_and,
            Bool.false_eq_true, iff_false]
          intro heq
          have := congrArg List.length heq
          simp only [List.length_cons] at this
          omega

end Sql

end WhereClause
