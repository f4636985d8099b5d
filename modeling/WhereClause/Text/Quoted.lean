import WhereClause.Text.Printable

/-!
# Quoted Texts

The form in which a text is shown to a person.

A shown text stands between double quotes. Inside, the quote and the
backslash take a backslash, the four usual control characters have a letter,
and any other character that would not be seen is written as its number in
hexadecimal between braces. So what is shown is printable throughout and says
exactly which characters the text has.

This is not the form in which a text enters a statement; that one is
`Sql.Escape`.

## Main definitions

* `quoteChar`: How one character is shown.
* `quote`: A text between double quotes.
* `quoteList`: Several texts between brackets.
-/

namespace WhereClause

namespace Text

/-- One character of a quoted text. -/
def quoteChar (c : Char) : List Char :=
  match c with
  | '\x00' => ['\\', '0']
  | '\t' => ['\\', 't']
  | '\n' => ['\\', 'n']
  | '\r' => ['\\', 'r']
  | '"' => ['\\', '"']
  | '\\' => ['\\', '\\']
  | c =>
      if isPrintable c then [c]
      else '\\' :: 'u' :: '\x7b' :: Nat.toDigits 16 c.toNat ++ ['\x7d']

/-- The text between double quotes. -/
def quote (s : String) : String :=
  String.ofList ('"' :: s.toList.flatMap quoteChar ++ ['"'])

/-- Several texts, quoted, between brackets and with commas between them. -/
def quoteList (texts : List String) : String :=
  "[" ++ ", ".intercalate (texts.map quote) ++ "]"

end Text

end WhereClause
