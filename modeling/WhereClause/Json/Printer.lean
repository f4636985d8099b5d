import WhereClause.Decimal.Notation
import WhereClause.Json.Basic

/-!
# JSON Texts

How JSON values are written.

There are two forms. The compact one has no white space at all and is for
programs; the indented one has a line per item and is for people. Both write
a text between double quotes with as few escapes as JSON allows: the quote,
the backslash and the control characters below the space. Everything else
stands for itself, so a written text can hold any other character.

Since every control character is escaped, the compact form of any value is a
single line.

## Main definitions

* `escapeChar`, `quoted`: A character inside a JSON string, and the string.
* `Number.text`: The text of a number.
* `compact`, `indented`: The two forms, as lists of characters.
* `toText`, `toIndentedText`: The two forms, as strings.
-/

namespace WhereClause

namespace Json

/-- One character inside a JSON string. -/
def escapeChar (c : Char) : List Char :=
  match c with
  | '"' => ['\\', '"']
  | '\\' => ['\\', '\\']
  | '\x08' => ['\\', 'b']
  | '\t' => ['\\', 't']
  | '\n' => ['\\', 'n']
  | '\x0c' => ['\\', 'f']
  | '\r' => ['\\', 'r']
  | c =>
      if c.toNat < 0x20 then
        ['\\', 'u', '0', '0', Nat.digitChar (c.toNat / 16), Nat.digitChar (c.toNat % 16)]
      else [c]

/-- A JSON string: the text between double quotes, escaped. -/
def quoted (s : String) : List Char :=
  '"' :: s.toList.flatMap escapeChar ++ ['"']

/-- The text of a number: a whole number as it is, a real one in the JSON
    layout. -/
def Number.text : Number → List Char
  | .whole n _ => Decimal.ofInt n
  | .real x _ => Decimal.Layout.json.text x

mutual

/-- The value on one line and without white space. -/
def compact : Json → List Char
  | .null => ['n', 'u', 'l', 'l']
  | .bool true => ['t', 'r', 'u', 'e']
  | .bool false => ['f', 'a', 'l', 's', 'e']
  | .number n => n.text
  | .text s => quoted s
  | .array items => '[' :: [','].intercalate (compactItems items) ++ [']']
  | .object entries => '\x7b' :: [','].intercalate (compactEntries entries) ++ ['\x7d']

/-- The items of an array in compact form. -/
def compactItems : List Json → List (List Char)
  | [] => []
  | item :: rest => item.compact :: compactItems rest

/-- The entries of an object in compact form. -/
def compactEntries : List (String × Json) → List (List Char)
  | [] => []
  | (key, value) :: rest => (quoted key ++ ':' :: value.compact) :: compactEntries rest

end

/-- The start of a line at a depth: two spaces per level. -/
def newline (depth : Nat) : List Char :=
  '\n' :: List.replicate (2 * depth) ' '

/-- The parts of an array or an object, each on a line of its own, between
    the two brackets. Without parts the brackets stand together. -/
def block (opening closing : Char) (depth : Nat) (parts : List (List Char)) : List Char :=
  if parts.isEmpty then [opening, closing]
  else
    let lines := parts.map fun part => newline (depth + 1) ++ part
    opening :: [','].intercalate lines ++ newline depth ++ [closing]

mutual

/-- The value with every item and entry on a line of its own, inside `depth`
    other values. -/
def indented (depth : Nat) : Json → List Char
  | .array items => block '[' ']' depth (indentedItems (depth + 1) items)
  | .object entries => block '\x7b' '\x7d' depth (indentedEntries (depth + 1) entries)
  | .null => compact .null
  | .bool b => compact (.bool b)
  | .number n => compact (.number n)
  | .text s => compact (.text s)

/-- The items of an array in indented form. -/
def indentedItems (depth : Nat) : List Json → List (List Char)
  | [] => []
  | item :: rest => item.indented depth :: indentedItems depth rest

/-- The entries of an object in indented form. -/
def indentedEntries (depth : Nat) : List (String × Json) → List (List Char)
  | [] => []
  | (key, value) :: rest =>
      (quoted key ++ ':' :: ' ' :: value.indented depth) :: indentedEntries depth rest

end

/-- The compact form as a string. -/
def toText (value : Json) : String :=
  String.ofList value.compact

/-- The indented form as a string. -/
def toIndentedText (value : Json) : String :=
  String.ofList (value.indented 0)

end Json

end WhereClause
