/-!
# Faults in JSON Texts

Why a text is no JSON value, and where.

A fault is reported with the place at which reading stopped. Lines are
counted from one and end with a line feed. Columns count bytes of the UTF-8
form and not characters, so that a column can be used to cut the text; the
column is the number of bytes of the line up to and including the one that
was wrong, and zero right after a line feed.

## Main definitions

* `Position`: A line and a column.
* `Position.advance`: The position after one more character.
* `Position.within`: The position some bytes into the next character.
* `ReadError.Cause`: What can be wrong.
* `ReadError`: A cause with its position.
* `ReadError.message`: The text of a fault.
-/

namespace WhereClause

namespace Json

/-- How far a text has been read: the number of the line, from one, and the
    number of bytes read of it. -/
structure Position where
  line : Nat
  column : Nat
deriving DecidableEq, Repr

namespace Position

/-- Nothing has been read. -/
def start : Position := ⟨1, 0⟩

/-- The position some bytes after this one, where `c` is the next character
    and the bytes do not reach past a line end that follows it. -/
def within (p : Position) (c : Char) (bytes : Nat) : Position :=
  if bytes ≠ 0 ∧ c = '\n' then ⟨p.line + 1, bytes - 1⟩ else ⟨p.line, p.column + bytes⟩

/-- The position after one more character. -/
def advance (p : Position) (c : Char) : Position :=
  p.within c c.utf8Size

end Position

/-- What is wrong with a text. -/
inductive ReadError.Cause where
  /-- The text ends where a value has to stand, or inside a number or a
      word. -/
  | endInValue
  /-- The text ends inside an array. -/
  | endInList
  /-- The text ends inside an object. -/
  | endInObject
  /-- The text ends inside a string. -/
  | endInText
  /-- A key is not followed by a colon. -/
  | expectedColon
  /-- An item is followed by neither a comma nor a bracket. -/
  | expectedListEnd
  /-- An entry is followed by neither a comma nor a brace. -/
  | expectedObjectEnd
  /-- A word begins like one of the three but goes on differently. -/
  | expectedIdent
  /-- No value begins with this character. -/
  | expectedValue
  /-- A backslash is followed by something that is no escape. -/
  | invalidEscape
  /-- A number goes on in a way no number does. -/
  | invalidNumber
  /-- A number is too large for a double. -/
  | numberOutOfRange
  /-- An escape names half of a surrogate pair, and the other half is missing
      or comes first. -/
  | loneSurrogate
  /-- The first half of a surrogate pair is not followed by an escape. -/
  | unfinishedPair
  /-- A control character stands in a string. -/
  | controlCharacter
  /-- A key is not a string. -/
  | keyNotText
  /-- A comma is followed by the end of the array or object. -/
  | trailingComma
  /-- Something follows the value. -/
  | trailingCharacters
  /-- Arrays and objects are nested too deeply. -/
  | tooDeep
deriving DecidableEq, Repr

/-- A fault of a text: what is wrong, and where reading stopped. -/
structure ReadError where
  cause : ReadError.Cause
  position : Position
deriving DecidableEq, Repr

namespace ReadError

/-- The text of a cause. -/
def Cause.message : Cause → String
  | .endInValue => "EOF while parsing a value"
  | .endInList => "EOF while parsing a list"
  | .endInObject => "EOF while parsing an object"
  | .endInText => "EOF while parsing a string"
  | .expectedColon => "expected `:`"
  | .expectedListEnd => "expected `,` or `]`"
  | .expectedObjectEnd => "expected `,` or `\x7d`"
  | .expectedIdent => "expected ident"
  | .expectedValue => "expected value"
  | .invalidEscape => "invalid escape"
  | .invalidNumber => "invalid number"
  | .numberOutOfRange => "number out of range"
  | .loneSurrogate => "lone leading surrogate in hex escape"
  | .unfinishedPair => "unexpected end of hex escape"
  | .controlCharacter => "control character (\\u0000-\\u001F) found while parsing a string"
  | .keyNotText => "key must be a string"
  | .trailingComma => "trailing comma"
  | .trailingCharacters => "trailing characters"
  | .tooDeep => "recursion limit exceeded"

/-- The text of a fault. -/
def message (e : ReadError) : String :=
  e.cause.message ++ " at line " ++ toString e.position.line ++ " column " ++
    toString e.position.column

end ReadError

end Json

end WhereClause
