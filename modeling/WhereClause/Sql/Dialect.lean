import WhereClause.Literal.Basic
import WhereClause.Sql.Escape

/-!
# Dialects

How names, literals and placeholders are spelled in a statement.

Databases agree on the shape of a condition and disagree on the spelling of
its parts, so the parts are a record of functions and everything else in this
library takes that record. A placeholder is told its position among the
values, which most dialects that number their placeholders need.

The dialect at hand is the one of MySQL: backticks around names, double
quotes around texts, a bare question mark for a value that is passed apart.
A literal always has some text. Numbers that have none in SQL are null, and
so is anything a column cannot be compared with.

## Main definitions

* `Dialect`: The spellings of one database.
* `Dialect.mySql`: The spellings of MySQL.
* `mySqlLiteral`: A literal in the spelling of MySQL.
-/

namespace WhereClause

namespace Sql

/-- The spellings of one database. -/
structure Dialect where
  /-- A name in quotes. -/
  quoteName : String → String
  /-- A literal, written into the statement. -/
  literal : Literal → String
  /-- What stands for the value at a position, counted from zero. -/
  placeholder : Nat → String
  /-- The name of a table in quotes, which is quoted like any other unless
      the database says otherwise. -/
  quoteTable : String → String := quoteName

mutual

/-- A literal in the spelling of MySQL. The items of a list follow each other
    with commas between them. -/
def mySqlLiteral : Literal → String
  | .int n => String.ofList (Decimal.ofInt n.toInt)
  | .uint n => String.ofList (Decimal.ofNat n.toNat)
  | .float x => if x.isFinite then String.ofList (Decimal.plainText x) else "NULL"
  | .bool b => if b then "true" else "false"
  | .text s => quoteText s
  | .timestamp t => quoteText t.statementText
  | .list items => ", ".intercalate (mySqlLiterals items)
  | .null => "NULL"

/-- Several literals in the spelling of MySQL. -/
def mySqlLiterals : List Literal → List String
  | [] => []
  | item :: rest => mySqlLiteral item :: mySqlLiterals rest

end

/-- The spellings of MySQL. -/
def Dialect.mySql : Dialect where
  quoteName := Sql.quoteName
  literal := mySqlLiteral
  placeholder _ := "?"

end Sql

end WhereClause
