import WhereClause.Filter.Build
import WhereClause.Sql.Clause

/-!
# Compiling Filters

From filter documents to conditions of statements.

This is the whole way in one step: a document is built into a filter, as deep
as the settings allow, and the filter is written in the dialect of MySQL.
Writing cannot fail, so compiling a document fails exactly when the document
is no filter. Compiling a text can also fail because the text is no JSON.

## Main definitions

* `CompileError`: Why a text was not compiled.
* `compile`, `compileText`: A document or a text as a condition.
* `compileWhere`: A document as a condition with its keyword.
* `compileParameterized`: A document as a condition with its values apart.
* `parseText`: The filter of a text.
-/

namespace WhereClause

open Sql

/-- Why a text was not compiled. -/
inductive CompileError where
  /-- The text is no JSON. -/
  | invalidJson (error : Json.ReadError)
  /-- The document is no filter. -/
  | invalidFilter (fault : Fault)
deriving Repr

/-- The text of an error. -/
def CompileError.message : CompileError → String
  | .invalidJson error => "Invalid filter JSON: " ++ error.message
  | .invalidFilter fault => fault.message

/-- The filter of a document under given settings. -/
def Settings.build (settings : Settings) (document : Json) : Traced Fault Filter :=
  Filter.build settings.maxDepth.toNat document

/-- A document as a condition. -/
def compile (settings : Settings) (document : Json) : Traced Fault String := do
  let filter ← settings.build document
  let sql := filter.toSql .mySql
  Traced.emit (.compiled settings.maxDepth sql.utf8ByteSize)
  pure sql

/-- A document as a condition behind its keyword, to append to a
    statement. -/
def compileWhere (settings : Settings) (document : Json) : Traced Fault String := do
  let filter ← settings.build document
  pure (whereClause .mySql (some filter))

/-- A document as a condition with placeholders and the values for them. -/
def compileParameterized (settings : Settings) (document : Json) : Traced Fault Clause := do
  let filter ← settings.build document
  let clause := filter.toParameterized .mySql
  Traced.emit (.compiledParameterized clause.values.size)
  pure clause

/-- The document of a text. -/
def readDocument (text : String) : Traced CompileError Json :=
  Traced.ofExcept ((Json.document text).mapError .invalidJson)

/-- The filter of a text. -/
def parseText (settings : Settings) (text : String) : Traced CompileError Filter := do
  let document ← readDocument text
  (settings.build document).mapError .invalidFilter

/-- A text as a condition. -/
def compileText (settings : Settings) (text : String) : Traced CompileError String := do
  let document ← readDocument text
  (compile settings document).mapError .invalidFilter

end WhereClause
