import WhereClause.Environment
import WhereClause.Text.Blank

/-!
# Environment Files

Files that give values to names, a line for each.

A line has a name, an equals sign and a value. Blanks around any of these
mean nothing. A value may stand in quotes of either kind, which are taken off
and protect the blanks inside; there are no escapes, so a value in quotes may
hold any character at all except the end of the line. Lines that are empty or
begin with a number sign are skipped.

Loading goes from line to line and stops at the first one that is none of
these. What the lines before it have set stays set.

## Main definitions

* `Line`, `Line.ofText`: What a line says.
* `load`: An environment after a file, and the first bad line.
-/

namespace WhereClause

namespace EnvFile

/-- What a line of an environment file says. -/
inductive Line where
  /-- Nothing. -/
  | skipped
  | assignment (name value : String)
  /-- There is no equals sign in it. -/
  | noAssignment
  /-- There is nothing before the equals sign. -/
  | emptyName
deriving DecidableEq, Repr

/-- Why a file was not loaded to its end: the first bad line, counted from
    one. -/
inductive Fault where
  | noAssignment (line : Nat)
  | emptyName (line : Nat)
deriving DecidableEq, Repr

/-- The text of a fault. -/
def Fault.message : Fault → String
  | .noAssignment line => "malformed line " ++ toString line ++ " (expected KEY=VALUE)"
  | .emptyName line => "empty key at line " ++ toString line

/-- The lines of a text. -/
def lines : List Char → List (List Char)
  | [] => [[]]
  | c :: rest =>
      if c = '\n' then [] :: lines rest
      else
        match lines rest with
        | [] => [[c]]
        | first :: more => (c :: first) :: more

/-- A value without the quotes around it, if the same quote stands at both
    ends. -/
def unquote (value : List Char) : List Char :=
  match value with
  | [] => []
  | first :: rest =>
      if (first = '"' || first = '\'') && rest.getLast? = some first then rest.dropLast
      else value

/-- What a line says. -/
def Line.ofText (text : List Char) : Line :=
  let line := Text.trim text
  if line.isEmpty || line.head? = some '#' then .skipped
  else if !line.contains '=' then .noAssignment
  else
    let name := Text.trim (line.takeWhile (· ≠ '='))
    let value := (line.dropWhile (· ≠ '=')).drop 1
    if name.isEmpty then .emptyName
    else .assignment (String.ofList name) (String.ofList (unquote (Text.trim value)))

/-- The environment after several lines, of which the first has the given
    number, and the first bad one among them. -/
def loadLines (env : Environment) (number : Nat) :
    List (List Char) → Environment × Option Fault
  | [] => (env, none)
  | text :: rest =>
      match Line.ofText text with
      | .skipped => loadLines env (number + 1) rest
      | .assignment name value => loadLines (env.set name value) (number + 1) rest
      | .noAssignment => (env, some (.noAssignment number))
      | .emptyName => (env, some (.emptyName number))

/-- The environment after a file, and the first bad line of the file. -/
def load (env : Environment) (content : String) : Environment × Option Fault :=
  loadLines env 1 (lines content.toList)

end EnvFile

end WhereClause
