import WhereClause.CommandLine.Usage
import WhereClause.Settings

/-!
# Commands

What the program can be asked to do.

It compiles a filter document, prints the filter of one as a tree, or writes
a literal or names as they stand in statements. A document comes from an
option, from a file or, if neither is given, from standard input.

## Main definitions

* `Source`, `SettingsOptions`: Where a document comes from, and what a run
  says about settings.
* `Command`: What to do.
* `commands`: The commands with their options, as they are typed.
* `Command.ofArguments`: The command that arguments spell.
-/

namespace WhereClause

namespace CommandLine

/-- Where a filter document comes from. -/
inductive Source where
  /-- It is given as it is. -/
  | given (text : String)
  | file (path : String)
  | input
deriving DecidableEq, Repr

/-- What the options of a run say about settings. -/
structure SettingsOptions where
  maxDepth : Option UInt64 := none
  /-- A file with values for the environment. -/
  envFile : Option String := none
deriving DecidableEq, Repr

/-- What to do. -/
inductive Command where
  /-- Compile a document, with the keyword in front or not, and with the
      values apart or not. -/
  | compile (source : Source) (options : SettingsOptions) (keyword parameterized : Bool)
  /-- Write a JSON value as a literal. -/
  | quoteValue (json : String)
  /-- Write names in quotes. -/
  | quoteNames (names : List String)
  /-- Print the filter of a document as a tree. -/
  | ast (source : Source) (options : SettingsOptions)
deriving DecidableEq, Repr

/-- The options of every command that reads a document. -/
def documentSwitches : List Switch :=
  [{ name := "filter", takesValue := true },
    { name := "file", takesValue := true },
    { name := "max-depth", takesValue := true,
      accepts := fun value => (parseCount? value.toList).isSome },
    { name := "env-file", takesValue := true }]

/-- The commands with their options, as they are typed. -/
def commands : CommandTree :=
  .branch true
    [("compile", .leaf
        { switches := documentSwitches ++
            [{ name := "where", takesValue := false },
              { name := "params", takesValue := false }] }),
      ("quote", .branch false
        [("value", .leaf { operands := .one }),
          ("ident", .leaf { operands := .several })]),
      ("ast", .leaf { switches := documentSwitches })]

/-- Where the document comes from. The two options exclude each other. -/
def Source.ofParsed (parsed : Parsed) : Except UsageError Source :=
  match parsed.value? "filter", parsed.value? "file" with
  | some _, some _ => .error .argumentConflict
  | some text, none => .ok (.given text)
  | none, some path => .ok (.file path)
  | none, none => .ok .input

/-- What the options say about settings. -/
def SettingsOptions.ofParsed (parsed : Parsed) : SettingsOptions where
  maxDepth := (parsed.value? "max-depth").bind fun value => parseCount? value.toList
  envFile := parsed.value? "env-file"

namespace Command

/-- The command at a path, with its arguments. -/
def ofParsed (path : List String) (parsed : Parsed) : Except UsageError Command :=
  match path with
  | ["compile"] => do
      let source ← Source.ofParsed parsed
      .ok (.compile source (.ofParsed parsed) (parsed.has "where") (parsed.has "params"))
  | ["ast"] => do
      let source ← Source.ofParsed parsed
      .ok (.ast source (.ofParsed parsed))
  | ["quote", "value"] =>
      match parsed.operands with
      | [json] => .ok (.quoteValue json)
      | _ => .error .missingOperand
  | ["quote", "ident"] =>
      if parsed.operands.isEmpty then .error .missingOperand
      else .ok (.quoteNames parsed.operands)
  | _ => .error .unknownCommand

/-- The command that arguments spell. -/
def ofArguments (arguments : List String) : Except UsageError Command := do
  let (path, parsed) ← commands.select arguments
  ofParsed path parsed

/-- The files that a command may have to read. -/
def paths : Command → List String
  | .compile source options _ _ => sourcePaths source ++ options.envFile.toList
  | .ast source options => sourcePaths source ++ options.envFile.toList
  | .quoteValue _ | .quoteNames _ => []
where
  /-- The file that a document comes from. -/
  sourcePaths : Source → List String
    | .file path => [path]
    | .given _ | .input => []

/-- Whether a command may have to read standard input. -/
def readsInput : Command → Bool
  | .compile .input .. | .ast .input _ => true
  | _ => false

end Command

end CommandLine

end WhereClause
