import WhereClause.CommandLine.Command
import WhereClause.Compile
import WhereClause.EnvFile
import WhereClause.Filter.Codec

/-!
# Runs

What a command does in given surroundings, and what a run of the program
leaves behind.

A run does not touch the world. It is told what the environment holds, what
is in each file and what standard input says, and answers with what is to be
printed. The order in which these are looked at shows when more than one of
them is at fault: the settings come first, then the document.

Settings can come from three places. An environment file adds to the
environment, the environment gives the limit, and the option for the limit
has the last word. A value in the environment that spells no limit is an
error even so.

## Main definitions

* `FileFault`, `Surroundings`: What a run is told about the world.
* `RunError`: Why a run failed.
* `loadFile`: An environment after a file.
* `settingsOf`, `documentOf`: The settings and the document of a run.
* `Command.run`: What a command prints.
* `program`: What the program does with its arguments.
-/

namespace WhereClause

namespace CommandLine

open Sql

/-- Why a file could not be read as a text. -/
inductive FileFault where
  | missing
  | isDirectory
  | notText
  | other (description : String)
deriving DecidableEq, Repr

/-- The text of a file's fault. -/
def FileFault.message : FileFault → String
  | .missing => "No such file or directory (os error 2)"
  | .isDirectory => "Is a directory (os error 21)"
  | .notText => "stream did not contain valid UTF-8"
  | .other description => description

/-- The text that bytes hold. -/
def FileFault.decode (bytes : ByteArray) : Except FileFault String :=
  match String.fromUTF8? bytes with
  | some text => .ok text
  | none => .error .notText

/-- What a run is told about the world. -/
structure Surroundings where
  environment : Environment
  fileText : String → Except FileFault String
  input : Except FileFault String

/-- Why an environment file was not loaded. -/
inductive EnvFileError where
  | unreadable (path : String) (fault : FileFault)
  | badLine (fault : EnvFile.Fault)
deriving DecidableEq, Repr

/-- The text of an environment file's error. -/
def EnvFileError.message : EnvFileError → String
  | .unreadable path fault => "failed to read " ++ path ++ ": " ++ fault.message
  | .badLine fault => fault.message

/-- Why a run failed. -/
inductive RunError where
  /-- The document could not be read. -/
  | input (fault : FileFault)
  /-- The document is no JSON. -/
  | invalidJson (error : Json.ReadError)
  /-- The document is no filter. -/
  | invalidFilter (fault : Fault)
  /-- The settings were refused. -/
  | settings (error : SettingsError)
  | envFile (error : EnvFileError)
deriving Repr

/-- The text of a run's error. -/
def RunError.message : RunError → String
  | .input fault => "Failed to read the filter input: " ++ fault.message
  | .invalidJson error => "Failed to parse the input as JSON: " ++ error.message
  | .invalidFilter fault => "Failed to compile the filter: " ++ fault.message
  | .settings error => "Invalid compiler configuration: " ++ error.message
  | .envFile error => "Invalid env file: " ++ error.message

/-- An environment after a file, and why the file was not loaded to its
    end. A file that cannot be read changes nothing. -/
def loadFile (fileText : String → Except FileFault String) (env : Environment) (path : String) :
    Environment × Option EnvFileError :=
  match fileText path with
  | .error fault => (env, some (.unreadable path fault))
  | .ok content =>
      let (env, fault) := EnvFile.load env content
      (env, fault.map .badLine)

/-- The environment of a run: the one around it, with the file that the
    options name. -/
def environmentOf (surroundings : Surroundings) (options : SettingsOptions) :
    Except RunError Environment :=
  match options.envFile with
  | none => .ok surroundings.environment
  | some path =>
      match loadFile surroundings.fileText surroundings.environment path with
      | (env, none) => .ok env
      | (_, some error) => .error (.envFile error)

/-- The settings of a run. -/
def settingsOf (surroundings : Surroundings) (options : SettingsOptions) :
    Except RunError Settings := do
  let env ← environmentOf surroundings options
  let settings ← (Settings.ofLookup env.get?).mapError .settings
  match options.maxDepth with
  | none => .ok settings
  | some maxDepth => (settings.withMaxDepth maxDepth).mapError .settings

/-- The text of the document of a run. -/
def textOf (surroundings : Surroundings) : Source → Except FileFault String
  | .given text => .ok text
  | .file path => surroundings.fileText path
  | .input => surroundings.input

/-- The document of a run. -/
def documentOf (surroundings : Surroundings) (source : Source) : Except RunError Json := do
  let text ← (textOf surroundings source).mapError .input
  (Json.document text).mapError .invalidJson

/-- The filter of a run. -/
def filterOf (surroundings : Surroundings) (source : Source) (options : SettingsOptions) :
    Traced RunError Filter := do
  let settings ← Traced.ofExcept (settingsOf surroundings options)
  Traced.emit (.settled settings)
  let document ← Traced.ofExcept (documentOf surroundings source)
  (settings.build document).mapError .invalidFilter

/-- A filter as a condition, with the keyword in front or not. Values that are
    passed apart follow on a line of their own. A condition to append to a
    statement has a blank in front of its keyword, which nothing needs here. -/
def conditionText (filter : Filter) (keyword parameterized : Bool) : String :=
  if parameterized then
    let clause := filter.toParameterized .mySql
    let text := if keyword then "WHERE " ++ clause.text else clause.text
    let values := (Literal.list clause.values.toList).toJson
    text ++ "\n" ++ values.toText
  else if keyword then
    String.ofList (Text.trimStart (whereClause .mySql (some filter)).toList)
  else filter.toSql .mySql

namespace Command

/-- What a command prints, without a record of failures. -/
def execute (surroundings : Surroundings) : Command → Traced RunError String
  | .compile source options keyword parameterized => do
      let filter ← filterOf surroundings source options
      Traced.emit (.filtered filter.columns)
      pure (conditionText filter keyword parameterized)
  | .quoteValue json => do
      let value ← Traced.ofExcept ((Json.document json).mapError .invalidJson)
      pure (Dialect.mySql.literal (.ofJson value))
  | .quoteNames names => pure (", ".intercalate (names.map Dialect.mySql.quoteName))
  | .ast source options => do
      let filter ← filterOf surroundings source options
      pure filter.encode.toIndentedText

/-- What a command prints. A failure is recorded. -/
def run (surroundings : Surroundings) (command : Command) : Traced RunError String :=
  (command.execute surroundings).onError fun error => .failed error.message

end Command

/-- What a run of the program leaves behind. -/
structure Exit where
  status : UInt32
  output : String := ""
  errors : String := ""
deriving DecidableEq, Repr

/-- The name and the version of the program. -/
def versionText : String := "docwhere 0.1.0\n"

/-- How the program is called. -/
def helpText : String :=
  "Compile document-style filters into SQL WHERE expressions\n\n" ++
    "Usage: docwhere compile [--filter JSON | --file PATH] [--where] [--params]\n" ++
    "                        [--max-depth N] [--env-file PATH]\n" ++
    "       docwhere quote value JSON\n" ++
    "       docwhere quote ident NAME...\n" ++
    "       docwhere ast [--filter JSON | --file PATH] [--max-depth N] [--env-file PATH]\n"

/-- What is left behind when there is no command to run. -/
def Exit.ofUsage : UsageError → Exit
  | .help => { status := 0, output := helpText }
  | .version => { status := 0, output := versionText }
  | _ => { status := 2, errors := helpText }

/-- What is left behind by a command. -/
def Exit.ofRun (outcome : Except RunError String) : Exit :=
  match outcome with
  | .ok text => { status := 0, output := text ++ "\n" }
  | .error error => { status := 1, errors := error.message ++ "\n" }

/-- What the program does with its arguments. -/
def program (arguments : List String) (surroundings : Surroundings) : Exit :=
  match Command.ofArguments arguments with
  | .ok command => .ofRun (command.run surroundings).outcome
  | .error error => .ofUsage error

end CommandLine

end WhereClause
