/-!
# Command Line Arguments

How arguments are sorted into options and operands.

A program is a tree of commands. A command with commands below it only takes
the name of one of them; a command without takes options, which begin with
two dashes, and operands. An option may need a value, which is attached to it
with an equals sign or is the next argument. Two dashes on their own end the
options. Help can be asked for anywhere.

An option with a value is not judged when it is read. It is judged when the
next option or operand is taken, or at the end: whether the value is there,
whether the option was given before, whether the value is one it accepts. So
of two mistakes the earlier one is not always the one that is reported. An
argument that is not known at all is reported before the option in front of
it is judged.

## Main definitions

* `UsageError`: Why arguments were not understood, or why nothing else is to
  be done.
* `Switch`, `Operands`, `Usage`: What a command takes.
* `CommandTree`: The commands of a program.
* `Shape`: What an argument looks like.
* `Parsed`: Options and operands, sorted.
* `Usage.parse`: The arguments of a command.
* `CommandTree.select`: The command that was asked for, with its arguments.
-/

namespace WhereClause

namespace CommandLine

/-- Why arguments were not understood, or why nothing else is to be done. -/
inductive UsageError where
  /-- An option is given twice, or together with one that excludes it. -/
  | argumentConflict
  /-- Help was asked for. -/
  | help
  /-- The name of a command is missing. -/
  | missingCommand
  /-- The version was asked for. -/
  | version
  /-- There is no command of that name. -/
  | unknownCommand
  /-- The value of an option is missing. -/
  | missingValue
  /-- An operand is missing. -/
  | missingOperand
  /-- A value is given to an option that takes none. -/
  | needlessValue
  /-- There is no such option, or an operand too many. -/
  | unknownArgument
  /-- An option does not accept its value. -/
  | refusedValue
deriving DecidableEq, Repr

/-- An option of a command. -/
structure Switch where
  name : String
  takesValue : Bool
  /-- The values it accepts, if it takes one. -/
  accepts : String → Bool := fun _ => true

/-- How many operands a command can take. -/
inductive Operands where
  | none
  | one
  | several
deriving DecidableEq, Repr

/-- What a command takes. -/
structure Usage where
  switches : List Switch := []
  operands : Operands := .none

/-- The commands of a program. Only the outermost one may know the
    version. -/
inductive CommandTree where
  | leaf (usage : Usage)
  | branch (knowsVersion : Bool) (children : List (String × CommandTree))

/-- What an argument looks like. -/
inductive Shape where
  /-- Two dashes on their own. -/
  | separator
  /-- An option, with a value if one is attached. -/
  | long (name : String) (value : Option String)
  /-- One dash and letters. -/
  | short (letter : Char)
  /-- Anything else. -/
  | operand
deriving DecidableEq, Repr

/-- What an argument looks like. -/
def Shape.ofArgument (argument : String) : Shape :=
  match argument.toList with
  | ['-', '-'] => .separator
  | '-' :: '-' :: rest =>
      let name := String.ofList (rest.takeWhile (· ≠ '='))
      match rest.dropWhile (· ≠ '=') with
      | [] => .long name none
      | _ :: value => .long name (some (String.ofList value))
  | '-' :: letter :: _ => .short letter
  | _ => .operand

/-- Options and operands, sorted. An option without a value has an empty
    one. -/
structure Parsed where
  options : List (String × String) := []
  operands : List String := []
deriving DecidableEq, Repr

namespace Parsed

/-- The value of an option that was given. -/
def value? (parsed : Parsed) (name : String) : Option String :=
  (parsed.options.find? fun option => option.1 = name).map Prod.snd

/-- Whether an option was given. -/
def has (parsed : Parsed) (name : String) : Bool :=
  (parsed.value? name).isSome

/-- Judge an option that was given. -/
def settle (parsed : Parsed) (switch : Switch) (value : Option String) :
    Except UsageError Parsed :=
  if switch.takesValue && value.isNone then .error .missingValue
  else if parsed.has switch.name then .error .argumentConflict
  else
    let value := value.getD ""
    if switch.accepts value then
      .ok { parsed with options := parsed.options ++ [(switch.name, value)] }
    else .error .refusedValue

end Parsed

/-- Options and operands so far, with an option that is still to be judged
    and its value if that was already there. -/
structure Progress where
  parsed : Parsed := {}
  pending : Option (Switch × Option String) := none

/-- Judge the option that is still to be judged. -/
def Progress.resolve (progress : Progress) : Except UsageError Parsed :=
  match progress.pending with
  | none => .ok progress.parsed
  | some (switch, value) => progress.parsed.settle switch value

namespace Usage

/-- Take an operand. -/
def takeOperand (usage : Usage) (progress : Progress) (argument : String) :
    Except UsageError Progress :=
  let room := match usage.operands with
    | .none => false
    | .one => progress.parsed.operands.isEmpty
    | .several => true
  if room then do
    let parsed ← progress.resolve
    .ok { parsed := { parsed with operands := parsed.operands ++ [argument] } }
  else .error .unknownArgument

/-- Take an option, with a value if one is attached. -/
def takeOption (usage : Usage) (progress : Progress) (name : String) (value : Option String) :
    Except UsageError Progress :=
  if name = "help" then
    if value.isSome then .error .needlessValue
    else do
      let _ ← progress.resolve
      .error .help
  else
    match usage.switches.find? fun switch => switch.name = name with
    | none => .error .unknownArgument
    | some switch =>
        if switch.takesValue && value.isNone then do
          let parsed ← progress.resolve
          .ok { parsed, pending := some (switch, none) }
        else if !switch.takesValue && value.isSome then .error .needlessValue
        else do
          let parsed ← progress.resolve
          let parsed ← parsed.settle switch value
          .ok { parsed }

/-- Take one argument before the options have ended. -/
def take (usage : Usage) (progress : Progress) (argument : String) :
    Except UsageError Progress :=
  match Shape.ofArgument argument with
  | .long name value => usage.takeOption progress name value
  | .short letter =>
      if letter = 'h' then do
        let _ ← progress.resolve
        .error .help
      else .error .unknownArgument
  | .separator => .ok progress
  | .operand =>
      match progress.pending with
      | some (switch, none) => .ok { progress with pending := some (switch, some argument) }
      | _ => usage.takeOperand progress argument

/-- Take the arguments after the options have ended. -/
def takeOperands (usage : Usage) (progress : Progress) : List String → Except UsageError Parsed
  | [] => progress.resolve
  | argument :: rest => do
      let progress ← usage.takeOperand progress argument
      usage.takeOperands progress rest

/-- Take the arguments from some progress on. -/
def takeAll (usage : Usage) (progress : Progress) : List String → Except UsageError Parsed
  | [] => progress.resolve
  | argument :: rest => do
      if Shape.ofArgument argument = .separator then usage.takeOperands progress rest
      else
        let progress ← usage.take progress argument
        usage.takeAll progress rest

/-- The arguments of a command, sorted. -/
def parse (usage : Usage) (arguments : List String) : Except UsageError Parsed :=
  usage.takeAll {} arguments

end Usage

namespace CommandTree

/-- The command of a name. -/
def child? (children : List (String × CommandTree)) (name : String) : Option CommandTree :=
  (children.find? fun child => child.1 = name).map Prod.snd

/-- What comes of asking for help about a command by its path. The command
    for help can be asked about too. -/
def helpAbout : CommandTree → List String → UsageError
  | _, [] => .help
  | .leaf _, _ :: _ => .unknownCommand
  | .branch _ children, name :: rest =>
      match child? children name with
      | some child => child.helpAbout rest
      | none => if name = "help" && rest.isEmpty then .help else .unknownCommand

/-- What comes of an argument that is no name of a command, where one is
    needed. -/
def refuse (knowsVersion : Bool) (children : List (String × CommandTree)) (argument : String)
    (rest : List String) : UsageError :=
  match Shape.ofArgument argument with
  | .separator =>
      match rest with
      | [] => .missingCommand
      | next :: _ =>
          if next = "help" || (child? children next).isSome then .unknownArgument
          else .unknownCommand
  | .long name value =>
      if name = "help" || (knowsVersion && name = "version") then
        if value.isSome then .needlessValue
        else if name = "help" then .help
        else .version
      else .unknownArgument
  | .short letter =>
      if letter = 'h' then .help
      else if knowsVersion && letter = 'V' then .version
      else .unknownArgument
  | .operand => .unknownCommand

/-- The path to the command that was asked for, and its arguments. -/
def select : CommandTree → List String → Except UsageError (List String × Parsed)
  | .leaf usage, arguments => do
      let parsed ← usage.parse arguments
      .ok ([], parsed)
  | .branch .., [] => .error .missingCommand
  | .branch knowsVersion children, argument :: rest =>
      match child? children argument with
      | some child => do
          let (path, parsed) ← child.select rest
          .ok (argument :: path, parsed)
      | none =>
          if argument = "help" then
            .error ((CommandTree.branch knowsVersion children).helpAbout rest)
          else .error (refuse knowsVersion children argument rest)

end CommandTree

end CommandLine

end WhereClause
