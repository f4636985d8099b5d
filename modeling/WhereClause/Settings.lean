import WhereClause.Json.Record
import WhereClause.Json.Selective
import WhereClause.Text.Blank

/-!
# Settings

What can be set about compiling filters: how deeply a document may be nested.

The limit comes from an environment variable, from a JSON text or from a
caller. It is never zero, whichever way it came: a filter document is one
object at least, so a limit of zero would refuse everything.

In the environment the number may have blanks around it and a plus sign
before it. In JSON the settings are an object in which the limit may be left
out or null, or an array with the limit alone.

## Main definitions

* `Settings`: The settings, with their defaults.
* `SettingsError`: Why a value was refused.
* `Settings.withMaxDepth`: Other settings with a given limit.
* `parseCount?`: The number that a text spells.
* `Settings.ofLookup`: The settings of an environment.
* `Settings.encode`, `Settings.decode`: The settings as JSON.
-/

namespace WhereClause

/-- What can be set about compiling filters. -/
structure Settings where
  /-- How many filter objects may be nested, the root included. -/
  maxDepth : UInt64 := 32
deriving DecidableEq, Repr

/-- Why a value of a setting was refused. -/
inductive SettingsError where
  /-- The variable of the environment spells no number. -/
  | notACount (raw : String)
  /-- The limit is zero. -/
  | zeroDepth
deriving DecidableEq, Repr

/-- The variable of the environment that holds the limit. -/
def Settings.depthVariable : String := "FILTER_MAX_DEPTH"

/-- The text of an error. -/
def SettingsError.message : SettingsError → String
  | .notACount raw =>
      "Failed to parse environment variable '" ++ Settings.depthVariable ++ "' with value '" ++
        raw ++ "' as usize"
  | .zeroDepth => "max_depth must be at least 1"

/-- The number that a text spells: decimal digits, with a plus sign before
    them or not, for a number that an unsigned 64-bit word holds. -/
def parseCount? (text : List Char) : Option UInt64 :=
  let digits := match text with
    | '+' :: rest => rest
    | digits => digits
  if digits.isEmpty || !digits.all Char.isDigit then none
  else
    let n := Nat.ofDigitChars 10 digits 0
    if n < 0x10000000000000000 then some (UInt64.ofNat n) else none

namespace Settings

/-- The settings with another limit, which must not be zero. -/
def withMaxDepth (settings : Settings) (maxDepth : UInt64) : Except SettingsError Settings :=
  if maxDepth = 0 then .error .zeroDepth else .ok { settings with maxDepth := maxDepth }

/-- The settings of an environment. What it does not mention has its
    default. -/
def ofLookup (lookup : String → Option String) : Except SettingsError Settings :=
  match lookup depthVariable with
  | none => .ok {}
  | some raw =>
      match parseCount? (Text.trim raw.toList) with
      | none => .error (.notACount raw)
      | some n => withMaxDepth {} n

/-- The settings as a JSON value. -/
def encode (settings : Settings) : Json :=
  .object [("max_depth", .number (.ofUInt64 settings.maxDepth))]

/-- Why a text gives no settings. -/
inductive DecodeError where
  /-- The text is no JSON, or not of the shape of settings. -/
  | malformed
  /-- The settings in it were refused. -/
  | refused (error : SettingsError)
deriving DecidableEq, Repr

/-- The settings with a limit that may have been left out. -/
def ofLimit (limit : Json) : Except DecodeError Settings :=
  match limit with
  | .null => .ok {}
  | limit =>
      match limit.uint64? with
      | none => .error .malformed
      | some n => (withMaxDepth {} n).mapError .refused

/-- The settings of a JSON value. -/
def ofJson : Json → Except DecodeError Settings
  | .object entries =>
      match entries.filter (·.1 = "max_depth") with
      | [] => .ok {}
      | [(_, limit)] => ofLimit limit
      | _ => .error .malformed
  | .array [limit] => ofLimit limit
  | _ => .error .malformed

/-- Whether the settings do not ask for a part of a JSON text: for what stands
    at any key but the one of the limit. -/
def skips : List (Option String) → Bool
  | some name :: _ => name ≠ "max_depth"
  | _ => false

/-- The settings of a JSON text. A limit that is refused is refused before
    what follows the value in the text is looked at. -/
def decode (text : String) : Except DecodeError Settings :=
  match Json.leading? skips text with
  | none => .error .malformed
  | some (value, rest) => do
      let settings ← ofJson value
      if rest.all Json.Reader.isSpace then .ok settings else .error .malformed

end Settings

end WhereClause
