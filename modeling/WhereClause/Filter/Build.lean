import WhereClause.Filter.Basic
import WhereClause.Filter.Key
import WhereClause.Trace

/-!
# Filters from Documents

From a filter document to the filter it stands for, or to its first fault.

A document is an object, and every key of it is a condition. The conditions
of one object stand side by side, so the object is their conjunction. What a
key means depends on two things besides its value: on the column that the
object belongs to, if it belongs to one, since the comparisons need it, and
on a sibling, since the flags of a pattern stand beside the pattern.

Everything is decided in one pass in the order of the document. An object is
looked at as a whole first: whether it lies too deep, whether it is empty,
whether it has flags without a pattern. Its keys follow one by one, each with
everything below it. The first fault ends the pass, so it is the first one in
document order.

The recursion is over the document. Its three functions handle the entries of
an object, the value of a key, and the items under a connective.

## Main definitions

* `checkObject`: What has to hold of an object as a whole.
* `comparison`, `pattern`, `condition`: The conditions without a document
  below them.
* `conjunction`: An object as a filter.
* `buildEntries`, `buildKey`, `buildItems`: The three functions of the pass.
* `build`: The filter of a document.
-/

namespace WhereClause

namespace Filter

/-- A fault of the value at a route. -/
def malformed {α : Type} (route : Route) (reason : Fault.Reason) : Except Fault α :=
  .error (.malformed route reason)

/-- What has to hold of an object before its keys are looked at. -/
def checkObject (limit : Nat) (route : Route) (depth : Nat) (entries : List (String × Json)) :
    Except Fault Unit :=
  if limit < depth then .error (.tooDeep limit)
  else if entries.isEmpty then malformed route .emptyObject
  else if (Json.lookup Key.options.keyword entries).isSome &&
      (Json.lookup Key.regex.keyword entries).isNone then
    malformed (route.key Key.options.keyword) .flagsAlone
  else .ok ()

/-- The column that a key is about, which has to enclose the object. -/
def requireField (field : Option String) (key : Key) (route : Route) : Except Fault String :=
  match field with
  | some column => .ok column
  | none => malformed route (.outsideField key.keyword)

/-- A column under a set operator: the operand is an array with an item at
    least, none of which is an array again. -/
def membership (column : String) (op : Comparison) (route : Route) (operand : Json) :
    Except Fault Filter :=
  match operand with
  | .array [] => malformed route (.setEmpty op)
  | .array items =>
      if items.any (·.kind = .array) then malformed route (.setNested op)
      else .ok (.compare column op (.ofJson (.array items)))
  | operand => malformed route (.setNotArray op operand.kind)

/-- A column under a comparison. An object as the operand becomes null, like
    everywhere else, which is recorded since it is seldom meant. -/
def comparison (column : String) (op : Comparison) (route : Route) (operand : Json) :
    Traced Fault Filter :=
  if op.isSet then Traced.ofExcept (membership column op route operand)
  else
    match operand with
    | .array _ => Traced.ofExcept (malformed route (.operandArray op))
    | .object _ => do
        Traced.emit (.objectOperand route)
        pure (.compare column op .null)
    | operand => pure (.compare column op (.ofJson operand))

/-- Whether the flags of a pattern make it ignore case. The only flag is the
    letter i, which may be repeated. -/
def ignoresCase (flags : Option Json) (route : Route) : Except Fault Bool :=
  match flags with
  | none => .ok false
  | some (.text letters) =>
      if letters.toList.all (· = 'i') then .ok (!letters.toList.isEmpty)
      else malformed route (.unknownFlags (.text letters))
  | some flags => malformed route (.unknownFlags flags)

/-- A column that has to match a pattern. -/
def pattern (column : String) (flags : Option Json) (route : Route) (value : Json) :
    Except Fault Filter :=
  match value with
  | .text pattern => (ignoresCase flags route).map (.regex column pattern)
  | value => malformed route (.patternNotText value.kind)

/-- The condition of a key whose value is not a document of its own. Flags
    that come here have no pattern beside them. -/
def condition (field : Option String) (route : Route) (flags : Option Json) (key : Key)
    (value : Json) : Traced Fault Filter :=
  match key with
  | .field name =>
      match value with
      | .null => pure (.isNull name)
      | .array _ => Traced.ofExcept (malformed route .fieldArray)
      | value => pure (.compare name .eq (.ofJson value))
  | .comparison op => do
      let column ← Traced.ofExcept (requireField field key route)
      comparison column op route value
  | .logical op => Traced.ofExcept (malformed route (.logicalNotArray op value.kind))
  | .regex => do
      let column ← Traced.ofExcept (requireField field key route)
      Traced.ofExcept (pattern column flags route value)
  | .options => Traced.ofExcept (malformed route .flagsAlone)

/-- An object as a filter, with the conditions of its entries: it is checked
    as a whole before any of them. Inlined, so that nothing is built inside of an
    object that is refused. -/
@[macro_inline]
def conjunction (limit : Nat) (route : Route) (depth : Nat) (entries : List (String × Json))
    (conditions : Traced Fault (List Filter)) : Traced Fault Filter := do
  Traced.ofExcept (checkObject limit route depth entries)
  let conditions ← conditions
  pure (ofConditions conditions)

mutual

/-- The conditions of the entries of an object. `field` is the column that
    encloses the object, and `flags` are the flags in it. -/
def buildEntries (limit : Nat) (field : Option String) (route : Route) (depth : Nat)
    (flags : Option Json) : List (String × Json) → Traced Fault (List Filter)
  | [] => pure []
  | (raw, value) :: rest => do
      let key ← Traced.ofExcept (Key.classify raw)
      if key = .options then
        -- The pattern beside them uses them.
        buildEntries limit field route depth flags rest
      else do
        let condition ← buildKey limit field (route.key raw) depth flags key value
        Traced.emit (.built (route.key raw))
        let conditions ← buildEntries limit field route depth flags rest
        pure (condition :: conditions)

/-- The condition of a key with its value. -/
def buildKey (limit : Nat) (field : Option String) (route : Route) (depth : Nat)
    (flags : Option Json) (key : Key) : Json → Traced Fault Filter
  | .object entries =>
      match key with
      | .field name =>
          conjunction limit route (depth + 1) entries
            (buildEntries limit (some name) route (depth + 1)
              (Json.lookup Key.options.keyword entries) entries)
      | key => condition field route flags key (.object entries)
  | .array items =>
      match key with
      | .logical op =>
          if items.isEmpty then Traced.ofExcept (malformed route (.logicalEmpty op))
          else do
            let children ← buildItems limit route depth 0 items
            pure (.logical op children)
      | key => condition field route flags key (.array items)
  | value => condition field route flags key value

/-- The filters of the items under a connective, from a position on. They are
    documents of their own and belong to no column. -/
def buildItems (limit : Nat) (route : Route) (depth index : Nat) :
    List Json → Traced Fault (List Filter)
  | [] => pure []
  | .object entries :: rest => do
      let child ← conjunction limit (route.item index) (depth + 1) entries
        (buildEntries limit none (route.item index) (depth + 1)
          (Json.lookup Key.options.keyword entries) entries)
      let children ← buildItems limit route depth (index + 1) rest
      pure (child :: children)
  | item :: _ => Traced.ofExcept (malformed (route.item index) (.itemNotObject item.kind))

end

/-- The filter of a document in which objects are nested no more than `limit`
    deep. -/
def build (limit : Nat) : Json → Traced Fault Filter
  | .object entries =>
      conjunction limit .root 1 entries
        (buildEntries limit none .root 1 (Json.lookup Key.options.keyword entries) entries)
  | document => Traced.ofExcept (malformed .root (.rootNotObject document.kind))

end Filter

end WhereClause
