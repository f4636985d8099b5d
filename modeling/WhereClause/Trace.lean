import WhereClause.Filter.Route
import WhereClause.Settings
import WhereClause.Text.Quoted

/-!
# Traces

Computations that keep a record of what they do.

Compiling a filter says on the way which parts it has built and where it made
something of the document that may not have been meant. A `Traced`
computation is its outcome together with the events up to there, so a failure
keeps what was recorded before it.

The record never decides anything. `outcome_bind` makes that precise: the
outcome of a sequence is the sequence of the outcomes, and what was recorded
does not enter.

## Main definitions

* `Event`: What can be recorded.
* `Event.level`, `Event.message`, `Event.fields`: An event as it is shown.
* `Traced`: An outcome with the events before it.
* `Traced.emit`: Recording an event.

## Theorems

* `outcome_pure`, `outcome_bind`, `outcome_emit`, `outcome_ofExcept`,
  `outcome_mapError`: What each way to make a traced computation does to the
  outcome.
* `outcome_bind_eq_ok_iff`: When a sequence succeeds.
* `bind_eq_ok`, `mapError_eq_ok`: The same for bare outcomes.
-/

namespace WhereClause

/-! ## Outcomes -/

section Outcomes

variable {ε δ α β : Type}

/-- A sequence of outcomes succeeds only if both parts do. -/
theorem bind_eq_ok {x : Except ε α} {f : α → Except ε β} {b : β} (h : x.bind f = .ok b) :
    ∃ a, x = .ok a ∧ f a = .ok b := by
  cases x with
  | error error => cases h
  | ok a => exact ⟨a, rfl, h⟩

theorem mapError_eq_ok {x : Except ε α} {f : ε → δ} {a : α} (h : x.mapError f = .ok a) :
    x = .ok a := by
  cases x with
  | error error => cases h
  | ok b =>
      cases h
      rfl

end Outcomes

/-! ## Events -/

/-- What a computation can record. -/
inductive Event where
  /-- A key of a document has become a filter. -/
  | built (route : Route)
  /-- A column is compared with null because an object stood there. -/
  | objectOperand (route : Route)
  /-- A filter has become a statement of so many bytes. -/
  | compiled (maxDepth : UInt64) (length : Nat)
  /-- A filter has become a statement with so many values apart. -/
  | compiledParameterized (count : Nat)
  /-- The settings of a run are known. -/
  | settled (settings : Settings)
  /-- The filter of a run mentions these columns. -/
  | filtered (columns : List String)
  /-- A run has failed. -/
  | failed (message : String)
deriving Repr

/-- How much an event matters. -/
inductive Event.Level where
  | trace
  | debug
  | info
  | error
deriving DecidableEq, Repr

/-- The name of a level. -/
def Event.Level.name : Level → String
  | .trace => "TRACE"
  | .debug => "DEBUG"
  | .info => "INFO"
  | .error => "ERROR"

namespace Event

/-- How much an event matters. -/
def level : Event → Level
  | .built _ => .trace
  | .objectOperand _ | .compiled .. | .compiledParameterized _ | .settled _ => .debug
  | .filtered _ => .info
  | .failed _ => .error

/-- What an event says. -/
def message : Event → String
  | .built _ => "built filter node"
  | .objectOperand _ => "object operand has no literal form, comparing against NULL"
  | .compiled .. => "compiled filter"
  | .compiledParameterized _ => "compiled parameterized filter"
  | .settled _ => "Resolved compiler configuration"
  | .filtered _ => "Compiled filter"
  | .failed message => message

/-- The values an event comes with, by name and as text. -/
def fields : Event → List (String × String)
  | .built route => [("path", route.text)]
  | .objectOperand route => [("path", route.text)]
  | .compiled maxDepth length =>
      [("max_depth", toString maxDepth.toNat), ("len", toString length)]
  | .compiledParameterized count => [("params", toString count)]
  | .settled settings =>
      [("config", "CompilerConfig \x7b max_depth: " ++ toString settings.maxDepth.toNat ++
        " \x7d")]
  | .filtered columns => [("columns", Text.quoteList columns)]
  | .failed _ => []

end Event

/-! ## Traced computations -/

/-- An outcome, with the events that were recorded before it. -/
structure Traced (ε α : Type) where
  events : List Event
  outcome : Except ε α

namespace Traced

variable {ε δ α β : Type}

/-- An outcome with nothing recorded. -/
def ofExcept (outcome : Except ε α) : Traced ε α :=
  ⟨[], outcome⟩

/-- Record an event. -/
def emit (event : Event) : Traced ε Unit :=
  ⟨[event], .ok ()⟩

/-- One computation after another. After a failure nothing else happens. -/
def bind (x : Traced ε α) (f : α → Traced ε β) : Traced ε β :=
  match x.outcome with
  | .ok a => ⟨x.events ++ (f a).events, (f a).outcome⟩
  | .error e => ⟨x.events, .error e⟩

instance : Monad (Traced ε) where
  pure a := ofExcept (.ok a)
  bind := bind

/-- The computation with its failure seen as another one. -/
def mapError (f : ε → δ) (x : Traced ε α) : Traced δ α :=
  ⟨x.events, x.outcome.mapError f⟩

/-- The computation with one more event if it fails. -/
def onError (x : Traced ε α) (event : ε → Event) : Traced ε α :=
  match x.outcome with
  | .ok _ => x
  | .error e => ⟨x.events ++ [event e], x.outcome⟩

@[simp] theorem outcome_pure (a : α) : (pure a : Traced ε α).outcome = .ok a := rfl

@[simp] theorem outcome_emit (event : Event) : (emit event : Traced ε Unit).outcome = .ok () :=
  rfl

@[simp] theorem outcome_ofExcept (outcome : Except ε α) :
    (ofExcept outcome).outcome = outcome := rfl

@[simp] theorem outcome_mapError (f : ε → δ) (x : Traced ε α) :
    (x.mapError f).outcome = x.outcome.mapError f := rfl

/-- The outcome of a sequence is the sequence of the outcomes: what was
    recorded does not enter. -/
@[simp] theorem outcome_bind (x : Traced ε α) (f : α → Traced ε β) :
    (x >>= f).outcome = x.outcome >>= fun a => (f a).outcome := by
  show (bind x f).outcome = _
  rcases h : x.outcome with e | a <;> simp only [bind, h] <;> rfl

/-- A sequence succeeds if both parts do. -/
theorem outcome_bind_eq_ok_iff (x : Traced ε α) (f : α → Traced ε β) (b : β) :
    (x >>= f).outcome = .ok b ↔ ∃ a, x.outcome = .ok a ∧ (f a).outcome = .ok b := by
  rw [outcome_bind]
  cases x.outcome with
  | error e => exact ⟨nofun, nofun⟩
  | ok a => exact ⟨fun h => ⟨a, rfl, h⟩, fun ⟨_, ha, h⟩ => Except.ok.inj ha ▸ h⟩

@[simp] theorem outcome_onError (x : Traced ε α) (event : ε → Event) :
    (x.onError event).outcome = x.outcome := by
  rcases h : x.outcome with e | a <;> simp only [onError, h]

end Traced

end WhereClause
