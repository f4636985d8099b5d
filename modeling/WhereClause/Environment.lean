/-!
# Environments

Named values, of which the last one given to a name counts.

## Main definitions

* `Environment`: The named values.
* `Environment.get?`: The value of a name.
* `Environment.set`: Giving a name a value.

## Theorems

* `get?_set`: A name has the value it was given last, and other names keep
  theirs.
-/

namespace WhereClause

/-- Named values, with the newest first. -/
structure Environment where
  bindings : List (String × String) := []
deriving DecidableEq, Repr

namespace Environment

/-- The value of a name. -/
def get? (env : Environment) (name : String) : Option String :=
  (env.bindings.find? fun binding => binding.1 = name).map Prod.snd

/-- The environment in which a name has been given a value. -/
def set (env : Environment) (name value : String) : Environment :=
  ⟨(name, value) :: env.bindings⟩

theorem get?_set (env : Environment) (name value other : String) :
    (env.set name value).get? other = if name = other then some value else env.get? other := by
  by_cases h : name = other <;>
    simp only [get?, set, List.find?_cons, h, decide_true, decide_false, if_true, if_false,
      Option.map_some]

end Environment

end WhereClause
