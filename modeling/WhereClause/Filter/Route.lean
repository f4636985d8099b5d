/-!
# Routes

Where in a filter document something stands.

A route leads from the root of a document through keys and positions in
arrays. It is shown with dots between the keys and positions in brackets. An
empty key at the start leaves nothing to be seen, and the dot after it is
left out then too, just as there is none before the first key. The root
itself is shown by name.

## Main definitions

* `Route`: A way down a document.
* `Route.key`, `Route.item`: One step further.
* `Route.path`: The steps as text.
* `Route.text`: The route as it is shown.
-/

namespace WhereClause

/-- A step down a document. -/
inductive Route.Step where
  | key (name : String)
  | item (index : Nat)
deriving DecidableEq, Repr

/-- A way from the root of a document down to a value in it. -/
structure Route where
  steps : List Route.Step
deriving DecidableEq, Repr

namespace Route

/-- The root of the document. -/
def root : Route := ⟨[]⟩

/-- On to the value of a key. -/
def key (r : Route) (name : String) : Route := ⟨r.steps ++ [.key name]⟩

/-- On to an item of an array. -/
def item (r : Route) (index : Nat) : Route := ⟨r.steps ++ [.item index]⟩

/-- The text of a route with one more step. -/
def extend (path : String) : Step → String
  | .key name => if path = "" then name else path ++ "." ++ name
  | .item index => path ++ "[" ++ toString index ++ "]"

/-- The steps as text. -/
def path (r : Route) : String :=
  r.steps.foldl extend ""

/-- The route as it is shown. -/
def text (r : Route) : String :=
  if r.path = "" then "(root)" else r.path

theorem path_key (r : Route) (name : String) :
    (r.key name).path = if r.path = "" then name else r.path ++ "." ++ name := by
  rw [path, key, List.foldl_append]
  rfl

theorem path_item (r : Route) (index : Nat) :
    (r.item index).path = r.path ++ "[" ++ toString index ++ "]" := by
  rw [path, item, List.foldl_append]
  rfl

end Route

end WhereClause
