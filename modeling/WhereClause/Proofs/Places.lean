import Mathlib.Data.List.Induction
import WhereClause.Filter.Route
import WhereClause.Json.Basic

/-!
# Places in a Document

What the route of a fault says to somebody who only has the document.

A place is a list of steps, read from the root. It says two things. One is
where to look: the steps lead from the document to a value in it, through a
key that an object has or a position that an array has. That is the relation
`Leads`, and no pass over the document is involved in it.

The other is how the place is written. The text begins with the first key, each
key behind it has a dot in front, and a position stands in brackets. Only a
start that shows nothing has to be told apart. As long as every key so far was
empty there is nothing that a dot could separate, and if nothing is there at
all the place is shown as the root.

A route is built up at its end, one step each time the pass goes down. The
text here is taken apart at its start. `Route.text_mk` says that they agree,
by what a further step adds to each.

## Main definitions

* `Place`: The steps from the root of a document to a value in it.
* `Place.below`: The text of steps that follow a text.
* `Place.path`: The text of the steps from the root.
* `Place.shown`: A place as it is shown.
* `Leads`: Steps lead from a value to a value inside of it.

## Theorems

* `Place.path_append_key`, `Place.path_append_item`: What a further step adds.
* `Route.path_mk`, `Route.text_mk`: A route shows its steps.
-/

namespace WhereClause

/-- The steps from the root of a document to a value in it. -/
abbrev Place := List Route.Step

namespace Place

/-! ## The text of a place -/

/-- The text of steps that follow a text. -/
def below : Place → String
  | [] => ""
  | .key name :: rest => "." ++ name ++ below rest
  | .item index :: rest => "[" ++ toString index ++ "]" ++ below rest

/-- The text of the steps from the root. An empty key shows nothing there, and
    the key behind it is the first one to be seen. -/
def path : Place → String
  | [] => ""
  | .key name :: rest => if name = "" then path rest else name ++ below rest
  | .item index :: rest => "[" ++ toString index ++ "]" ++ below rest

/-- A place as it is shown. -/
def shown (place : Place) : String :=
  if place.path = "" then "(root)" else place.path

theorem below_append (first second : Place) :
    below (first ++ second) = below first ++ below second := by
  induction first with
  | nil => rw [List.nil_append, below, String.empty_append]
  | cons step rest ih =>
      cases step with
      | key name | item index => simp only [List.cons_append, below, ih, String.append_assoc]

-- Brackets are there to be seen, whatever follows them.
theorem path_item_ne_empty (index : Nat) (rest : Place) : path (.item index :: rest) ≠ "" := by
  intro h
  rw [path, String.append_assoc, String.append_assoc, String.append_eq_empty_iff] at h
  exact absurd h.1 (by decide)

/-- A further key is separated by a dot from the text before it, if there is
    any. -/
theorem path_append_key (place : Place) (name : String) :
    path (place ++ [.key name]) =
      if path place = "" then name else path place ++ "." ++ name := by
  -- The induction passes the empty keys. Any other step decides the case.
  induction place with
  | nil =>
      by_cases hname : name = ""
      · simp only [List.nil_append, path, hname, if_true]
      · simp only [List.nil_append, path, hname, if_false, below, String.append_empty, if_true]
  | cons step rest ih =>
      cases step with
      | key first =>
          by_cases hfirst : first = ""
          · simp only [List.cons_append, path, hfirst, if_true, ih]
          · have hne : first ++ below rest ≠ "" := fun h =>
              hfirst (String.append_eq_empty_iff.1 h).1
            simp only [List.cons_append, path, hfirst, if_false, hne, below_append, below,
              String.append_empty, String.append_assoc]
      | item index =>
          rw [if_neg (path_item_ne_empty index rest)]
          simp only [List.cons_append, path, below_append, below, String.append_empty,
            String.append_assoc]

/-- A further position is put in brackets. -/
theorem path_append_item (place : Place) (index : Nat) :
    path (place ++ [.item index]) = path place ++ "[" ++ toString index ++ "]" := by
  induction place with
  | nil => simp only [List.nil_append, path, below, String.append_empty, String.empty_append]
  | cons step rest ih =>
      cases step with
      | key first =>
          by_cases hfirst : first = ""
          · simp only [List.cons_append, path, hfirst, if_true, ih]
          · simp only [List.cons_append, path, hfirst, if_false, below_append, below,
              String.append_empty, String.append_assoc]
      | item first =>
          simp only [List.cons_append, path, below_append, below, String.append_empty,
            String.append_assoc]

end Place

namespace Route

/-- A route is extended at its end, and so is the text of its steps. -/
theorem path_mk (place : Place) : Route.path ⟨place⟩ = place.path := by
  induction place using List.reverseRecOn with
  | nil => rfl
  | append_singleton rest step ih =>
      cases step with
      | key name =>
          have hkey := path_key ⟨rest⟩ name
          rw [ih, ← Place.path_append_key] at hkey
          exact hkey
      | item index =>
          have hitem := path_item ⟨rest⟩ index
          rw [ih, ← Place.path_append_item] at hitem
          exact hitem

/-- A route is shown as the place that it leads to. -/
theorem text_mk (place : Place) : Route.text ⟨place⟩ = place.shown := by
  rw [text, path_mk, Place.shown]

end Route

-- The dot after an empty key at the start is left out, like the key.
example : Place.shown [.key "$or", .item 1, .key "a"] = "$or[1].a" ∧
    Place.shown [.key "", .key "a"] = "a" ∧ Place.shown [.key "a", .key ""] = "a." ∧
    Place.shown [.key ""] = "(root)" := by
  decide

/-! ## Where a place is -/

/-- Steps lead from a value to a value inside of it. -/
inductive Leads : Json → Place → Json → Prop where
  /-- No step leads to the value itself. -/
  | here (value : Json) : Leads value [] value
  /-- A key leads on from each value that an object has for it. -/
  | key {entries : List (String × Json)} {name : String} {inner value : Json} {rest : Place}
      (h : (name, inner) ∈ entries) (hrest : Leads inner rest value) :
      Leads (.object entries) (.key name :: rest) value
  /-- A position leads on from the item of an array that is there. -/
  | item {items : List Json} {index : Nat} {inner value : Json} {rest : Place}
      (h : items[index]? = some inner) (hrest : Leads inner rest value) :
      Leads (.array items) (.item index :: rest) value

end WhereClause
