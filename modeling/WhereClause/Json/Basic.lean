/-!
# JSON Values

The values of JSON texts, with the order of keys kept.

Filters arrive as JSON and the order of the keys of a filter is the order of
its conditions, so an object is a list of entries and not a finite map. The
same key may stand in it more than once, because a text can say so. Who reads
a filter document does not want to know about that: `merged` gives every
object one entry per key. Who decodes a value of a fixed shape does, since
there a repeated field is an error.

Numbers are of two kinds, and the kind is visible: a text without a point or
an exponent gives a `whole` number, everything else a `real` one. Whole
numbers are those of the two 64-bit integer types together, and a real number
is finite, since JSON has no text for the others. Both limits are part of the
type.

## Main definitions

* `Json.Number`, `Json`: JSON numbers and values.
* `Json.Kind`: The six kinds of values, with their names.
* `Json.setEntry`: Giving a key a value in a list of entries.
* `Json.merged`: A value all of whose objects have one entry per key.
-/

namespace WhereClause

namespace Json

/-- A JSON number: a whole number that a signed or an unsigned 64-bit word
    holds, or a finite double. -/
inductive Number where
  | whole (value : Int) (bounds : -0x8000000000000000 ≤ value ∧ value < 0x10000000000000000)
  | real (value : Float) (finite : value.isFinite = true)
deriving DecidableEq, Repr

namespace Number

/-- A signed word as a whole number. -/
def ofInt64 (n : Int64) : Number :=
  .whole n.toInt ⟨by have := n.le_toInt; omega, by have := n.toInt_lt; omega⟩

/-- An unsigned word as a whole number. -/
def ofUInt64 (n : UInt64) : Number :=
  .whole n.toNat ⟨by omega, by have := n.toNat_lt; omega⟩

/-- A double as a number, unless it is infinite or not a number at all. -/
def ofFloat? (x : Float) : Option Number :=
  if h : x.isFinite = true then some (.real x h) else none

/-- The nearest double of a number. -/
def toFloat : Number → Float
  | .whole n _ =>
      let magnitude := Float.ofScientific n.natAbs false 0
      if n < 0 then -magnitude else magnitude
  | .real x _ => x

end Number

end Json

/-- A JSON value. The entries of an object are in the order of the text, and
    a key may be repeated. -/
inductive Json where
  | null
  | bool (b : Bool)
  | number (n : Json.Number)
  | text (s : String)
  | array (items : List Json)
  | object (entries : List (String × Json))
deriving Repr

namespace Json

/-- The kinds of JSON values. -/
inductive Kind where
  | null
  | boolean
  | number
  | text
  | array
  | object
deriving DecidableEq, Repr

/-- The name of a kind, as messages have it. -/
def Kind.name : Kind → String
  | .null => "null"
  | .boolean => "boolean"
  | .number => "number"
  | .text => "string"
  | .array => "array"
  | .object => "object"

/-- The kind of a value. -/
def kind : Json → Kind
  | .null => .null
  | .bool _ => .boolean
  | .number _ => .number
  | .text _ => .text
  | .array _ => .array
  | .object _ => .object

/-- The value of a key, of the first one if it is repeated. -/
def lookup (key : String) (entries : List (String × Json)) : Option Json :=
  (entries.find? fun entry => entry.1 = key).map Prod.snd

/-- Give a key a value: in its place if the key is there, and at the end if
    not. -/
def setEntry (key : String) (value : Json) : List (String × Json) → List (String × Json)
  | [] => [(key, value)]
  | entry :: rest =>
      if entry.1 = key then (key, value) :: rest else entry :: setEntry key value rest

/-- One entry per key: each key stands where it stood first, with the value
    it had last. -/
def mergeEntries (entries : List (String × Json)) : List (String × Json) :=
  entries.foldl (fun done entry => setEntry entry.1 entry.2 done) []

mutual

/-- The value with one entry per key in each of its objects. -/
def merged : Json → Json
  | .array items => .array (mergedItems items)
  | .object entries => .object (mergeEntries (mergedEntries entries))
  | .null => .null
  | .bool b => .bool b
  | .number n => .number n
  | .text s => .text s

/-- The items of an array, each of them merged. -/
def mergedItems : List Json → List Json
  | [] => []
  | item :: rest => item.merged :: mergedItems rest

/-- The entries of an object with their values merged. -/
def mergedEntries : List (String × Json) → List (String × Json)
  | [] => []
  | (key, value) :: rest => (key, value.merged) :: mergedEntries rest

end

theorem mergedItems_eq_map (items : List Json) : mergedItems items = items.map merged := by
  induction items with
  | nil => rfl
  | cons item rest ih => rw [mergedItems, ih, List.map_cons]

/-- The keys after a key was given a value: the same if it was there already,
    and with the key at the end if not. -/
theorem map_fst_setEntry (key : String) (value : Json) (entries : List (String × Json)) :
    (setEntry key value entries).map Prod.fst =
      if key ∈ entries.map Prod.fst then entries.map Prod.fst
      else entries.map Prod.fst ++ [key] := by
  induction entries with
  | nil => rfl
  | cons entry rest ih =>
      rw [setEntry]
      by_cases h : entry.1 = key
      · simp only [h, if_true, List.map_cons, List.mem_cons, true_or]
      · have hne : ¬key = entry.1 := fun heq => h heq.symm
        rw [if_neg h, List.map_cons, ih, List.map_cons]
        simp only [List.mem_cons, hne, false_or]
        split <;> simp only [List.cons_append]

/-- No key stands twice in merged entries. -/
theorem nodup_mergeEntries (entries : List (String × Json)) :
    ((mergeEntries entries).map Prod.fst).Nodup := by
  -- Each step keeps distinct keys distinct, from any such start.
  suffices h : ∀ done : List (String × Json), (done.map Prod.fst).Nodup →
      ((entries.foldl (fun done entry => setEntry entry.1 entry.2 done) done).map
        Prod.fst).Nodup from h [] List.nodup_nil
  induction entries with
  | nil => exact fun _ h => h
  | cons entry rest ih =>
      intro done h
      refine ih _ ?_
      rw [map_fst_setEntry]
      split
      · exact h
      · rename_i hnew
        refine List.nodup_append.2 ⟨h, List.nodup_cons.2 ⟨List.not_mem_nil, List.nodup_nil⟩, ?_⟩
        intro a ha b hb heq
        rw [List.mem_singleton.1 hb] at heq
        exact hnew (heq ▸ ha)

end Json

end WhereClause
