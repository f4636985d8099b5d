import Mathlib.Data.List.Forall2
import WhereClause.Json.Printer

/-!
# Laid Out Values

The texts that are written for a value, whatever white space is in them.

There are two ways to write a value, and they differ in nothing but the white
space between its parts. A reader does not care about that. So what it makes of
a text is said of a relation that both kinds of texts satisfy: `Laid` puts the
parts of an array or object behind each other, with any gap before each part,
behind a colon and before the closing bracket.

Doubles are left out. Reading a number with a point is an approximation, so
their texts are not always read back as they were. Whole numbers are, and a
value that has only these is called whole.

## Main definitions

* `depth`: How many arrays and objects are nested in a value.
* `isWhole`: Whether all numbers of a value are whole.
* `Gap`: White space.
* `Laid`: A text in which a value is laid out.

## Theorems

* `Laid.induct`: What holds of laid out values if it does of their parts.
* `laid_compact`, `laid_indented`: Both forms lay out a whole value.
-/

namespace WhereClause

namespace Json

/-! ## Depth -/

mutual

/-- How many arrays and objects are nested in a value, the value included. -/
def depth : Json → Nat
  | .array items => itemsDepth items + 1
  | .object entries => entriesDepth entries + 1
  | .null => 0
  | .bool _ => 0
  | .number _ => 0
  | .text _ => 0

/-- The greatest depth among items. -/
def itemsDepth : List Json → Nat
  | [] => 0
  | item :: rest => max item.depth (itemsDepth rest)

/-- The greatest depth among the values of entries. -/
def entriesDepth : List (String × Json) → Nat
  | [] => 0
  | (_, value) :: rest => max value.depth (entriesDepth rest)

end

theorem itemsDepth_le_iff (items : List Json) (bound : Nat) :
    itemsDepth items ≤ bound ↔ ∀ item ∈ items, item.depth ≤ bound := by
  induction items with
  | nil => simp only [itemsDepth, Nat.zero_le, List.not_mem_nil, false_imp_iff, implies_true]
  | cons item rest ih => rw [itemsDepth, Nat.max_le, ih, List.forall_mem_cons]

theorem entriesDepth_eq (entries : List (String × Json)) :
    entriesDepth entries = itemsDepth (entries.map Prod.snd) := by
  induction entries with
  | nil => rfl
  | cons entry rest ih => rw [entriesDepth, ih, List.map_cons, itemsDepth]

/-! ## Whole numbers -/

mutual

/-- Whether all numbers in a value are whole. -/
def isWhole : Json → Bool
  | .number (.real _ _) => false
  | .number (.whole _ _) => true
  | .array items => areWhole items
  | .object entries => entriesWhole entries
  | .null => true
  | .bool _ => true
  | .text _ => true

/-- Whether all numbers in several values are whole. -/
def areWhole : List Json → Bool
  | [] => true
  | item :: rest => item.isWhole && areWhole rest

/-- Whether all numbers in the values of entries are whole. -/
def entriesWhole : List (String × Json) → Bool
  | [] => true
  | (_, value) :: rest => value.isWhole && entriesWhole rest

end

/-! ## Layout -/

/-- White space between the parts of a text. -/
def Gap (s : List Char) : Prop :=
  ∀ c ∈ s, c = ' ' ∨ c = '\n'

/-- The text of an entry behind white space, with white space behind the
    colon. -/
def entryText (gap space : List Char) (key : String) (value : List Char) : List Char :=
  gap ++ (quoted key ++ ':' :: (space ++ value))

/-- The parts of an array or object, with commas between them and white space
    before the closing bracket. -/
def bracketed (opening closing : Char) (parts : List (List Char)) (last : List Char) :
    List Char :=
  opening :: ([','].intercalate parts ++ (last ++ [closing]))

/-- A text in which a value is laid out. -/
inductive Laid : List Char → Json → Prop where
  | null : Laid (compact .null) .null
  | bool (b : Bool) : Laid (compact (.bool b)) (.bool b)
  | number (n : Int) (bounds : -0x8000000000000000 ≤ n ∧ n < 0x10000000000000000) :
      Laid (Decimal.ofInt n) (.number (.whole n bounds))
  | text (s : String) : Laid (quoted s) (.text s)
  | array (gap last : List Char) (hgap : Gap gap) (hlast : Gap last) (texts : List (List Char))
      (items : List Json) (parts : List.Forall₂ Laid texts items) :
      Laid (bracketed '[' ']' (texts.map (gap ++ ·)) last) (.array items)
  | object (gap space last : List Char) (hgap : Gap gap) (hspace : Gap space) (hlast : Gap last)
      (texts : List (List Char)) (entries : List (String × Json))
      (parts : List.Forall₂ Laid texts (entries.map Prod.snd)) :
      Laid (bracketed '\x7b' '\x7d'
        (List.zipWith (fun entry text => entryText gap space entry.1 text) entries texts) last)
        (.object entries)

/-- What holds of scalars, and of arrays and objects if it does of their parts,
    holds of laid out values. -/
@[elab_as_elim]
theorem Laid.induct {motive : List Char → Json → Prop} (null : motive (compact .null) .null)
    (bool : ∀ b, motive (compact (.bool b)) (.bool b))
    (number : ∀ n bounds, motive (Decimal.ofInt n) (.number (.whole n bounds)))
    (text : ∀ s, motive (quoted s) (.text s))
    (array : ∀ gap last, Gap gap → Gap last → ∀ texts items, List.Forall₂ Laid texts items →
      List.Forall₂ motive texts items →
      motive (bracketed '[' ']' (texts.map (gap ++ ·)) last) (.array items))
    (object : ∀ gap space last, Gap gap → Gap space → Gap last →
      ∀ (texts : List (List Char)) (entries : List (String × Json)),
      List.Forall₂ Laid texts (entries.map Prod.snd) →
      List.Forall₂ motive texts (entries.map Prod.snd) →
      motive (bracketed '\x7b' '\x7d'
        (List.zipWith (fun entry text => entryText gap space entry.1 text) entries texts) last)
        (.object entries))
    {written : List Char} {value : Json} (h : Laid written value) : motive written value :=
  @Laid.rec (fun written value _ => motive written value)
    (fun texts items _ => List.Forall₂ motive texts items) null bool number text
    (fun gap last hgap hlast texts items parts ih =>
      array gap last hgap hlast texts items parts ih)
    (fun gap space last hgap hspace hlast texts entries parts ih =>
      object gap space last hgap hspace hlast texts entries parts ih)
    .nil (fun _ _ head tail => .cons head tail) _ _ h

theorem gap_nil : Gap [] :=
  fun _ h => absurd h List.not_mem_nil

theorem gap_space : Gap [' '] :=
  fun _ h => Or.inl (List.mem_singleton.1 h)

theorem gap_newline (depth : Nat) : Gap (newline depth) := by
  intro c hc
  rcases List.mem_cons.1 hc with hline | hspace
  · exact Or.inr hline
  · exact Or.inl (List.eq_of_mem_replicate hspace)

theorem laid_number (n : Number) (h : (Json.number n).isWhole = true) :
    Laid n.text (.number n) := by
  cases n with
  | whole n bounds => exact .number n bounds
  | real x finite => exact Bool.noConfusion h

/-- The compact entries are laid out with no white space anywhere. -/
theorem compactEntries_eq (entries : List (String × Json)) :
    compactEntries entries =
      List.zipWith (fun entry text => entryText [] [] entry.1 text) entries
        (entries.map fun entry => entry.2.compact) := by
  induction entries with
  | nil => rfl
  | cons entry rest ih =>
      rw [compactEntries, ih, List.map_cons, List.zipWith_cons_cons]
      rfl

/-- The indented entries are laid out with a line before each and a blank behind
    the colon. -/
theorem indentedEntries_eq (depth : Nat) (entries : List (String × Json)) :
    (indentedEntries depth entries).map (newline depth ++ ·) =
      List.zipWith (fun entry text => entryText (newline depth) [' '] entry.1 text) entries
        (entries.map fun entry => entry.2.indented depth) := by
  induction entries with
  | nil => rfl
  | cons entry rest ih =>
      rw [indentedEntries, List.map_cons, ih, List.map_cons, List.zipWith_cons_cons]
      rfl

/-- A block has its last line if it has any. -/
theorem block_eq (opening closing : Char) (depth : Nat) (parts : List (List Char)) :
    block opening closing depth parts =
      bracketed opening closing (parts.map (newline (depth + 1) ++ ·))
        (if parts.isEmpty then [] else newline depth) := by
  rw [block]
  -- Only a block with something in it has lines.
  cases parts with
  | nil => rfl
  | cons first rest =>
      simp only [List.isEmpty_cons, Bool.false_eq_true, if_false, bracketed, List.cons_append,
        List.append_assoc]

/-- Before the closing bracket there is a line, or nothing if nothing is inside. -/
theorem gap_lastLine (depth : Nat) (empty : Bool) :
    Gap (if empty then [] else newline depth) := by
  cases empty with
  | true => exact gap_nil
  | false => exact gap_newline depth

-- Both forms are compared with the layout by induction on the value.

mutual

/-- The compact form lays out a whole value, without any white space. -/
theorem laid_compact : (value : Json) → value.isWhole = true → Laid value.compact value
  | .null, _ => .null
  | .bool b, _ => .bool b
  | .number n, h => laid_number n h
  | .text s, _ => .text s
  | .array items, h => by
      -- Both gaps of the layout are empty here.
      have hlaid := Laid.array [] [] gap_nil gap_nil _ items (laid_compactItems items h)
      simp only [List.nil_append, List.map_id'] at hlaid
      rw [compact]
      exact hlaid
  | .object entries, h => by
      have hlaid := Laid.object [] [] [] gap_nil gap_nil gap_nil _ entries
        (laid_compactEntries entries h)
      rw [← compactEntries_eq] at hlaid
      rw [compact]
      exact hlaid

/-- The parts of an array are laid out one by one. -/
theorem laid_compactItems : (items : List Json) → areWhole items = true →
    List.Forall₂ Laid (compactItems items) items
  | [], _ => .nil
  | item :: rest, h => by
      rw [areWhole, Bool.and_eq_true] at h
      rw [compactItems]
      exact .cons (laid_compact item h.1) (laid_compactItems rest h.2)

theorem laid_compactEntries : (entries : List (String × Json)) → entriesWhole entries = true →
    List.Forall₂ Laid (entries.map fun entry => entry.2.compact) (entries.map Prod.snd)
  | [], _ => .nil
  | (_, value) :: rest, h => by
      rw [entriesWhole, Bool.and_eq_true] at h
      exact .cons (laid_compact value h.1) (laid_compactEntries rest h.2)

end

mutual

/-- The indented form lays out a whole value, with a line for each part. -/
theorem laid_indented (depth : Nat) :
    (value : Json) → value.isWhole = true → Laid (value.indented depth) value
  | .null, _ => .null
  | .bool b, _ => .bool b
  | .number n, h => laid_number n h
  | .text s, _ => .text s
  | .array items, h => by
      rw [indented, block_eq]
      exact .array _ _ (gap_newline (depth + 1)) (gap_lastLine depth _) _ items
        (laid_indentedItems (depth + 1) items h)
  | .object entries, h => by
      rw [indented, block_eq, indentedEntries_eq]
      -- White space stands before each key, behind the colon and before the
      -- bracket.
      exact .object _ _ _ (gap_newline (depth + 1)) gap_space (gap_lastLine depth _) _ entries
        (laid_indentedEntries (depth + 1) entries h)

/-- The same for the items of an array, one level further in. -/
theorem laid_indentedItems (depth : Nat) : (items : List Json) → areWhole items = true →
    List.Forall₂ Laid (indentedItems depth items) items
  | [], _ => .nil
  | item :: rest, h => by
      rw [areWhole, Bool.and_eq_true] at h
      rw [indentedItems]
      exact .cons (laid_indented depth item h.1) (laid_indentedItems depth rest h.2)

theorem laid_indentedEntries (depth : Nat) :
    (entries : List (String × Json)) → entriesWhole entries = true →
      List.Forall₂ Laid (entries.map fun entry => entry.2.indented depth) (entries.map Prod.snd)
  | [], _ => .nil
  | (_, value) :: rest, h => by
      rw [entriesWhole, Bool.and_eq_true] at h
      exact .cons (laid_indented depth value h.1) (laid_indentedEntries depth rest h.2)

end

end Json

end WhereClause
