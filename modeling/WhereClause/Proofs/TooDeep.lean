import WhereClause.Json.Selective
import WhereClause.Proofs.Reading

/-!
# Texts Nested Too Deeply

A decoder that asks for every part of a value does not get a value that is
nested too deeply.

A selective reader forgives deep nesting where a part is skipped. So it is not
enough that the bracket that is one too many shows a fault there. It has to be
known that no part on the way to it is skipped, and the way is any way in the
value. `Wanted` says that of a value as a whole, and it is a condition on the
value and on what is skipped. The text does not enter into it.

Up to that bracket the text is read without a fault. What comes before it are
parts that are not nested too deeply, which are read as if there was nothing
wrong with the text. So the argument goes down to the part that is too deep,
and on each level past the parts in front of it.

## Main definitions

* `path`: The steps to a place in frames.
* `Wanted`: A value no part of which is skipped.
* `Blocks`: A text that no value is read from, because of its depth.

## Theorems

* `wanted_of_never`: Where nothing is skipped, everything is wanted.
* `leading?_of_after?`: Selective reading does what reading does, as long as
  there is no fault.
* `Holder.leading?_parts`: A part that blocks reading blocks that of the whole.
* `blocks_of_laid`: The text of a value that is too deep blocks reading.
* `selected?_of_laid`: So it is not read selectively either.
-/

namespace WhereClause

namespace Json

mutual

/-- Whether neither a value nor any part of it is skipped. -/
def Wanted (skips : List (Option String) → Bool) : Json → Prop
  | .array items => skips [] = false ∧ ItemsWanted (fun steps => skips (none :: steps)) items
  | .object entries => skips [] = false ∧ EntriesWanted skips entries
  | .null => skips [] = false
  | .bool _ => skips [] = false
  | .number _ => skips [] = false
  | .text _ => skips [] = false

/-- The same for several values. -/
def ItemsWanted (skips : List (Option String) → Bool) : List Json → Prop
  | [] => True
  | item :: rest => Wanted skips item ∧ ItemsWanted skips rest

/-- The same for the values of entries. -/
def EntriesWanted (skips : List (Option String) → Bool) : List (String × Json) → Prop
  | [] => True
  | (key, value) :: rest =>
      Wanted (fun steps => skips (some key :: steps)) value ∧ EntriesWanted skips rest

end

theorem itemsWanted_iff (skips : List (Option String) → Bool) (items : List Json) :
    ItemsWanted skips items ↔ ∀ item ∈ items, Wanted skips item := by
  induction items with
  | nil => simp only [ItemsWanted, List.not_mem_nil, false_imp_iff, implies_true]
  | cons item rest ih => rw [ItemsWanted, ih, List.forall_mem_cons]

theorem Wanted.root {skips : List (Option String) → Bool} {value : Json}
    (h : Wanted skips value) : skips [] = false := by
  cases value with
  | array items => exact h.1
  | object entries => exact h.1
  | _ => exact h

mutual

/-- Where nothing is skipped, everything is wanted. -/
theorem wanted_of_never {skips : List (Option String) → Bool} (h : ∀ steps, skips steps = false) :
    (value : Json) → Wanted skips value
  | .array items => ⟨h [], itemsWanted_of_never (fun steps => h (none :: steps)) items⟩
  | .object entries => ⟨h [], entriesWanted_of_never h entries⟩
  | .null => h []
  | .bool _ => h []
  | .number _ => h []
  | .text _ => h []

theorem itemsWanted_of_never {skips : List (Option String) → Bool}
    (h : ∀ steps, skips steps = false) : (items : List Json) → ItemsWanted skips items
  | [] => trivial
  | item :: rest => ⟨wanted_of_never h item, itemsWanted_of_never h rest⟩

theorem entriesWanted_of_never {skips : List (Option String) → Bool}
    (h : ∀ steps, skips steps = false) :
    (entries : List (String × Json)) → EntriesWanted skips entries
  | [] => trivial
  | (key, value) :: rest =>
      ⟨wanted_of_never (fun steps => h (some key :: steps)) value, entriesWanted_of_never h rest⟩

end

namespace Reader

variable {skips : List (Option String) → Bool}

/-! ## Runs -/

/-- States in which the value is not complete. -/
def Live (s : State) : Prop :=
  ∀ value, s.mode ≠ .between (.done value)

theorem leading?_cons {s t : State} {c : Char} (hlive : Live s) (h : step s c = .ok t)
    (rest : List Char) : leading? skips s (c :: rest) = leading? skips t rest := by
  rw [leading?]
  split
  · rename_i value hmode
    exact absurd hmode (hlive value)
  · rw [selectiveStep, h]

/-- Nothing but white space can follow a complete value, and that does not
    change anything. -/
theorem after?_done {stack : List Frame} {value : Json} {text : List Char} {t : State}
    (h : (stand stack (.done value)).after? text = some t) : t = stand stack (.done value) := by
  induction text with
  | nil => exact (Option.some.inj h).symm
  | cons c rest ih =>
      by_cases hc : isSpace c = true
      · rw [after?_cons (step_space hc)] at h
        exact ih h
      · have hstep : step (stand stack (.done value)) c = fail .trailingCharacters := by
          simp only [step, stand, placeStep, hc, partStep, Bool.false_eq_true, if_false]
        rw [State.after?, hstep] at h
        cases h

/-- Selective reading does what reading does, as long as there is no fault and
    the value is not complete. -/
theorem leading?_of_after? {s t : State} {text : List Char} (h : s.after? text = some t)
    (hlive : Live t) (rest : List Char) :
    leading? skips s (text ++ rest) = leading? skips t rest := by
  induction text generalizing s with
  | nil => rw [Option.some.inj h, List.nil_append]
  | cons c text ih =>
      -- If the value was complete it would be still, because nothing undoes that.
      have hstart : Live s := by
        intro value hmode
        have hs : s = stand s.stack (.done value) := by rw [stand, ← hmode]
        rw [hs] at h
        rw [after?_done h] at hlive
        exact hlive value rfl
      rw [State.after?] at h
      cases hstep : step s c with
      | error _ =>
          rw [hstep] at h
          cases h
      | ok next =>
          rw [hstep] at h
          rw [List.cons_append, leading?_cons hstart hstep, ih h]

/-- A bracket that is one too many ends reading, where nothing is skipped. -/
theorem leading?_tooDeep {s : State} {c : Char} (hlive : Live s) (h : step s c = fail .tooDeep)
    (hskips : skips s.steps = false) (rest : List Char) :
    leading? skips s (c :: rest) = none := by
  rw [leading?]
  split
  · rename_i value hmode
    exact absurd hmode (hlive value)
  · rw [selectiveStep, h]
    simp only [fail, hskips, Bool.false_eq_true, if_false]

/-! ## Parts -/

variable {stack : List Frame}

theorem Ready.live {s : State} (h : Ready s stack) : Live s := by
  cases h with
  | value stack afterComma => exact fun _ => nofun
  | firstItem stack => exact fun _ => nofun

theorem KeyReady.live {entries : List (String × Json)} {s : State}
    (h : KeyReady stack entries s) : Live s := by
  cases h with
  | firstKey => exact fun _ => nofun
  | nextKey entries => exact fun _ => nofun

/-- The steps to a place in frames, innermost frame first. -/
def path (stack : List Frame) : List (Option String) :=
  stack.reverse.map Frame.key?

/-- The innermost frame is the last step. -/
theorem path_cons (frame : Frame) (stack : List Frame) :
    path (frame :: stack) = path stack ++ [frame.key?] := by
  rw [path, path, List.reverse_cons, List.map_append, List.map_singleton]

/-- A text that is not read as the next part, whatever was read before. -/
def Holder.Blocks {α : Type} (holder : Holder α) (skips : List (Option String) → Bool)
    (text : List Char) : Prop :=
  ∀ (done : List α) (s : State), holder.ready done s →
    ∀ rest, leading? skips s (text ++ rest) = none

/-- The first of several parts is the first of what is to be read, also if it
    is the last one. -/
theorem exists_intercalate_cons (text : List Char) (texts : List (List Char))
    (rest : List Char) : ∃ more, [','].intercalate (text :: texts) ++ rest = text ++ more := by
  -- What is more is a comma and the other parts, or nothing but the rest.
  cases texts with
  | nil => exact ⟨rest, by rw [List.intercalate_singleton]⟩
  | cons second texts =>
      refine ⟨[','] ++ ([','].intercalate (second :: texts) ++ rest), ?_⟩
      rw [List.intercalate_cons_cons, List.append_assoc, List.append_assoc]

/-- If each part that is deep blocks reading, and each other one is read, then
    a deep part blocks the reading of all of them. -/
theorem Holder.leading?_parts {α : Type} (holder : Holder α)
    (hlive : ∀ {done s}, holder.ready done s → Live s) {deep : α → Prop}
    {texts : List (List Char)} {parts : List α}
    (h : List.Forall₂ (fun text part =>
      (deep part → holder.Blocks skips text) ∧ (¬deep part → holder.Reads text part)) texts parts)
    (hdeep : ∃ part ∈ parts, deep part) {done : List α} {s : State} (hs : holder.ready done s)
    (rest : List Char) : leading? skips s ([','].intercalate texts ++ rest) = none := by
  induction h generalizing done s with
  | nil =>
      rcases hdeep with ⟨part, hpart, _⟩
      exact absurd hpart List.not_mem_nil
  | @cons text part texts parts hfirst hrest ih =>
      by_cases hpart : deep part
      · rcases exists_intercalate_cons text texts rest with ⟨more, hmore⟩
        rw [hmore]
        exact hfirst.1 hpart done s hs more
      -- The first part is read, so the deep one comes later, behind a comma.
      have hlater : ∃ part ∈ parts, deep part := by
        rcases hdeep with ⟨other, hother, hdeep⟩
        rcases List.mem_cons.1 hother with rfl | hmem
        · exact absurd hdeep hpart
        · exact ⟨other, hmem, hdeep⟩
      cases hrest with
      | nil =>
          rcases hlater with ⟨part, hmem, _⟩
          exact absurd hmem List.not_mem_nil
      | cons hsecond hrest =>
          rcases holder.after?_comma (hfirst.2 hpart) hs with ⟨next, hread, hnext⟩
          rw [List.intercalate_cons_cons, List.append_assoc,
            leading?_of_after? hread (hlive hnext)]
          exact ih hlater hnext

/-- Below an array the steps to an item go on from those to the array. -/
theorem wanted_item {item : Json}
    (h : Wanted (fun steps => skips (path stack ++ none :: steps)) item) (done : List Json) :
    Wanted (fun steps => skips (path (.array done :: stack) ++ steps)) item := by
  simp only [path_cons, Frame.key?, List.append_assoc, List.singleton_append]
  exact h

theorem wanted_value {key : String} {value : Json}
    (h : Wanted (fun steps => skips (path stack ++ some key :: steps)) value)
    (done : List (String × Json)) :
    Wanted (fun steps => skips (path (.entry done key :: stack) ++ steps)) value := by
  simp only [path_cons, Frame.key?, List.append_assoc, List.singleton_append]
  exact h

/-! ## Values -/

/-- A text that no value is read from, wherever one may begin and there is no
    room for it. -/
def Blocks (text : List Char) (value : Json) : Prop :=
  ∀ (skips : List (Option String) → Bool) (s : State) (stack : List Frame), Ready s stack →
    stack.length ≤ depthLimit → depthLimit < stack.length + value.depth →
    skips s.steps = false → Wanted (fun steps => skips (path stack ++ steps)) value →
    ∀ rest, leading? skips s (text ++ rest) = none

theorem blocks_scalar {text : List Char} {value : Json} (h : value.depth = 0) :
    Blocks text value := by
  intro skips s stack _ hstack hdeep
  omega

/-- An item that is too deep blocks reading, with the white space before it. -/
theorem blocks_item {text : List Char} {item : Json} (h : Blocks text item) {gap : List Char}
    (hgap : Gap gap) (hstack : stack.length < depthLimit)
    (hdeep : depthLimit < stack.length + 1 + item.depth) (hskips : skips (path stack) = false)
    (hwanted : Wanted (fun steps => skips (path stack ++ none :: steps)) item) :
    (arrayHolder stack).Blocks skips (gap ++ text) := by
  intro done s hs rest
  have hstand : skips s.steps = false := by
    -- At the first item the reader does not count the array itself.
    cases hs with
    | value stack afterComma => exact (congrArg skips (path_cons _ _)).trans hwanted.root
    | firstItem stack => exact hskips
  rw [List.append_assoc, leading?_of_after? (after?_gap hs.space (isSpace_of_gap hgap)) hs.live]
  exact h skips s _ hs hstack hdeep hstand (wanted_item hwanted done) rest

/-- So does an entry with a value that is too deep. -/
theorem blocks_entry {text : List Char} {key : String} {value : Json} (h : Blocks text value)
    {gap space : List Char} (hgap : Gap gap) (hspace : Gap space)
    (hstack : stack.length < depthLimit) (hdeep : depthLimit < stack.length + 1 + value.depth)
    (hwanted : Wanted (fun steps => skips (path stack ++ some key :: steps)) value) :
    (objectHolder stack).Blocks skips (entryText gap space key text) := by
  intro done s hs rest
  have hready : Ready (stand (.entry done key :: stack) (.value false))
    (.entry done key :: stack) := .value _ false
  have hstand : skips (stand (.entry done key :: stack) (.value false)).steps = false :=
    (congrArg skips (path_cons _ _)).trans hwanted.root
  rw [entryText_eq, List.append_assoc,
    leading?_of_after? (after?_key hs key hgap hspace) hready.live]
  exact h skips _ _ hready hstack hdeep hstand (wanted_value hwanted done) rest

/-- With no room left, a bracket is one too many. -/
theorem leading?_of_full {s : State} (hs : Ready s stack) {c : Char} {place : Place}
    (hopen : step s c = enter stack place) (hfull : stack.length = depthLimit)
    (hskips : skips s.steps = false) (rest : List Char) :
    leading? skips s (c :: rest) = none := by
  refine leading?_tooDeep hs.live ?_ hskips rest
  rw [hopen, enter, if_neg (by omega)]

/-- If several values are too deep together, then one of them is. -/
theorem exists_deep {values : List Json} {room : Nat} (h : room < itemsDepth values) :
    ∃ value ∈ values, room < value.depth := by
  by_contra hnone
  -- If none was too deep, the depth of all would be within the room.
  have hall : ∀ value ∈ values, value.depth ≤ room := by
    intro value hvalue
    by_contra hdeep
    exact hnone ⟨value, hvalue, Nat.lt_of_not_le hdeep⟩
  exact Nat.not_le_of_lt h ((itemsDepth_le_iff values room).2 hall)

/-- Parts that are not too deep are read, and those that are block reading. -/
theorem parts_array {gap : List Char} (hgap : Gap gap) (hstack : stack.length < depthLimit)
    (hskips : skips (path stack) = false) {texts : List (List Char)} {items : List Json}
    (hlaid : List.Forall₂ Laid texts items) (h : List.Forall₂ Blocks texts items)
    (hwanted : ∀ item ∈ items, Wanted (fun steps => skips (path stack ++ none :: steps)) item) :
    List.Forall₂ (fun text item =>
      (depthLimit < stack.length + 1 + item.depth → (arrayHolder stack).Blocks skips text) ∧
        (¬depthLimit < stack.length + 1 + item.depth → (arrayHolder stack).Reads text item))
      (texts.map (gap ++ ·)) items := by
  induction hlaid with
  | nil => exact .nil
  | cons hfirst hrest ih =>
      -- Induction on the items, each judged by its own depth.
      have hitems := List.forall_mem_cons.1 hwanted
      cases h with
      | cons hblocks hlater =>
          refine .cons ⟨fun hdeep => ?_, fun hroom => ?_⟩ (ih hlater hitems.2)
          · exact blocks_item hblocks hgap hstack hdeep hskips hitems.1
          · exact reads_item (spells_of_laid hfirst) hgap (Nat.le_of_not_lt hroom)

theorem parts_object {gap space : List Char} (hgap : Gap gap) (hspace : Gap space)
    (hstack : stack.length < depthLimit) {texts : List (List Char)}
    {entries : List (String × Json)} (hlaid : List.Forall₂ Laid texts (entries.map Prod.snd))
    (h : List.Forall₂ Blocks texts (entries.map Prod.snd))
    (hwanted : EntriesWanted (fun steps => skips (path stack ++ steps)) entries) :
    List.Forall₂ (fun text entry =>
      (depthLimit < stack.length + 1 + entry.2.depth → (objectHolder stack).Blocks skips text) ∧
        (¬depthLimit < stack.length + 1 + entry.2.depth →
          (objectHolder stack).Reads text entry))
      (List.zipWith (fun entry text => entryText gap space entry.1 text) entries texts)
      entries := by
  induction entries generalizing texts with
  | nil => exact .nil
  | cons entry rest ih =>
      cases hlaid with
      | cons hfirst hrest =>
          cases h with
          | cons hblocks hlater =>
              refine .cons ⟨fun hdeep => ?_, fun hroom => ?_⟩ (ih hrest hlater hwanted.2)
              · exact blocks_entry hblocks hgap hspace hstack hdeep hwanted.1
              · exact reads_entry (spells_of_laid hfirst) hgap hspace (Nat.le_of_not_lt hroom)

/-- An array blocks reading by its bracket, or by an item. -/
theorem blocks_array {gap last : List Char} (hgap : Gap gap) {texts : List (List Char)}
    {items : List Json} (hlaid : List.Forall₂ Laid texts items)
    (h : List.Forall₂ Blocks texts items) :
    Blocks (bracketed '[' ']' (texts.map (gap ++ ·)) last) (.array items) := by
  intro skips s stack hs hstack hdeep hskips hwanted rest
  have hopen : step s '[' = enter stack .firstItem := hs.begin (by decide) (by decide)
  rw [bracketed, List.cons_append]
  -- Either the bracket itself is one too many, or an item is.
  by_cases hfull : stack.length = depthLimit
  · exact leading?_of_full hs hopen hfull hskips _
  have hroom : stack.length < depthLimit := by omega
  have hroot : skips (path stack) = false := by
    rw [← List.append_nil (path stack)]
    exact hwanted.root
  rw [depth] at hdeep
  rcases exists_deep (by omega : depthLimit - (stack.length + 1) < itemsDepth items) with
    ⟨item, hitem, hitemDeep⟩
  rw [leading?_cons hs.live (hopen.trans (if_pos hroom)), List.append_assoc]
  exact (arrayHolder stack).leading?_parts (fun hs => hs.live)
    (parts_array hgap hroom hroot hlaid h ((itemsWanted_iff _ items).1 hwanted.2))
    ⟨item, hitem, by omega⟩ (.firstItem stack) _

/-- An object blocks reading by its bracket, or by a value. -/
theorem blocks_object {gap space last : List Char} (hgap : Gap gap) (hspace : Gap space)
    {texts : List (List Char)} {entries : List (String × Json)}
    (hlaid : List.Forall₂ Laid texts (entries.map Prod.snd))
    (h : List.Forall₂ Blocks texts (entries.map Prod.snd)) :
    Blocks (bracketed '\x7b' '\x7d'
      (List.zipWith (fun entry text => entryText gap space entry.1 text) entries texts) last)
      (.object entries) := by
  intro skips s stack hs hstack hdeep hskips hwanted rest
  have hopen : step s '\x7b' = enter stack .firstKey := hs.begin (by decide) (by decide)
  rw [bracketed, List.cons_append]
  by_cases hfull : stack.length = depthLimit
  · exact leading?_of_full hs hopen hfull hskips _
  have hroom : stack.length < depthLimit := by omega
  rw [depth, entriesDepth_eq] at hdeep
  rcases exists_deep
    (by omega : depthLimit - (stack.length + 1) < itemsDepth (entries.map Prod.snd)) with
    ⟨value, hvalue, hvalueDeep⟩
  rcases List.mem_map.1 hvalue with ⟨entry, hentry, rfl⟩
  rw [leading?_cons hs.live (hopen.trans (if_pos hroom)), List.append_assoc]
  exact (objectHolder stack).leading?_parts (fun hs => hs.live)
    (parts_object hgap hspace hroom hlaid h hwanted.2) ⟨entry, hentry, by omega⟩ .firstKey _

/-- The text of a laid out value blocks reading, where there is no room for the
    value. -/
theorem blocks_of_laid {text : List Char} {value : Json} (h : Laid text value) :
    Blocks text value := by
  refine Laid.induct (blocks_scalar rfl) (fun _ => blocks_scalar rfl)
    (fun _ _ => blocks_scalar rfl) (fun _ => blocks_scalar rfl) ?_ ?_ h
  · intro gap last hgap _ texts items hlaid ih
    exact blocks_array hgap hlaid ih
  · intro gap space last hgap hspace _ texts entries hlaid ih
    exact blocks_object hgap hspace hlaid ih

end Reader

/-- A laid out value that is nested too deeply is not read, if no part of it is
    skipped. -/
theorem selected?_of_laid {skips : List (Option String) → Bool} {text : List Char} {value : Json}
    (h : Laid text value) (hdeep : Reader.depthLimit < value.depth)
    (hwanted : Wanted skips value) : selected? skips (String.ofList text) = none := by
  -- Outside of everything there is room, and the value exceeds all of it.
  have hnone := Reader.blocks_of_laid h skips .initial [] (.value [] false) (Nat.zero_le _)
    (by rw [List.length_nil]; omega) hwanted.root hwanted []
  rw [List.append_nil] at hnone
  rw [selected?, leading?, String.toList_ofList, hnone]

end Json

end WhereClause
