import WhereClause.Compile
import WhereClause.Proofs.Spelling

/-!
# Filling in Placeholders

The two ways to write a filter are one way.

A filter can be written with its literals in the text, or with placeholders
and the literals apart. Writing the literals into the places of the
placeholders turns the second form into the first one. What makes this more
than a remark is that a question mark in the name of a column looks like a
placeholder. A reader who wants to tell them apart keeps count of the
backticks: one that stands for itself in a name is doubled, so it leaves the
count as it was, and a question mark belongs to a name exactly if the count is
odd. Texts are no trouble, since in this form there are none.

`fill` is that reader. It works from left to right with one bit of memory, so
what it does to fragments of filters it does to one after another, and each
placeholder meets the value that its own fragment added.

## Main definitions

* `placeholders`: The number of question marks outside of names.
* `fill`: A statement with texts in the places of its placeholders.
* `Clause.Fills`: A clause that gives a statement when it is filled in.

## Theorems

* `placeholders_written`: Fragments have as many placeholders as values.
* `fill_written`: Filling in the placeholders of fragments writes their
  literals into the text.
* `fills_toSql`: A filter with its literals apart gives the one with its
  literals in the text.
* `compile_fills`: The same for compiled documents, and their faults.
-/

namespace WhereClause

namespace Sql

/-- The number of question marks outside of names. `inName` says whether the
    backticks so far have opened a name. -/
def placeholders (inName : Bool) : List Char → Nat
  | [] => 0
  | c :: rest =>
      if c = '\x60' then placeholders (!inName) rest
      else if c = '?' && !inName then placeholders inName rest + 1
      else placeholders inName rest

/-- A statement with texts in the places of the question marks outside of
    names, first text first. Places without a text stay as they are. -/
def fill (inName : Bool) : List Char → List (List Char) → List Char
  | [], _ => []
  | c :: rest, texts =>
      if c = '\x60' then c :: fill (!inName) rest texts
      else if c = '?' && !inName then
        match texts with
        | [] => c :: fill inName rest []
        | text :: texts => text ++ fill inName rest texts
      else c :: fill inName rest texts

/-- A clause that gives a statement when its values, none of which is a list,
    are written into the places of its placeholders, of which there are as
    many. -/
structure Clause.Fills (clause : Clause) (statement : String) : Prop where
  count : placeholders false clause.text.toList = clause.values.size
  filled : String.ofList (fill false clause.text.toList
    (clause.values.toList.map fun value => (Dialect.mySql.literal value).toList)) = statement
  single : ∀ value ∈ clause.values.toList, value.isList = false

theorem not_place (inName : Bool) (c : Char) (hplace : c = '?' → inName = true) :
    ¬((c = '?' && !inName) = true) := by
  simp only [Bool.and_eq_true, decide_eq_true_eq, Bool.not_eq_true', not_and, Bool.not_eq_false]
  exact hplace

/-- A character that is neither a backtick nor a place is passed in the count. -/
theorem placeholders_other (inName : Bool) (c : Char) (hc : c ≠ '\x60')
    (hplace : c = '?' → inName = true) (rest : List Char) :
    placeholders inName (c :: rest) = placeholders inName rest := by
  rw [placeholders, if_neg hc, if_neg (not_place inName c hplace)]

theorem fill_other (inName : Bool) (c : Char) (hc : c ≠ '\x60')
    (hplace : c = '?' → inName = true) (rest : List Char) (texts : List (List Char)) :
    fill inName (c :: rest) texts = c :: fill inName rest texts := by
  rw [fill.eq_def]
  simp only [if_neg hc, if_neg (not_place inName c hplace)]

-- Inside a name nothing is a placeholder, and doubled backticks do not end it.
theorem placeholders_doubleBackticks (s rest : List Char) :
    placeholders true (doubleBackticks s ++ '\x60' :: rest) = placeholders false rest := by
  induction s with
  | nil => rfl
  | cons c s ih =>
      rw [doubleBackticks, List.flatMap_cons, ← doubleBackticks]
      by_cases hc : c = '\x60'
      · rw [if_pos hc]
        exact ih
      · rw [if_neg hc, List.singleton_append, List.cons_append,
          placeholders_other true c hc fun _ => rfl, ih]

/-- Inside a name nothing is filled in. -/
theorem fill_doubleBackticks (s rest : List Char) (texts : List (List Char)) :
    fill true (doubleBackticks s ++ '\x60' :: rest) texts =
      doubleBackticks s ++ '\x60' :: fill false rest texts := by
  induction s with
  | nil => rfl
  | cons c s ih =>
      rw [doubleBackticks, List.flatMap_cons, ← doubleBackticks]
      by_cases hc : c = '\x60'
      · rw [if_pos hc]
        -- The flag goes down at the first of the two and up at the second.
        exact congrArg (fun t => '\x60' :: '\x60' :: t) ih
      · rw [if_neg hc, List.singleton_append, List.cons_append, fill_other true c hc fun _ => rfl,
          ih, List.cons_append]

/-- A quoted name has no placeholder, whatever question marks are in it. -/
theorem placeholders_quoteName (name : String) (rest : List Char) :
    placeholders false ((quoteName name).toList ++ rest) = placeholders false rest := by
  rw [quoteName, String.toList_ofList, List.cons_append, List.cons_append, List.append_assoc,
    List.singleton_append]
  exact placeholders_doubleBackticks _ rest

theorem fill_quoteName (name : String) (rest : List Char) (texts : List (List Char)) :
    fill false ((quoteName name).toList ++ rest) texts =
      (quoteName name).toList ++ fill false rest texts := by
  rw [quoteName, String.toList_ofList, List.cons_append, List.cons_append, List.append_assoc,
    List.singleton_append, List.cons_append, List.append_assoc, List.singleton_append]
  exact congrArg ('\x60' :: ·) (fill_doubleBackticks _ rest texts)

theorem placeholders_fixed (s rest : List Char)
    (hs : ∀ c ∈ s, c ≠ '"' ∧ c ≠ '\x60' ∧ c ≠ '?') :
    placeholders false (s ++ rest) = placeholders false rest := by
  induction s with
  | nil => rfl
  | cons c s ih =>
      have hc := hs c List.mem_cons_self
      rw [List.cons_append,
        placeholders_other false c hc.2.1 fun hplace => absurd hplace hc.2.2]
      exact ih fun d hd => hs d (List.mem_cons_of_mem c hd)

/-- Fixed words stay as they are when texts are filled in. -/
theorem fill_fixed (s rest : List Char) (hs : ∀ c ∈ s, c ≠ '"' ∧ c ≠ '\x60' ∧ c ≠ '?')
    (texts : List (List Char)) : fill false (s ++ rest) texts = s ++ fill false rest texts := by
  induction s with
  | nil => rfl
  | cons c s ih =>
      have hc := hs c List.mem_cons_self
      rw [List.cons_append, fill_other false c hc.2.1 fun hplace => absurd hplace hc.2.2,
        ih fun d hd => hs d (List.mem_cons_of_mem c hd), List.cons_append]

/-- Fragments have as many placeholders as values. -/
theorem placeholders_written (fragments : List Fragment) (h : Written fragments)
    (rest : List Char) :
    placeholders false (fragments.flatMap (Fragment.chars .parameterized) ++ rest) =
      (fragments.flatMap (Fragment.values .parameterized)).length + placeholders false rest := by
  induction h generalizing rest with
  | nil => exact (Nat.zero_add _).symm
  | append hs ht ihs iht =>
      rw [List.flatMap_append, List.append_assoc, ihs, iht, List.flatMap_append,
        List.length_append, Nat.add_assoc]
  | words s fixed =>
      rw [List.flatMap_singleton]
      exact (placeholders_fixed s.toList rest fixed).trans (Nat.zero_add _).symm
  | column name s fixed blank =>
      rw [List.flatMap_cons, List.flatMap_singleton, List.append_assoc]
      refine (placeholders_quoteName name _).trans ?_
      exact (placeholders_fixed s.toList rest fixed).trans (Nat.zero_add _).symm
  | operand value single =>
      rw [List.flatMap_singleton, List.flatMap_singleton, chars_operand_parameterized]
      -- An operand is one placeholder and one value.
      exact Nat.add_comm _ _

/-- Filling in the placeholders of fragments writes their literals into the
    text, each at its own place, and leaves the other texts for later. -/
theorem fill_written (fragments : List Fragment) (h : Written fragments) (rest : List Char)
    (texts : List (List Char)) :
    fill false (fragments.flatMap (Fragment.chars .parameterized) ++ rest)
        ((fragments.flatMap (Fragment.values .parameterized)).map
          (fun value => (Dialect.mySql.literal value).toList) ++ texts) =
      fragments.flatMap (Fragment.chars .inline) ++ fill false rest texts := by
  induction h generalizing rest texts with
  | nil => rfl
  | append hs ht ihs iht =>
      rw [List.flatMap_append, List.append_assoc, List.flatMap_append, List.map_append,
        List.append_assoc, ihs, iht, List.flatMap_append, List.append_assoc]
  | words s fixed =>
      simp only [List.flatMap_singleton]
      exact fill_fixed s.toList rest fixed texts
  | column name s fixed blank =>
      simp only [List.flatMap_cons, List.flatMap_nil, List.append_nil, List.append_assoc]
      -- The column takes no text, and neither do the words behind it.
      refine (fill_quoteName name _ _).trans ?_
      exact congrArg ((quoteName name).toList ++ ·) (fill_fixed s.toList rest fixed texts)
  | operand value single =>
      simp only [List.flatMap_singleton, chars_operand_parameterized]
      rfl

end Sql

open Sql

namespace Filter

-- No value that is passed apart is a list.
theorem isList_of_mem_written (fragments : List Fragment) (h : Written fragments) :
    ∀ value ∈ fragments.flatMap (Fragment.values .parameterized), value.isList = false := by
  induction h with
  | nil => exact fun _ hv => absurd hv List.not_mem_nil
  | append hs ht ihs iht =>
      intro value hv
      rw [List.flatMap_append] at hv
      rcases List.mem_append.1 hv with hv | hv
      · exact ihs value hv
      · exact iht value hv
  | words s fixed => exact fun _ hv => absurd hv List.not_mem_nil
  | column name s fixed blank => exact fun _ hv => absurd hv List.not_mem_nil
  | operand value single =>
      intro other hother
      rw [List.mem_singleton.1 hother]
      exact single

/-- Written with placeholders and filled in, a filter is what it is when it is
    written with its literals. -/
theorem fills_toSql (filter : Filter) :
    (filter.toParameterized .mySql).Fills (filter.toSql .mySql) where
  count := by
    have h := placeholders_written _ filter.written_fragments []
    rw [List.append_nil, ← toList_toParameterized, ← values_toParameterized] at h
    exact h
  filled := by
    have h := fill_written _ filter.written_fragments [] []
    rw [List.append_nil, List.append_nil, ← toList_toParameterized, ← values_toParameterized,
      ← toList_toSql] at h
    rw [h, fill, List.append_nil, String.ofList_toList]
  single := by
    rw [values_toParameterized]
    exact isList_of_mem_written _ filter.written_fragments

end Filter

/-- Filters and documents can be written either way. Filling in the
    placeholders of the one form gives the other, and a document is refused in
    both forms alike. -/
theorem compile_fills :
    (∀ filter : Filter, (filter.toParameterized .mySql).Fills (filter.toSql .mySql)) ∧
      ∀ (settings : Settings) (document : Json),
        (∃ fault, (compileParameterized settings document).outcome = .error fault ∧
          (compile settings document).outcome = .error fault) ∨
        ∃ clause sql, (compileParameterized settings document).outcome = .ok clause ∧
          (compile settings document).outcome = .ok sql ∧ clause.Fills sql := by
  refine ⟨Filter.fills_toSql, fun settings document => ?_⟩
  simp only [compileParameterized, compile, Traced.outcome_bind]
  -- Both forms build the same filter first, and only that can fail.
  rcases (settings.build document).outcome with fault | filter
  · exact Or.inl ⟨fault, rfl, rfl⟩
  · exact Or.inr ⟨_, _, rfl, rfl, filter.fills_toSql⟩

end WhereClause
