import WhereClause.CommandLine.Run
import WhereClause.Proofs.Conversion
import WhereClause.Proofs.Reading
import WhereClause.Proofs.SingleLine

/-!
# Output Modes

What the commands print that are about the same document.

A document can be printed as a condition in four ways, with the keyword or
without it and with the values in the condition or apart, and as the tree that
it is built into. All of these begin with the same steps, so none of them fails
where another does not, and none of them for another reason. What they print is
about the same tree, although the keyword is taken from a condition to append to
a statement in one case and written in front in another.

A condition with its values apart takes two lines, and the second one is JSON.
Nothing marks the first line but its end. So it is part of the contract that
neither a condition nor the values have an end of a line inside, whatever the
names, texts and patterns of the document are. Then the lines can be told apart,
and the values that are read from the second one are those that belong to the
placeholders in the first one, with their types.

## Main definitions

* `boundValues`: The values of a filter as JSON, in the order of their
  placeholders.
* `Prints`: What the commands print for a filter.
* `Framed`: What the lines are that are printed.

## Theorems

* `outcome_compile_command`, `outcome_ast_command`: What the commands have in
  common.
* `framed_of_filterOf`: The lines of a condition and its values can be told
  apart, and say what the values are.
* `output_modes_agree`: The commands fail together or print the same filter.
-/

namespace WhereClause

open Sql

/-! ## Values in JSON -/

namespace Literal

/-- A literal that is no list has a JSON value without parts. -/
theorem toJson_of_not_list (value : Literal) (h : value.isList = false) :
    value.toJson.depth = 0 ∧ value.toJson.merged = value.toJson := by
  cases value with
  | list items => exact Bool.noConfusion h
  | float x =>
      rw [toJson]
      cases Json.Number.ofFloat? x with
      | none => exact ⟨rfl, rfl⟩
      | some n => exact ⟨rfl, rfl⟩
  | _ => exact ⟨rfl, rfl⟩

end Literal

namespace CommandLine

/-- The values of a filter as JSON, in the order of their placeholders. -/
def boundValues (filter : Filter) : Json :=
  .array ((filter.toParameterized .mySql).values.toList.map Literal.toJson)

theorem boundValues_eq (filter : Filter) :
    boundValues filter = (Literal.list (filter.toParameterized .mySql).values.toList).toJson := by
  rw [boundValues, Literal.toJson, Literal.toItems_eq_map]

/-- If all numbers in it are whole, the text of the values is read as the
    values. -/
theorem document_boundValues (filter : Filter) (h : (boundValues filter).isWhole = true) :
    Json.document (boundValues filter).toText = .ok (boundValues filter) := by
  -- No value is a list, so nothing is nested and there are no keys to merge.
  have hsingle := filter.fills_toSql.single
  have hdepth : (boundValues filter).depth ≤ Json.Reader.depthLimit := by
    rw [boundValues, Json.depth, Json.Reader.depthLimit, Nat.succ_le_succ_iff,
      Json.itemsDepth_le_iff]
    intro item hitem
    rcases List.mem_map.1 hitem with ⟨value, hvalue, rfl⟩
    rw [(value.toJson_of_not_list (hsingle value hvalue)).1]
    decide
  have hmerged : (boundValues filter).merged = boundValues filter := by
    rw [boundValues, Json.merged, Json.mergedItems_eq_map, List.map_map]
    refine congrArg Json.array (List.map_congr_left fun value hvalue => ?_)
    exact (value.toJson_of_not_list (hsingle value hvalue)).2
  rw [Json.document, Json.toText, Json.parse_of_laid (Json.laid_compact _ h) hdepth]
  show Except.ok (boundValues filter).merged = _
  rw [hmerged]

/-! ## Modes -/

/-- With the keyword, the condition stands behind it without a blank at the
    start. -/
theorem conditionText_keyword (filter : Filter) :
    conditionText filter true false = "WHERE " ++ filter.toSql .mySql := by
  -- Only the blank in front of the keyword is trimmed off.
  have htrim : Text.trimStart (" WHERE " ++ filter.toSql .mySql).toList =
      ("WHERE " ++ filter.toSql .mySql).toList := by
    rw [String.toList_append, String.toList_append]
    rfl
  simp only [conditionText, whereClause, htrim, Bool.false_eq_true, if_false, if_true,
    String.ofList_toList]

/-- With its values apart, the condition is one line and the values are another. -/
theorem conditionText_parameterized (filter : Filter) (keyword : Bool) :
    conditionText filter keyword true =
      (if keyword then "WHERE " ++ (filter.toParameterized .mySql).text
        else (filter.toParameterized .mySql).text) ++ "\n" ++ (boundValues filter).toText := by
  rw [boundValues_eq]
  rfl

variable (surroundings : Surroundings) (source : Source) (options : SettingsOptions)

/-- What becomes of a document, and what can keep it from becoming a filter, in
    this order. -/
theorem outcome_filterOf :
    (filterOf surroundings source options).outcome =
      (settingsOf surroundings options).bind fun settings =>
        (documentOf surroundings source).bind fun document =>
          (settings.build document).outcome.mapError .invalidFilter := by
  simp only [filterOf, Traced.outcome_bind, Traced.outcome_ofExcept, Traced.outcome_emit,
    Traced.outcome_mapError]
  rfl

/-- A document is compiled by building its filter and writing that. -/
theorem outcome_compile_command (keyword parameterized : Bool) :
    ((Command.compile source options keyword parameterized).run surroundings).outcome =
      (filterOf surroundings source options).outcome.map fun filter =>
        conditionText filter keyword parameterized := by
  simp only [Command.run, Command.execute, Traced.outcome_onError, Traced.outcome_bind,
    Traced.outcome_emit, Traced.outcome_pure]
  cases (filterOf surroundings source options).outcome <;> rfl

/-- The tree is that of the filter, printed over several lines. -/
theorem outcome_ast_command :
    ((Command.ast source options).run surroundings).outcome =
      (filterOf surroundings source options).outcome.map fun filter =>
        filter.encode.toIndentedText := by
  simp only [Command.run, Command.execute, Traced.outcome_onError, Traced.outcome_bind,
    Traced.outcome_pure]
  cases (filterOf surroundings source options).outcome <;> rfl

/-- What the commands print for a filter. -/
structure Prints (filter : Filter) : Prop where
  plain : ((Command.compile source options false false).run surroundings).outcome =
    .ok (filter.toSql .mySql)
  keyword : ((Command.compile source options true false).run surroundings).outcome =
    .ok ("WHERE " ++ filter.toSql .mySql)
  parameterized : ((Command.compile source options false true).run surroundings).outcome =
    .ok ((filter.toParameterized .mySql).text ++ "\n" ++ (boundValues filter).toText)
  both : ((Command.compile source options true true).run surroundings).outcome =
    .ok ("WHERE " ++ (filter.toParameterized .mySql).text ++ "\n" ++ (boundValues filter).toText)
  ast : ((Command.ast source options).run surroundings).outcome =
    .ok filter.encode.toIndentedText

/-- Once there is a filter, every command prints its own text for it. -/
theorem prints_of_filterOf (filter : Filter)
    (h : (filterOf surroundings source options).outcome = .ok filter) :
    Prints surroundings source options filter where
  plain := by
    rw [outcome_compile_command, h]
    rfl
  keyword := by
    rw [outcome_compile_command, h, Except.map, conditionText_keyword]
  parameterized := by
    rw [outcome_compile_command, h, Except.map, conditionText_parameterized]
    rfl
  both := by
    rw [outcome_compile_command, h, Except.map, conditionText_parameterized]
    rfl
  ast := by
    rw [outcome_ast_command, h]
    rfl

/-! ## Lines -/

/-- What the lines are that are printed for a filter, behind a keyword or
    not. -/
structure Framed (filter : Filter) : Prop where
  /-- Neither a condition nor the values end a line. -/
  single : SingleLine (filter.toSql .mySql).toList ∧
    SingleLine (filter.toParameterized .mySql).text.toList ∧
    SingleLine (boundValues filter).toText.toList
  /-- A condition with its values in it is one line. -/
  oneLine : ∀ start ∈ ["", "WHERE "],
    (start ++ filter.toSql .mySql).toList.splitOn '\n' = [(start ++ filter.toSql .mySql).toList]
  /-- With its values apart it is two lines, which are found by splitting at
      the line feed. -/
  twoLines : ∀ start ∈ ["", "WHERE "],
    (start ++ (filter.toParameterized .mySql).text ++ "\n" ++
        (boundValues filter).toText).toList.splitOn '\n' =
      [(start ++ (filter.toParameterized .mySql).text).toList,
        (boundValues filter).toText.toList]
  /-- The values in JSON are those of the condition. -/
  values : Literal.ofJson (boundValues filter) =
    .list (filter.toParameterized .mySql).values.toList
  /-- There are as many of them as there are placeholders. -/
  count : placeholders false (filter.toParameterized .mySql).text.toList =
    (filter.toParameterized .mySql).values.size
  /-- They are read from their text if no number in it is a real one. -/
  document : (boundValues filter).isWhole = true →
    Json.document (boundValues filter).toText = .ok (boundValues filter)

theorem singleLine_start {start : String} (h : start ∈ ["", "WHERE "]) :
    SingleLine start.toList := by
  simp only [List.mem_cons, List.not_mem_nil, or_false] at h
  rcases h with rfl | rfl <;> decide

/-- A text without a line feed is a line by itself, and is found in front of
    one. -/
theorem splitOn_of_singleLine {first second : List Char} (hfirst : SingleLine first)
    (hsecond : SingleLine second) :
    first.splitOn '\n' = [first] ∧ (first ++ '\n' :: second).splitOn '\n' = [first, second] := by
  have hone : (['\n'].intercalate [first]).splitOn '\n' = [first] :=
    List.splitOn_intercalate '\n' (List.forall_mem_singleton.2 hfirst.1) (List.cons_ne_nil _ _)
  -- Splitting undoes joining, since no part has a line feed in it.
  have htwo : (['\n'].intercalate [first, second]).splitOn '\n' = [first, second] :=
    List.splitOn_intercalate '\n'
      (List.forall_mem_cons.2 ⟨hfirst.1, List.forall_mem_singleton.2 hsecond.1⟩)
      (List.cons_ne_nil _ _)
  rw [List.intercalate_singleton] at hone
  rw [List.intercalate_cons_cons, List.intercalate_singleton, List.append_assoc,
    List.singleton_append] at htwo
  exact ⟨hone, htwo⟩

/-- The values of a filter that a document was built into are literals of JSON
    values. -/
theorem plain_of_filterOf (filter : Filter)
    (h : (filterOf surroundings source options).outcome = .ok filter) :
    ∀ value ∈ (filter.toParameterized .mySql).values.toList, value.IsPlain := by
  rw [outcome_filterOf] at h
  rcases bind_eq_ok h with ⟨settings, _, hrest⟩
  rcases bind_eq_ok hrest with ⟨document, _, hbuild⟩
  -- The filter was built from a document, and its values are those of the
  -- compiled statement.
  refine Literal.plain_of_bound settings document _ ?_
  rw [compileParameterized, Traced.outcome_bind_eq_ok_iff]
  exact ⟨filter, mapError_eq_ok hbuild, rfl⟩

/-- What is printed for a built filter can be split into its lines again. -/
theorem framed_of_filterOf (filter : Filter)
    (h : (filterOf surroundings source options).outcome = .ok filter) : Framed filter where
  single := ⟨filter.singleLine_toSql, filter.singleLine_toParameterized,
    Json.singleLine_toText (boundValues filter)⟩
  oneLine := by
    intro start hstart
    have hline := singleLine_append (singleLine_start hstart) filter.singleLine_toSql
    rw [String.toList_append]
    exact (splitOn_of_singleLine hline hline).1
  twoLines := by
    intro start hstart
    have hline := singleLine_append (singleLine_start hstart) filter.singleLine_toParameterized
    have hvalues := Json.singleLine_toText (boundValues filter)
    have hfeed : "\n".toList = ['\n'] := by decide
    simp only [String.toList_append, hfeed]
    rw [List.append_assoc, List.singleton_append]
    exact (splitOn_of_singleLine hline hvalues).2
  values := by
    have hplain := plain_of_filterOf surroundings source options filter h
    rw [boundValues, Literal.ofJson, Literal.ofItems_eq_map, List.map_map]
    -- A plain literal is found again in its JSON value, so each value comes back.
    have hsame : ∀ value ∈ (filter.toParameterized .mySql).values.toList,
        (Literal.ofJson ∘ Literal.toJson) value = id value :=
      fun value hvalue => Literal.ofJson_toJson value (hplain value hvalue)
    rw [List.map_congr_left hsame, List.map_id]
  count := filter.fills_toSql.count
  document := document_boundValues filter

/-- The commands for a document all fail with the error that keeps it from
    becoming a filter, or all of them print the filter it is built into. Then
    neither a condition nor the values have an end of a line in them, so that
    what is printed can be split into these again, and the values that are
    printed apart are those of the placeholders. -/
theorem output_modes_agree :
    (∃ error, (filterOf surroundings source options).outcome = .error error ∧
      (∀ keyword parameterized,
        ((Command.compile source options keyword parameterized).run surroundings).outcome =
          .error error) ∧
      ((Command.ast source options).run surroundings).outcome = .error error) ∨
    ∃ filter, (filterOf surroundings source options).outcome = .ok filter ∧
      Prints surroundings source options filter ∧ Framed filter := by
  cases hfilter : (filterOf surroundings source options).outcome with
  | error error =>
      refine Or.inl ⟨error, rfl, fun keyword parameterized => ?_, ?_⟩
      · rw [outcome_compile_command, hfilter]
        rfl
      · rw [outcome_ast_command, hfilter]
        rfl
  | ok filter =>
      exact Or.inr ⟨filter, rfl, prints_of_filterOf surroundings source options filter hfilter,
        framed_of_filterOf surroundings source options filter hfilter⟩

/-- A document with ends of lines in a name, in a text and in a pattern. -/
theorem output_modes_agree_hostile :
    let document : Json := .object [("a\n", .object [
      ("$in", .array [.text "\r\n", .number (.ofInt64 (-1))]), ("$regex", .text "\n?")])]
    let surroundings : Surroundings := ⟨{}, fun _ => .error .missing, .ok document.toText⟩
    ∃ filter, (filterOf surroundings .input {}).outcome = .ok filter ∧
      Prints surroundings .input {} filter ∧ Framed filter ∧
      filter.toSql .mySql =
        "(\x60a\\n\x60 IN (\"\\r\\n\", -1) AND \x60a\\n\x60 REGEXP BINARY \"\\n?\")" ∧
      (boundValues filter).toText = "[\"\\r\\n\",-1,\"\\n?\"]" ∧
      Json.document (boundValues filter).toText = .ok (boundValues filter) := by
  intro document surroundings
  have hdocument : documentOf surroundings .input = .ok document := by
    have hparse := Json.parse_of_laid (Json.laid_compact document rfl) (by decide)
    show (Json.document document.toText).mapError RunError.invalidJson = .ok document
    rw [Json.document, Json.toText, hparse]
    rfl
  have hfilter : (filterOf surroundings .input {}).outcome = .ok (.group
      [.compare "a\n" .oneOf (.list [.text "\r\n", .int (-1)]), .regex "a\n" "\n?" false]) := by
    rw [outcome_filterOf, hdocument]
    rfl
  rcases output_modes_agree surroundings .input {} with
    ⟨error, hfail, _, _⟩ | ⟨filter, hbuilt, hprints, hframed⟩
  · rw [hfilter] at hfail
    cases hfail
  · rw [hfilter] at hbuilt
    cases hbuilt
    exact ⟨_, hfilter, hprints, hframed, by decide, by decide, hframed.document rfl⟩

end CommandLine

end WhereClause
