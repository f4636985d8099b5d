import Mathlib.Data.List.Basic
import WhereClause.EnvFile

/-!
# The Lines of a File

What the lines of an environment file are, and what each of them says.

A line ends with a line feed, before which a carriage return may stand, and the
last one may end with the file. Loading does not look for carriage returns,
because a line is trimmed and they are blank. It does not look for the end of
the file either: what is behind the last line feed may be nothing, and nothing
is a line that is skipped. So what is loaded is the same, and the lines keep
their numbers.

What a line says is given here as a relation between texts. It takes the trimmed
line apart at an equals sign with none before it, and a value apart at the
quotes around it. Loading searches for these instead. That both agree is
`ofText_eq_iff`, so every line says exactly one thing.

## Main definitions

* `withoutReturn`, `ended`, `textLines`: The lines of a text.
* `Unquotes`: A value without the quotes around it.
* `IsSkipped`, `Says`: What a line says.

## Theorems

* `load_eq_loadLines`: What is loaded are the lines of a text.
* `unquotes_iff`: A value loses one pair of quotes if it has one.
* `ofText_eq_iff`: What a line is taken for is what it says.
-/

namespace WhereClause

namespace EnvFile

/-! ## Lines -/

/-- A line without a carriage return at its end. -/
def withoutReturn (line : List Char) : List Char :=
  if line.getLast? = some '\r' then line.dropLast else line

/-- The lines that pieces between line feeds are. Behind the last line feed
    there is a line only if there is anything, and that has no end of its
    own. -/
def ended : List (List Char) → List (List Char)
  | [] => []
  | [last] => if last = [] then [] else [last]
  | piece :: next :: rest => withoutReturn piece :: ended (next :: rest)

/-- The lines of a text, without the line feeds and the carriage returns that
    end them. -/
def textLines (content : List Char) : List (List Char) :=
  ended (content.splitOn '\n')

/-- What loading takes for lines are the pieces between line feeds. -/
theorem lines_eq_splitOn (content : List Char) : lines content = content.splitOn '\n' := by
  induction content with
  | nil => rfl
  | cons c rest ih =>
      rw [List.splitOn_eq_splitOnP] at ih ⊢
      rw [lines, ih, List.splitOnP_cons_eq_if_modifyHead]
      simp only [beq_iff_eq]
      -- A line feed starts a new line, and any other character goes to the first
      -- one.
      by_cases hc : c = '\n'
      · rw [if_pos hc, if_pos hc]
      · rw [if_neg hc, if_neg hc]
        cases hsplit : List.splitOnP (fun x => x == '\n') rest with
        | nil => exact absurd hsplit (List.splitOnP_ne_nil _ _)
        | cons first more => rfl

/-- A carriage return at the end of a line is blank, and makes no difference. -/
theorem ofText_withoutReturn (line : List Char) :
    Line.ofText (withoutReturn line) = Line.ofText line := by
  unfold withoutReturn
  by_cases hreturn : line.getLast? = some '\r'
  · rcases List.getLast?_eq_some_iff.1 hreturn with ⟨start, rfl⟩
    have htrim : Text.trim (start ++ ['\r']) = Text.trim start :=
      Text.trim_append_blank start '\r' (by decide)
    rw [if_pos hreturn, List.dropLast_concat]
    simp only [Line.ofText, htrim]
  · rw [if_neg hreturn]

/-- Neither a carriage return at the end of a line nor an empty line at the end
    of the file makes a difference to a load. -/
theorem loadLines_ended (env : Environment) (number : Nat) (pieces : List (List Char)) :
    loadLines env number (ended pieces) = loadLines env number pieces := by
  fun_induction ended pieces generalizing env number with
  | case1 => rfl
  | case2 => rfl
  | case3 last hlast => rfl
  | case4 piece next rest ih =>
      -- The induction is on the pieces. This one has its line feed, and the rest is
      -- left.
      rw [loadLines, loadLines, ofText_withoutReturn]
      cases Line.ofText piece with
      | skipped => exact ih env (number + 1)
      | assignment name value => exact ih (env.set name value) (number + 1)
      | noAssignment => rfl
      | emptyName => rfl

/-- Loading a file goes through the lines of its text. -/
theorem load_eq_loadLines (env : Environment) (content : String) :
    load env content = loadLines env 1 (textLines content.toList) := by
  rw [load, lines_eq_splitOn, textLines, loadLines_ended]

/-! ## Quotes -/

/-- A value and what is left of it without the quotes around it, which are of
    the same kind. -/
inductive Unquotes : List Char → List Char → Prop where
  | quoted (quote : Char) (kind : quote = '"' ∨ quote = '\'') (inner : List Char) :
      Unquotes (quote :: (inner ++ [quote])) inner
  | bare (value : List Char) (unquoted : ∀ quote inner, quote = '"' ∨ quote = '\'' →
      value ≠ quote :: (inner ++ [quote])) : Unquotes value value

theorem unquote_quoted (quote : Char) (kind : quote = '"' ∨ quote = '\'') (inner : List Char) :
    unquote (quote :: (inner ++ [quote])) = inner := by
  have hlast : (inner ++ [quote]).getLast? = some quote := List.getLast?_concat
  simp only [unquote, hlast, kind, decide_true, Bool.or_eq_true, decide_eq_true_eq, Bool.and_true,
    if_true, List.dropLast_concat]

/-- A value that is not in quotes is left alone. -/
theorem unquote_bare (value : List Char) (unquoted : ∀ quote inner,
    quote = '"' ∨ quote = '\'' → value ≠ quote :: (inner ++ [quote])) :
    unquote value = value := by
  cases value with
  | nil => rfl
  | cons first rest =>
      -- With the same quote at both ends the value would be in quotes.
      have hnot : ¬ ((first = '"' ∨ first = '\'') ∧ rest.getLast? = some first) := by
        intro h
        rcases List.getLast?_eq_some_iff.1 h.2 with ⟨inner, rfl⟩
        exact unquoted first inner h.1 rfl
      rw [unquote, if_neg (by simpa using hnot)]

theorem unquotes_unquote (value : List Char) : Unquotes value (unquote value) := by
  by_cases h : ∃ quote inner, (quote = '"' ∨ quote = '\'') ∧ value = quote :: (inner ++ [quote])
  · rcases h with ⟨quote, inner, kind, rfl⟩
    rw [unquote_quoted quote kind inner]
    exact .quoted quote kind inner
  · have unquoted : ∀ quote inner, quote = '"' ∨ quote = '\'' →
        value ≠ quote :: (inner ++ [quote]) :=
      fun quote inner kind heq => h ⟨quote, inner, kind, heq⟩
    rw [unquote_bare value unquoted]
    exact .bare value unquoted

/-- A value loses the quotes around it if there are any, and one pair of them
    only. -/
theorem unquotes_iff (value inner : List Char) : Unquotes value inner ↔ unquote value = inner := by
  constructor
  · intro h
    cases h with
    | quoted quote kind => exact unquote_quoted quote kind inner
    | bare _ unquoted => exact unquote_bare value unquoted
  · intro h
    rw [← h]
    exact unquotes_unquote value

/-! ## Sayings -/

/-- Whether a line is empty or a comment. -/
def IsSkipped (line : List Char) : Prop :=
  Text.trim line = [] ∨ (Text.trim line).head? = some '#'

/-- What a line says. A name is what stands before the first equals sign. -/
inductive Says (line : List Char) : Line → Prop where
  | skipped (skip : IsSkipped line) : Says line .skipped
  | noAssignment (goes : ¬ IsSkipped line) (none : '=' ∉ Text.trim line) :
      Says line .noAssignment
  | emptyName (goes : ¬ IsSkipped line) (before rest : List Char)
      (apart : Text.trim line = before ++ '=' :: rest) (first : '=' ∉ before)
      (blank : ∀ c ∈ before, Text.isBlank c = true) : Says line .emptyName
  | assignment (goes : ¬ IsSkipped line) (before rest value : List Char)
      (apart : Text.trim line = before ++ '=' :: rest) (first : '=' ∉ before)
      (named : ∃ c ∈ before, Text.isBlank c = false)
      (unquotes : Unquotes (Text.trim rest) value) :
      Says line (.assignment (String.ofList (Text.trim before)) (String.ofList value))

/-- An empty line and a comment are skipped. -/
theorem ofText_of_skipped (line : List Char) (skip : IsSkipped line) :
    Line.ofText line = .skipped := by
  have hskip : (Text.trim line).isEmpty = true ∨ (Text.trim line).head? = some '#' :=
    skip.imp_left List.isEmpty_iff.2
  simp only [Line.ofText, Bool.or_eq_true, decide_eq_true_eq, if_pos hskip]

/-- What a line that is not skipped is taken for. -/
theorem ofText_of_goes (line : List Char) (goes : ¬ IsSkipped line) :
    Line.ofText line =
      if '=' ∈ Text.trim line then
        let name := Text.trim ((Text.trim line).takeWhile (· ≠ '='))
        let value := ((Text.trim line).dropWhile (· ≠ '=')).drop 1
        if name = [] then .emptyName
        else .assignment (String.ofList name) (String.ofList (unquote (Text.trim value)))
      else .noAssignment := by
  have hgoes : ¬ ((Text.trim line).isEmpty = true ∨ (Text.trim line).head? = some '#') :=
    fun h => goes (h.imp_left List.isEmpty_iff.1)
  simp only [Line.ofText, Bool.or_eq_true, decide_eq_true_eq, if_neg hgoes]
  by_cases hequals : '=' ∈ Text.trim line
  · simp only [List.contains_eq_mem, hequals, decide_true, Bool.not_true, Bool.false_eq_true,
      if_false, if_true, List.isEmpty_iff]
  · simp only [List.contains_eq_mem, hequals, decide_false, Bool.not_false, if_true, if_false]

/-- A text that is taken apart at its first equals sign. -/
theorem split_at_equals (before rest : List Char) (first : '=' ∉ before) :
    (before ++ '=' :: rest).takeWhile (· ≠ '=') = before ∧
      ((before ++ '=' :: rest).dropWhile (· ≠ '=')).drop 1 = rest := by
  have hbefore : ∀ c ∈ before, decide (c ≠ '=') = true := by
    intro c hc
    rw [decide_eq_true_eq]
    rintro rfl
    exact first hc
  rw [List.takeWhile_append_of_pos hbefore, List.dropWhile_append_of_pos hbefore]
  simp only [List.takeWhile_cons, List.dropWhile_cons, ne_eq, not_true_eq_false, decide_false,
    Bool.false_eq_true, if_false, List.append_nil, List.drop_succ_cons, List.drop_zero, and_self]

/-- A line that is taken apart at its first equals sign assigns, if there is a
    name in front of it. -/
theorem ofText_of_apart (line before rest : List Char) (goes : ¬ IsSkipped line)
    (apart : Text.trim line = before ++ '=' :: rest) (first : '=' ∉ before) :
    Line.ofText line =
      if Text.trim before = [] then .emptyName
      else .assignment (String.ofList (Text.trim before))
        (String.ofList (unquote (Text.trim rest))) := by
  have hmem : '=' ∈ Text.trim line := by
    rw [apart]
    exact List.mem_append_right before List.mem_cons_self
  have hsplit := split_at_equals before rest first
  rw [ofText_of_goes line goes, if_pos hmem, apart, hsplit.1, hsplit.2]

/-- A line is taken for whatever it says, one case per rule. -/
theorem ofText_of_saying (line : List Char) (saying : Line) (h : Says line saying) :
    Line.ofText line = saying := by
  cases h with
  | skipped skip => exact ofText_of_skipped line skip
  | noAssignment goes none => rw [ofText_of_goes line goes, if_neg none]
  | emptyName goes before rest apart first blank =>
      rw [ofText_of_apart line before rest goes apart first,
        if_pos ((Text.trim_eq_nil_iff before).2 blank)]
  | assignment goes before rest value apart first named unquotes =>
      rcases named with ⟨c, hc, hnot⟩
      -- A name has something that is not blank, so trimming leaves something of it.
      have hname : Text.trim before ≠ [] := by
        intro hnil
        rw [(Text.trim_eq_nil_iff before).1 hnil c hc] at hnot
        cases hnot
      rw [ofText_of_apart line before rest goes apart first, if_neg hname,
        (unquotes_iff _ _).1 unquotes]

/-- A line says what it is taken for. The cases are those of the reader, and in
    each of them one rule applies. -/
theorem says_ofText (line : List Char) : Says line (Line.ofText line) := by
  by_cases skip : IsSkipped line
  · rw [ofText_of_skipped line skip]
    exact .skipped skip
  by_cases hequals : '=' ∈ Text.trim line
  · -- The first equals sign takes the line apart.
    rcases List.eq_append_cons_of_mem hequals with ⟨before, rest, apart, first⟩
    rw [ofText_of_apart line before rest skip apart first]
    by_cases hname : Text.trim before = []
    · rw [if_pos hname]
      exact .emptyName skip before rest apart first ((Text.trim_eq_nil_iff before).1 hname)
    · rw [if_neg hname]
      refine .assignment skip before rest _ apart first ?_ (unquotes_unquote _)
      -- If all of the name was blank, trimming would have left nothing.
      by_contra hblank
      refine hname ((Text.trim_eq_nil_iff before).2 fun c hc => ?_)
      by_contra hnot
      exact hblank ⟨c, hc, eq_false_of_ne_true hnot⟩
  · rw [ofText_of_goes line skip, if_neg hequals]
    exact .noAssignment skip hequals

/-- A line is taken for what it says, so it says exactly one thing. -/
theorem ofText_eq_iff (line : List Char) (saying : Line) :
    Line.ofText line = saying ↔ Says line saying := by
  constructor
  · intro h
    rw [← h]
    exact says_ofText line
  · exact ofText_of_saying line saying

end EnvFile

end WhereClause
