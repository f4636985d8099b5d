import Mathlib.Data.String.Basic
import WhereClause.Proofs.Lexing

/-!
# Escaping Loses Nothing

What can be told of a text by its escaped form, which is everything.

An escaped text is read in units. A backslash with a letter of the table behind
it is one, and every other character is one by itself. The units are found from
left to right, so a backslash that ends a unit does not begin another, and in an
escaped text they are the escaped forms of the single characters. So undoing the
table gives the text back, and a quote or a percent sign only occurs as the
second half of a unit.

Whether a text is escaped at all is decided by a list of characters, while the
table decides what it is escaped to. The two have to agree. If a character of
the table was not on the list, a text could be given back with a quote in it
that is not escaped. If one on the list was not in the table, nothing would be
wrong with the text, but it would have been written anew for nothing.

Since a text in quotes can be read back, different texts have different quoted
forms, and so have different names, although backticks are doubled in them after
everything else has been escaped.

## Main definitions

* `units`: The units of an escaped text.

## Theorems

* `flatten_units`, `units_escapeChars`: No character is in no unit or in two,
  and the units of an escaped text are its characters escaped.
* `mem_unit`: What can be in a unit of an escaped text.
* `needsEscape_eq`: The list and the table agree.
* `escapeText_eq_same_iff`, `text_escapeText`: A text is given back exactly if
  escaping would not change it, and the result is the same either way.
* `quoteText_inj`, `quoteName_inj`: Different texts and names have different
  quoted forms.
* `escape_is_lossless`: All of it.
-/

namespace WhereClause

namespace Sql

/-! ## Units -/

/-- The units of an escaped text: backslashes together with a letter of the
    table behind them, and single characters. -/
def units : List Char → List (List Char)
  | [] => []
  | [c] => [[c]]
  | c :: letter :: rest =>
      if c = '\\' ∧ (original letter).isSome then [c, letter] :: units rest
      else [c] :: units (letter :: rest)

theorem units_cons_of_ne (c : Char) (hc : c ≠ '\\') (s : List Char) :
    units (c :: s) = [c] :: units s := by
  cases s with
  | nil => rfl
  | cons d rest => rw [units, if_neg fun h => hc h.1]

/-- A backslash and a letter of the table are a unit. -/
theorem units_backslash (letter : Char) (h : (original letter).isSome) (s : List Char) :
    units ('\\' :: letter :: s) = ['\\', letter] :: units s := by
  rw [units, if_pos ⟨rfl, h⟩]

/-- Put together again, the units are the text. -/
theorem flatten_units (s : List Char) : (units s).flatten = s := by
  fun_induction units s with
  | case1 => rfl
  | case2 c => rfl
  | case3 c letter rest h ih => rw [List.flatten_cons, ih]; rfl
  | case4 c letter rest h ih => rw [List.flatten_cons, ih]; rfl

/-- The units of an escaped text are its characters, each of them escaped. -/
theorem units_escapeChars (s : List Char) : units (escapeChars s) = s.map escapeChar := by
  induction s with
  | nil => rfl
  | cons c s ih =>
      rw [List.map_cons, escapeChar]
      rcases h : special c with _ | letter
      · rw [escapeChars_cons_of_none c h, units_cons_of_ne c (ne_of_special_none c h).1, ih]
      · -- The letter is one of the table, so it forms a unit with the backslash.
        have hletter : (original letter).isSome = true := by
          rw [original_of_special c letter h]
          rfl
        rw [escapeChars_cons_of_some c letter h, units_backslash letter hletter, ih]

/-- The control characters that have to be escaped. -/
def controls : List Char :=
  ['\x00', '\x08', '\t', '\x1a', '\n', '\r']

theorem isSome_special_controls (c : Char) (hc : c ∈ controls) : (special c).isSome = true := by
  have hall : (controls.all fun c => (special c).isSome) = true := by decide
  exact List.all_eq_true.1 hall c hc

-- No control character stands behind a backslash.
theorem isNone_original_controls (c : Char) (hc : c ∈ controls) : (original c).isNone = true := by
  have hall : (controls.all fun c => (original c).isNone) = true := by decide
  exact List.all_eq_true.1 hall c hc

/-- A quote or a percent sign in an escaped text is the second half of a unit,
    and none of the control characters is in a unit. -/
theorem mem_unit (s unit : List Char) (hunit : unit ∈ units (escapeChars s)) (c : Char)
    (hc : c ∈ unit) : (c ∈ ['"', '\'', '%'] → unit = ['\\', c]) ∧ c ∉ controls := by
  have hquotes : (['"', '\'', '%'].all fun c => (special c).isSome) = true := by decide
  rw [units_escapeChars] at hunit
  rcases List.mem_map.1 hunit with ⟨d, _, rfl⟩
  rw [escapeChar] at hc ⊢
  rcases hd : special d with _ | letter
  · -- A character that stands for itself is not in the table.
    have hnot : (special d).isSome ≠ true := by
      rw [hd]
      decide
    rw [hd] at hc
    rw [List.mem_singleton.1 hc]
    exact ⟨fun hmem => absurd (List.all_eq_true.1 hquotes d hmem) hnot,
      fun hmem => absurd (isSome_special_controls d hmem) hnot⟩
  · rw [hd] at hc
    simp only [List.mem_cons, List.not_mem_nil, or_false] at hc
    -- The unit is a backslash and the letter behind it.
    rcases hc with rfl | rfl
    · exact ⟨fun hmem => absurd hmem (by decide), by decide⟩
    · refine ⟨fun _ => rfl, fun hmem => ?_⟩
      have hletter := isNone_original_controls c hmem
      rw [original_of_special d c hd] at hletter
      cases hletter

/-- No control character is left in an escaped text. -/
theorem not_mem_escapeChars (s : List Char) (c : Char) (hc : c ∈ controls) :
    c ∉ escapeChars s := by
  intro hmem
  rw [← flatten_units (escapeChars s)] at hmem
  rcases List.mem_flatten.1 hmem with ⟨unit, hunit, hin⟩
  exact (mem_unit s unit hunit c hin).2 hc

/-! ## The table and the list -/

/-- The characters that a text is looked through for are those of the table. -/
theorem needsEscape_eq (c : Char) : needsEscape c = (special c).isSome := by
  rw [special.eq_def]
  split
  case h_11 =>
    -- The default of the table: the character is none of those before.
    rw [needsEscape, Option.isSome_none, List.contains_eq_mem, decide_eq_false_iff_not]
    simp only [List.mem_cons, List.not_mem_nil, or_false, not_or]
    refine ⟨?_, ?_, ?_, ?_, ?_, ?_, ?_, ?_, ?_, ?_⟩ <;> assumption
  all_goals rfl

theorem any_needsEscape (s : String) : s.toList.any needsEscape = !isPlain s := by
  rw [isPlain, List.not_all_eq_any_not]
  refine congrArg (List.any s.toList) (funext fun c => ?_)
  rw [needsEscape_eq, Option.not_isNone]

theorem escape_eq_self_iff (s : String) : escape s = s ↔ isPlain s = true := by
  rw [isPlain, ← escapeChars_eq_self_iff, escape, String.ofList_eq]

/-- A text is given back exactly if escaping it character by character would
    not change it. -/
theorem escapeText_eq_same_iff (s : String) : escapeText s = .same s ↔ escape s = s := by
  rw [escape_eq_self_iff, escapeText, any_needsEscape]
  cases isPlain s with
  | false => exact ⟨nofun, nofun⟩
  | true => exact ⟨fun _ => rfl, fun _ => rfl⟩

/-- Whether or not a text is given back, it is the escaped text. -/
theorem text_escapeText (s : String) : (escapeText s).text = escape s := by
  by_cases h : s.toList.any needsEscape = true
  · rw [escapeText, if_pos h]
    rfl
  · -- Nothing is to be escaped, so the text is given back.
    have hsame : escapeText s = .same s := if_neg h
    rw [hsame]
    exact ((escapeText_eq_same_iff s).1 hsame).symm

/-! ## Different texts -/

theorem unescape_escape (s : String) : String.ofList (unescape (escape s).toList) = s := by
  rw [escape, String.toList_ofList, unescape_escapeChars, String.ofList_toList]

/-- Escaping works on either part of a text alone. -/
theorem escape_append (s t : String) : escape (s ++ t) = escape s ++ escape t := by
  rw [escape, String.toList_append, escapeChars_append, String.ofList_append]
  rfl

/-- Different characters escape to different ones, since the table can be
    undone. -/
theorem escapeChars_inj (s t : List Char) : escapeChars s = escapeChars t ↔ s = t := by
  refine ⟨fun h => ?_, congrArg escapeChars⟩
  have hread := congrArg unescape h
  rwa [unescape_escapeChars, unescape_escapeChars] at hread

theorem doubleBackticks_inj (s t : List Char) : doubleBackticks s = doubleBackticks t ↔ s = t := by
  refine ⟨fun h => ?_, congrArg doubleBackticks⟩
  have hread := congrArg singleBackticks h
  rwa [singleBackticks_doubleBackticks, singleBackticks_doubleBackticks] at hread

/-- Different texts have different quoted forms. -/
theorem quoteText_inj (s t : String) : quoteText s = quoteText t ↔ s = t := by
  rw [quoteText, quoteText, String.ofList_inj, List.append_cancel_right_eq, List.cons_inj_right,
    escapeChars_inj, String.toList_inj]

/-- So have different names. Both steps of quoting a name can be undone. -/
theorem quoteName_inj (s t : String) : quoteName s = quoteName t ↔ s = t := by
  rw [quoteName, quoteName, String.ofList_inj, List.append_cancel_right_eq, List.cons_inj_right,
    doubleBackticks_inj, escapeChars_inj, String.toList_inj]

/-- Escaping loses nothing. It can be undone, works on either part of a text
    alone, and leaves quotes, percent signs and control characters only as units
    with a backslash, if at all. A text is given back as it is when escaping
    would not change it, and then only, so the result is the same either way.
    Different names and texts are different in quotes. -/
theorem escape_is_lossless (s t : String) :
    String.ofList (unescape (escape s).toList) = s ∧
      escape (s ++ t) = escape s ++ escape t ∧
      (∀ c ∈ controls, c ∉ (escape s).toList) ∧
      (units (escape s).toList).flatten = (escape s).toList ∧
      (∀ unit ∈ units (escape s).toList, ∀ c ∈ ['"', '\'', '%'], c ∈ unit → unit = ['\\', c]) ∧
      (escapeText s = .same s ↔ escape s = s) ∧
      (escapeText s).text = escape s ∧
      (quoteName s = quoteName t ↔ s = t) ∧
      (mySqlLiteral (.text s) = mySqlLiteral (.text t) ↔ s = t) := by
  have htoList : (escape s).toList = escapeChars s.toList := by
    rw [escape, String.toList_ofList]
  refine ⟨unescape_escape s, escape_append s t, fun c hc => ?_, flatten_units _, ?_,
    escapeText_eq_same_iff s, text_escapeText s, quoteName_inj s t, ?_⟩
  · rw [htoList]
    exact not_mem_escapeChars s.toList c hc
  · intro unit hunit c hquote hc
    rw [htoList] at hunit
    exact (mem_unit s.toList unit hunit c hc).1 hquote
  · rw [mySqlLiteral, mySqlLiteral]
    exact quoteText_inj s t

/-- A text that ends in a backslash, with all that is special in it. -/
theorem escape_is_lossless_hostile :
    '\n' ∈ controls ∧ '\n' ∉ (escape "100%\n\"\\").toList ∧
      ['\\', '"'] ∈ units (escape "100%\n\"\\").toList ∧
      (∀ c ∈ ['"', '\'', '%'], c ∈ ['\\', '"'] → ['\\', '"'] = ['\\', c]) := by
  have hunit : ['\\', '"'] ∈ units (escape "100%\n\"\\").toList := by decide
  have h := escape_is_lossless "100%\n\"\\" ""
  exact ⟨by decide, h.2.2.1 '\n' (by decide), hunit, h.2.2.2.2.1 _ hunit⟩

end Sql

end WhereClause
