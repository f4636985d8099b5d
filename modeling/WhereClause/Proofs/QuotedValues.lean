import WhereClause.Proofs.Assignments

/-!
# Values in Quotes

How to write a file so that any value is loaded as it is.

A value that is put between two quotes of the same kind comes back whatever it
holds, as long as it has no line feed. There are no escapes, so the quotes do
not work by marking where the value ends. They work because a line is trimmed,
split at its first equals sign and freed of one pair of quotes, in this order.
Blanks at the ends of the value are protected by the quotes around them, an
equals sign in it comes after the first one, and quotes that are part of it are
inside of the pair that is taken off. The kind of the quotes makes no difference
either, even if the value has quotes of that kind itself.

The second half is about taking the quotes off where texts are rows of bytes. A
part of a text is then cut out between two positions, and there is no such part
if one of them is inside of a character or beyond the end. Cutting off one byte
at either end is safe only because a quote is one byte long, and because a text
that is a single quote begins and ends with one but has no pair of them.

## Main definitions

* `Entry`: A name and a value that can be written with quotes.
* `Entry.line`, `Entry.text`, `written`: The line of an entry, without and with
  its end, and the text of several.
* `between?`, `isEnclosed`, `unquoteBytes?`: Quotes taken off by positions of
  bytes.

## Theorems

* `textLines_written`: The lines of a written text.
* `says_line`: The line of an entry says what was written.
* `get?_written`: Loading a written text gives the values back.
* `unquoteBytes?_eq`: Taking quotes off by positions of bytes cannot fail.
* `quoted_values_are_faithful`: Both of these.
-/

namespace WhereClause

namespace EnvFile

/-! ## Entries -/

/-- A name and a value to be written into a file, with the quotes to put around
    the value and the end of the line. -/
structure Entry where
  name : String
  value : String
  quote : Char
  /-- Whether a carriage return stands before the line feed. -/
  returns : Bool
  named : name.toList ≠ []
  trimmed : Text.trim name.toList = name.toList
  noEquals : '=' ∉ name.toList
  nameFits : '\n' ∉ name.toList
  noComment : name.toList.head? ≠ some '#'
  valueFits : '\n' ∉ value.toList
  kind : quote = '"' ∨ quote = '\''

namespace Entry

variable (entry : Entry)

/-- The value between its quotes. -/
def quoted : List Char :=
  entry.quote :: (entry.value.toList ++ [entry.quote])

/-- The line of an entry. -/
def line : List Char :=
  entry.name.toList ++ '=' :: entry.quoted

/-- The line of an entry with its end. -/
def text : List Char :=
  entry.line ++ if entry.returns then ['\r', '\n'] else ['\n']

theorem isBlank_quote : Text.isBlank entry.quote = false := by
  rcases entry.kind with h | h <;> rw [h] <;> decide

theorem quote_ne : entry.quote ≠ '\n' ∧ entry.quote ≠ '\r' := by
  rcases entry.kind with h | h <;> rw [h] <;> decide

theorem getLast?_line : entry.line.getLast? = some entry.quote := by
  have hline : entry.line =
      (entry.name.toList ++ '=' :: entry.quote :: entry.value.toList) ++ [entry.quote] := by
    simp only [line, quoted, List.append_assoc, List.cons_append]
  rw [hline, List.getLast?_concat]

/-- A line begins with its name, which has no blank in front. -/
theorem exists_head : ∃ c rest, entry.name.toList = c :: rest ∧ entry.line.head? = some c ∧
    Text.isBlank c = false := by
  rcases hname : entry.name.toList with _ | ⟨c, rest⟩
  · exact absurd hname entry.named
  · have hhead := Text.isBlank_head?_trim entry.name.toList
    rw [entry.trimmed, hname] at hhead
    refine ⟨c, rest, rfl, ?_, hhead c rfl⟩
    rw [line, hname]
    rfl

/-- No end of a line is blank, so trimming leaves it alone. -/
theorem trim_line : Text.trim entry.line = entry.line := by
  rcases entry.exists_head with ⟨c, rest, _, hhead, hblank⟩
  refine Text.trim_eq_self _ (fun d hd => ?_) fun d hd => ?_
  · rw [hhead] at hd
    rw [← Option.some.inj hd]
    exact hblank
  · rw [getLast?_line] at hd
    rw [← Option.some.inj hd]
    exact entry.isBlank_quote

/-- Nor is either end of the value in its quotes. -/
theorem trim_quoted : Text.trim entry.quoted = entry.quoted := by
  have hlast : entry.quoted.getLast? = some entry.quote := by
    rw [quoted, ← List.cons_append, List.getLast?_concat]
  refine Text.trim_eq_self _ (fun d hd => ?_) fun d hd => ?_
  · rw [← Option.some.inj hd]
    exact entry.isBlank_quote
  · rw [hlast] at hd
    rw [← Option.some.inj hd]
    exact entry.isBlank_quote

/-- The line of an entry says that the name has the value, character for
    character. -/
theorem says_line : Assigns entry.line entry.name entry.value := by
  rcases entry.exists_head with ⟨c, rest, hname, hhead, hblank⟩
  -- The line begins with the name, which is there and begins no comment.
  have goes : ¬ IsSkipped entry.line := by
    unfold IsSkipped
    rw [trim_line, hhead]
    rintro (hnil | hcomment)
    · rw [hnil] at hhead
      cases hhead
    · refine entry.noComment ?_
      rw [hname, ← hcomment]
      rfl
  have hvalue : Unquotes (Text.trim entry.quoted) entry.value.toList := by
    rw [trim_quoted]
    exact .quoted entry.quote entry.kind entry.value.toList
  have hsays := Says.assignment goes entry.name.toList entry.quoted entry.value.toList
    entry.trim_line entry.noEquals ⟨c, by rw [hname]; exact List.mem_cons_self, hblank⟩ hvalue
  rwa [entry.trimmed, String.ofList_toList, String.ofList_toList] at hsays

theorem not_isBad_line : ¬ IsBad entry.line :=
  not_isBad_of_assignment (ofText_of_saying _ _ entry.says_line)

/-- A line of its own has no line feed in it. -/
theorem not_mem_line : '\n' ∉ entry.line := by
  intro h
  rcases List.mem_append.1 h with hname | hrest
  · exact entry.nameFits hname
  · simp only [quoted, List.mem_cons, List.mem_append, List.not_mem_nil, or_false] at hrest
    rcases hrest with hequals | hopen | hvalue | hclose
    · cases hequals
    · exact entry.quote_ne.1 hopen.symm
    · exact entry.valueFits hvalue
    · exact entry.quote_ne.1 hclose.symm

end Entry

/-! ## Written texts -/

/-- The text of several entries. -/
def written (entries : List Entry) : String :=
  String.ofList (entries.flatMap Entry.text)

theorem splitOn_append_feed (piece rest : List Char) (h : '\n' ∉ piece) :
    (piece ++ '\n' :: rest).splitOn '\n' = piece :: rest.splitOn '\n' := by
  simp only [← lines_eq_splitOn]
  -- The induction passes the characters of the piece up to the line feed.
  induction piece with
  | nil => rw [List.nil_append, lines, if_pos rfl]
  | cons c piece ih =>
      have hc : c ≠ '\n' := by
        rintro rfl
        exact h List.mem_cons_self
      rw [List.cons_append, lines, if_neg hc, ih fun hmem => h (List.mem_cons_of_mem c hmem)]

/-- A line with its end in front of a text is a line in front of the others. -/
theorem textLines_append_feed (piece rest : List Char) (h : '\n' ∉ piece) :
    textLines (piece ++ '\n' :: rest) = withoutReturn piece :: textLines rest := by
  rw [textLines, textLines, splitOn_append_feed piece rest h]
  cases hrest : rest.splitOn '\n' with
  | nil =>
      rw [List.splitOn_eq_splitOnP] at hrest
      exact absurd hrest (List.splitOnP_ne_nil _ _)
  | cons next more => rw [ended]

/-- The line of an entry is read back without its end, be it of one character or
    of two. -/
theorem textLines_text (entry : Entry) (rest : List Char) :
    textLines (entry.text ++ rest) = entry.line :: textLines rest := by
  unfold Entry.text
  by_cases hreturns : entry.returns = true
  · have hline : '\n' ∉ entry.line ++ ['\r'] := by
      intro h
      rcases List.mem_append.1 h with hline | hreturn
      · exact entry.not_mem_line hline
      · cases List.mem_singleton.1 hreturn
    have hpiece := textLines_append_feed (entry.line ++ ['\r']) rest hline
    rw [withoutReturn, List.getLast?_concat, if_pos rfl, List.dropLast_concat] at hpiece
    rw [if_pos hreturns, ← hpiece]
    simp only [List.append_assoc, List.cons_append, List.nil_append]
  · have hpiece := textLines_append_feed entry.line rest entry.not_mem_line
    -- The quote at the end of the line is no carriage return.
    have hlast : entry.line.getLast? ≠ some '\r' := by
      rw [entry.getLast?_line]
      exact fun h => entry.quote_ne.2 (Option.some.inj h)
    rw [withoutReturn, if_neg hlast] at hpiece
    rw [if_neg hreturns, ← hpiece]
    simp only [List.append_assoc, List.cons_append, List.nil_append]

/-- The lines of a written text are those of its entries. -/
theorem textLines_written (entries : List Entry) :
    textLines (written entries).toList = entries.map Entry.line := by
  rw [written, String.toList_ofList]
  induction entries with
  | nil => rfl
  | cons entry rest ih => rw [List.flatMap_cons, textLines_text, ih, List.map_cons]

/-- No line of a written text is bad. -/
theorem not_isBad_written (entries : List Entry) :
    ∀ line ∈ entries.map Entry.line, ¬ IsBad line := by
  intro line hline
  rcases List.mem_map.1 hline with ⟨entry, _, rfl⟩
  exact entry.not_isBad_line

/-- The entry that is written last for a name is the one that assigns it
    last. -/
theorem assigns_line_iff (entry : Entry) (name value : String) :
    Assigns entry.line name value ↔ entry.name = name ∧ entry.value = value := by
  constructor
  · intro h
    have heq := (ofText_of_saying _ _ entry.says_line).symm.trans (ofText_of_saying _ _ h)
    injection heq with hname hvalue
    exact ⟨hname, hvalue⟩
  · rintro ⟨rfl, rfl⟩
    exact entry.says_line

/-- After a written text has been loaded, a name has the value of the last
    entry for it. -/
theorem get?_written (env : Environment) (entries : List Entry) (name : String) :
    (load env (written entries)).1.get? name =
      ((entries.reverse.find? fun entry => entry.name = name).map Entry.value).or
        (env.get? name) := by
  have hload := overrides_loadLines env 1 (entries.map Entry.line)
  rw [sound_eq_self _ (not_isBad_written entries)] at hload
  rw [load_eq_loadLines, textLines_written]
  cases hfind : entries.reverse.find? fun entry => entry.name = name with
  | none =>
      rw [List.find?_eq_none] at hfind
      -- No entry has the name, so no line assigns it.
      refine hload.kept name fun line hline value hassigns => ?_
      rcases List.mem_map.1 hline with ⟨entry, hentry, rfl⟩
      refine hfind entry (List.mem_reverse.2 hentry) ?_
      rw [decide_eq_true_eq]
      exact ((assigns_line_iff entry name value).1 hassigns).1
  | some entry =>
      rcases List.find?_eq_some_iff_append.1 hfind with ⟨hname, after, before, hapart, hother⟩
      rw [decide_eq_true_eq] at hname
      -- Read from the end, the first entry for the name is the last one.
      have hentries : entries = before.reverse ++ entry :: after.reverse := by
        rw [← List.reverse_reverse entries, hapart, List.reverse_append, List.reverse_cons,
          List.append_assoc, List.singleton_append]
      refine hload.assigned name entry.value ⟨before.reverse.map Entry.line, entry.line,
        after.reverse.map Entry.line, ?_, (assigns_line_iff entry _ _).2 ⟨hname, rfl⟩, ?_⟩
      · rw [hentries, List.map_append, List.map_cons]
      · intro line hline later hassigns
        rcases List.mem_map.1 hline with ⟨other, hmem, rfl⟩
        have hnot := hother other (List.mem_reverse.1 hmem)
        rw [((assigns_line_iff other name later).1 hassigns).1] at hnot
        simp at hnot

/-! ## Bytes -/

/-- The part of a text between two positions, which are counted in bytes. There
    is none unless they are in order, and each of them is the start of a
    character or the end of the text. -/
def between? (s : String) (start stop : Nat) : Option String :=
  if h : start ≤ stop ∧ String.Pos.Raw.IsValid s ⟨start⟩ ∧ String.Pos.Raw.IsValid s ⟨stop⟩ then
    some (s.slice ⟨⟨start⟩, h.2.1⟩ ⟨⟨stop⟩, h.2.2⟩ h.1).copy
  else none

/-- Whether a quote stands at both ends of a text of two bytes at least. -/
def isEnclosed (value : String) (quote : Char) : Bool :=
  2 ≤ value.utf8ByteSize && value.toList.head? = some quote &&
    value.toList.getLast? = some quote

/-- Take off the quotes around a value by cutting off a byte at either end. -/
def unquoteBytes? (value : String) : Option String :=
  match ['"', '\''].find? (isEnclosed value) with
  | some _ => between? value 1 (value.utf8ByteSize - 1)
  | none => some value

/-- What is put between two texts is found there again. -/
theorem between?_append (first middle last : String) :
    between? (first ++ (middle ++ last)) first.utf8ByteSize
      (first.utf8ByteSize + middle.utf8ByteSize) = some middle := by
  have hsize : (first ++ middle).utf8ByteSize = first.utf8ByteSize + middle.utf8ByteSize :=
    String.utf8ByteSize_append
  have happend : first ++ (middle ++ last) = first ++ middle ++ last :=
    (String.append_assoc ..).symm
  have hstart : String.Pos.Raw.IsValid (first ++ (middle ++ last)) ⟨first.utf8ByteSize⟩ :=
    String.Pos.Raw.isValid_iff_exists_append.2 ⟨first, middle ++ last, rfl, rfl⟩
  have hstop : String.Pos.Raw.IsValid (first ++ (middle ++ last))
      ⟨first.utf8ByteSize + middle.utf8ByteSize⟩ :=
    String.Pos.Raw.isValid_iff_exists_append.2
      ⟨first ++ middle, last, happend, String.Pos.Raw.ext hsize.symm⟩
  have hcopy : ∃ hle, ((first ++ (middle ++ last)).slice ⟨⟨first.utf8ByteSize⟩, hstart⟩
      ⟨⟨first.utf8ByteSize + middle.utf8ByteSize⟩, hstop⟩ hle).copy = middle :=
    String.copy_slice_eq_iff_splits.2
      ⟨first, last, ⟨rfl, rfl⟩, ⟨happend, String.Pos.Raw.ext hsize.symm⟩⟩
  rcases hcopy with ⟨hle, hcopy⟩
  rw [between?, dif_pos ⟨hle, hstart, hstop⟩, hcopy]

theorem utf8ByteSize_quote (quote : Char) (kind : quote = '"' ∨ quote = '\'') :
    (String.singleton quote).utf8ByteSize = 1 := by
  rw [String.utf8ByteSize_singleton]
  rcases kind with h | h <;> rw [h] <;> rfl

/-- A value in quotes is put together from three texts. -/
theorem eq_append_of_quoted (value : String) (quote : Char) (inner : List Char)
    (h : value.toList = quote :: (inner ++ [quote])) :
    value = String.singleton quote ++ (String.ofList inner ++ String.singleton quote) := by
  rw [← String.toList_inj, h]
  simp only [String.toList_ofList, String.toList_append, String.toList_singleton,
    List.singleton_append]

/-- A value is in quotes exactly if it is such a text. The bound on its length
    excludes a single quote, which is both the first and the last character. -/
theorem isEnclosed_iff (value : String) (quote : Char) (kind : quote = '"' ∨ quote = '\'') :
    isEnclosed value quote = true ↔ ∃ inner, value.toList = quote :: (inner ++ [quote]) := by
  have hquote := utf8ByteSize_quote quote kind
  unfold isEnclosed
  rw [Bool.and_eq_true, Bool.and_eq_true, decide_eq_true_eq, decide_eq_true_eq, decide_eq_true_eq]
  constructor
  · rintro ⟨⟨hsize, hhead⟩, hlast⟩
    rcases List.head?_eq_some_iff.1 hhead with ⟨rest, hrest⟩
    rw [hrest] at hlast
    rcases List.eq_nil_or_concat rest with rfl | ⟨inner, last, rfl⟩
    · -- A single quote is one byte long.
      have hvalue : value = String.singleton quote := by
        rw [← String.toList_inj, hrest, String.toList_singleton]
      rw [hvalue] at hsize
      omega
    · have hquoted : quote :: inner.concat last = (quote :: inner) ++ [last] := by
        rw [List.concat_eq_append, List.cons_append]
      rw [hquoted, List.getLast?_concat] at hlast
      exact ⟨inner, by rw [hrest, Option.some.inj hlast, List.concat_eq_append]⟩
  · rintro ⟨inner, hinner⟩
    refine ⟨⟨?_, by rw [hinner]; rfl⟩, ?_⟩
    · rw [eq_append_of_quoted value quote inner hinner, String.utf8ByteSize_append,
        String.utf8ByteSize_append]
      omega
    · rw [hinner, ← List.cons_append, List.getLast?_concat]

/-- Quotes that are taken off by positions of bytes are taken off as they
    should, and no position is ever out of range or inside of a character. -/
theorem unquoteBytes?_eq (value : String) :
    unquoteBytes? value = some (String.ofList (unquote value.toList)) := by
  unfold unquoteBytes?
  cases hfind : ['"', '\''].find? (isEnclosed value) with
  | none =>
      rw [List.find?_eq_none] at hfind
      -- No quote encloses the value, so nothing is cut off.
      have hbare : unquote value.toList = value.toList := by
        refine unquote_bare value.toList fun quote inner kind heq => ?_
        have hmem : quote ∈ ['"', '\''] := by
          rcases kind with rfl | rfl <;> decide
        exact hfind quote hmem ((isEnclosed_iff value quote kind).2 ⟨inner, heq⟩)
      simp only [hbare, String.ofList_toList]
  | some quote =>
      have kind : quote = '"' ∨ quote = '\'' := by
        have hmem := List.mem_of_find?_eq_some hfind
        simpa only [List.mem_cons, List.not_mem_nil, or_false] using hmem
      have hquote := utf8ByteSize_quote quote kind
      rcases (isEnclosed_iff value quote kind).1 (List.find?_some hfind) with ⟨inner, hinner⟩
      have hvalue := eq_append_of_quoted value quote inner hinner
      -- One byte for each quote, so the inner text lies in between.
      have hsize : value.utf8ByteSize - 1 =
          (String.singleton quote).utf8ByteSize + (String.ofList inner).utf8ByteSize := by
        rw [hvalue, String.utf8ByteSize_append, String.utf8ByteSize_append]
        omega
      have hbetween := between?_append (String.singleton quote) (String.ofList inner)
        (String.singleton quote)
      rw [← hvalue, ← hsize, hquote] at hbetween
      rw [hinner, unquote_quoted quote kind]
      exact hbetween

/-- A file with its values in quotes of either kind gives the values back as
    they are, whatever is in them, and its load does not fail. Quotes can always
    be taken off by positions of bytes. -/
theorem quoted_values_are_faithful :
    (∀ (env : Environment) (entries : List Entry),
      (load env (written entries)).2 = none ∧
      ∀ name, (load env (written entries)).1.get? name =
        ((entries.reverse.find? fun entry => entry.name = name).map Entry.value).or
          (env.get? name)) ∧
    ∀ value : String, unquoteBytes? value = some (String.ofList (unquote value.toList)) := by
  refine ⟨fun env entries => ⟨?_, get?_written env entries⟩, unquoteBytes?_eq⟩
  rw [load_eq_loadLines, textLines_written, loadLines_eq_none_iff]
  exact not_isBad_written entries

/-- Quotes, an equals sign, a number sign and blanks in a value, a value that is
    a single quote, and a value that is written again. -/
theorem quoted_values_are_faithful_hostile :
    ∃ first second third : Entry,
      first.value = " 'a' = \"b\" #\r" ∧ second.value = "\"" ∧ third.value = "é" ∧
      first.name = "K" ∧ second.name = "\"L x" ∧ third.name = "K" ∧
      (load {} (written [first])).1.get? "K" = some " 'a' = \"b\" #\r" ∧
      (load {} (written [first, second, third])).1.get? "\"L x" = some "\"" ∧
      (load {} (written [first, second, third])).1.get? "K" = some "é" ∧
      unquoteBytes? "\"" = some "\"" := by
  refine ⟨⟨"K", " 'a' = \"b\" #\r", '\'', true, by decide, by decide, by decide, by decide,
    by decide, by decide, by decide⟩,
    ⟨"\"L x", "\"", '"', false, by decide, by decide, by decide, by decide, by decide, by decide,
      by decide⟩,
    ⟨"K", "é", '"', true, by decide, by decide, by decide, by decide, by decide, by decide,
      by decide⟩, rfl, rfl, rfl, rfl, rfl, rfl, ?_, ?_, ?_, ?_⟩
  · exact (quoted_values_are_faithful.1 {} _).2 "K"
  · exact (quoted_values_are_faithful.1 {} _).2 "\"L x"
  · exact (quoted_values_are_faithful.1 {} _).2 "K"
  · exact quoted_values_are_faithful.2 "\""

end EnvFile

end WhereClause
