import WhereClause.Json.Printer
import WhereClause.Proofs.Calls
import WhereClause.Proofs.Escaping
import WhereClause.Proofs.Numerals
import WhereClause.Proofs.Placeholders

/-!
# Texts of a Single Line

Where a line cannot end.

Texts that a program writes line by line must not have ends of lines in them.
For compact JSON this is a consequence of more: it has no control character at
all, since a string has none that is not escaped, and what is not in a string is
made of letters, digits and signs.

A statement may have control characters. Six of them are escaped in names and
texts, of which the line feed and the carriage return are two, and the others
stand for themselves. Outside of quotes there are only the fixed words of
filters, bare literals and placeholders.

## Main definitions

* `Shown`: A text without control characters.
* `SingleLine`: A text with no end of a line in it.

## Theorems

* `shown_compact`: Compact JSON has no control characters.
* `singleLine_chars`: No fragment ends a line, if it is one that filters have.
* `singleLine_toSql`, `singleLine_toParameterized`: No statement ends a line.
-/

namespace WhereClause

/-- A text without control characters, which are those below the space. -/
def Shown (s : List Char) : Prop :=
  ∀ c ∈ s, 0x20 ≤ c.toNat

instance (s : List Char) : Decidable (Shown s) :=
  List.decidableBAll (fun c : Char => 0x20 ≤ c.toNat) s

/-- A text with no end of a line in it. -/
def SingleLine (s : List Char) : Prop :=
  '\n' ∉ s ∧ '\r' ∉ s

instance (s : List Char) : Decidable (SingleLine s) :=
  inferInstanceAs (Decidable (_ ∧ _))

theorem singleLine_of_shown {s : List Char} (h : Shown s) : SingleLine s := by
  constructor
  · intro hfeed
    exact absurd (h '\n' hfeed) (by decide)
  · intro hreturn
    exact absurd (h '\r' hreturn) (by decide)

theorem shown_append {s t : List Char} (hs : Shown s) (ht : Shown t) : Shown (s ++ t) :=
  List.forall_mem_append.2 ⟨hs, ht⟩

theorem shown_cons {c : Char} {s : List Char} (hc : 0x20 ≤ c.toNat) (hs : Shown s) :
    Shown (c :: s) :=
  List.forall_mem_cons.2 ⟨hc, hs⟩

theorem shown_intercalate (separator : List Char) (hsep : Shown separator)
    (parts : List (List Char)) (h : ∀ part ∈ parts, Shown part) :
    Shown (separator.intercalate parts) := by
  induction parts with
  | nil => exact fun _ hc => absurd hc List.not_mem_nil
  | cons first rest ih =>
      rw [List.forall_mem_cons] at h
      -- Induction on the parts, with a separator behind each but the last.
      cases rest with
      | nil =>
          rw [List.intercalate_singleton]
          exact h.1
      | cons second rest =>
          rw [List.intercalate_cons_cons]
          exact shown_append (shown_append h.1 hsep) (ih h.2)

theorem singleLine_append {s t : List Char} (hs : SingleLine s) (ht : SingleLine t) :
    SingleLine (s ++ t) := by
  constructor
  · intro h
    exact (List.mem_append.1 h).elim hs.1 ht.1
  · intro h
    exact (List.mem_append.1 h).elim hs.2 ht.2

theorem singleLine_flatMap {α : Type} (f : α → List Char) (l : List α)
    (h : ∀ a ∈ l, SingleLine (f a)) : SingleLine (l.flatMap f) := by
  induction l with
  | nil => exact ⟨List.not_mem_nil, List.not_mem_nil⟩
  | cons a l ih =>
      rw [List.forall_mem_cons] at h
      rw [List.flatMap_cons]
      exact singleLine_append h.1 (ih h.2)

/-! ## Numbers -/

namespace Decimal

/-- Digits are no control characters. -/
theorem shown_of_isDigit {digits : List Char} (h : ∀ c ∈ digits, c.isDigit = true) :
    Shown digits := by
  intro c hc
  have hdigit := h c hc
  rw [Char.isDigit, Bool.and_eq_true, decide_eq_true_eq, decide_eq_true_eq] at hdigit
  have hlow : ('0' : Char).val.toNat ≤ c.toNat := UInt32.le_iff_toNat_le.1 hdigit.1
  have hzero : ('0' : Char).val.toNat = 0x30 := rfl
  -- Digits begin at 0x30, far above the control characters.
  omega

theorem shown_ofNat (n : Nat) : Shown (ofNat n) :=
  shown_of_isDigit (isDigit_of_mem_ofNat n)

theorem shown_ofInt (n : Int) : Shown (ofInt n) := by
  unfold ofInt
  split
  · exact shown_cons (by decide) (shown_ofNat _)
  · exact shown_ofNat _

theorem shown_replicate_zero (n : Nat) : Shown (List.replicate n '0') := by
  intro c hc
  rw [List.eq_of_mem_replicate hc]
  decide

theorem shown_positional {mark digits : List Char} (hmark : Shown mark) (hdigits : Shown digits)
    (shift : Int) : Shown (positional mark digits shift) := by
  unfold positional
  split
  · exact shown_append (shown_append hdigits (shown_replicate_zero _)) hmark
  · dsimp only
    split
    · refine shown_append (fun c hc => hdigits c (List.mem_of_mem_take hc)) ?_
      exact shown_cons (by decide) fun c hc => hdigits c (List.mem_of_mem_drop hc)
    · refine shown_append ?_ hdigits
      exact shown_cons (by decide) (shown_cons (by decide) (shown_replicate_zero _))

theorem shown_scientific {digits : List Char} (hdigits : Shown digits) (power : Int) :
    Shown (scientific digits power) := by
  unfold scientific
  refine shown_append ?_ (shown_cons (by decide) ?_)
  · split
    · rename_i first second rest
      have hcons := List.forall_mem_cons.1 hdigits
      exact shown_cons hcons.1 (shown_cons (by decide) hcons.2)
    · exact hdigits
  · split
    · exact shown_ofInt power
    · exact shown_cons (by decide) (shown_ofInt power)

/-- All doubles are written so, if the mark of whole numbers is. -/
theorem shown_text (layout : Layout) (hmark : Shown layout.wholeMark) (x : Float) :
    Shown (layout.text x) := by
  have hdigits := shown_ofNat (shortest layout.tie x).digits
  -- Either way of placing the point writes what is shown.
  have hmagnitude : ∀ pointed : Bool, Shown (if pointed then
      positional layout.wholeMark (ofNat (shortest layout.tie x).digits)
        (shortest layout.tie x).exponent
      else scientific (ofNat (shortest layout.tie x).digits) ((shortest layout.tie x).exponent +
        (ofNat (shortest layout.tie x).digits).length - 1)) := by
    intro pointed
    cases pointed with
    | true => exact shown_positional hmark hdigits _
    | false => exact shown_scientific hdigits _
  -- Only a sign can come before the magnitude.
  unfold Layout.text
  dsimp only
  split
  · exact shown_cons (by decide) (hmagnitude _)
  · exact hmagnitude _

end Decimal

/-! ## JSON -/

namespace Json

/-- Of a character that would be one, its number is written. -/
theorem shown_escapeChar (c : Char) : Shown (escapeChar c) := by
  unfold escapeChar
  split
  case h_8 =>
    -- The default: a number in hexadecimal, or the character itself.
    have hdigit : ∀ n < 16, 0x20 ≤ (Nat.digitChar n).toNat := by decide
    split
    · rename_i hcontrol
      have hhigh := hdigit (c.toNat / 16) (by omega)
      have hlow := hdigit (c.toNat % 16) (by omega)
      refine shown_append (s := ['\\', 'u', '0', '0']) (by decide) ?_
      exact shown_cons hhigh (shown_cons hlow fun _ h => absurd h List.not_mem_nil)
    · rename_i hcontrol
      exact shown_cons (Nat.le_of_not_lt hcontrol) fun _ h => absurd h List.not_mem_nil
  all_goals decide

theorem shown_quoted (s : String) : Shown (quoted s) := by
  refine shown_append (shown_cons (by decide) fun c hc => ?_) (by decide)
  rcases List.mem_flatMap.1 hc with ⟨d, _, hd⟩
  exact shown_escapeChar d c hd

theorem shown_number (n : Number) : Shown n.text := by
  cases n with
  | whole n bounds => exact Decimal.shown_ofInt n
  | real x finite => exact Decimal.shown_text _ (by decide) x

mutual

/-- Compact JSON has no control characters, whatever strings and keys hold. -/
theorem shown_compact : (value : Json) → Shown value.compact
  | .null => by decide
  | .bool true => by decide
  | .bool false => by decide
  | .number n => shown_number n
  | .text s => shown_quoted s
  | .array items => by
      rw [compact]
      exact shown_append (shown_cons (by decide)
        (shown_intercalate [','] (by decide) _ (shown_compactItems items))) (by decide)
  | .object entries => by
      rw [compact]
      exact shown_append (shown_cons (by decide)
        (shown_intercalate [','] (by decide) _ (shown_compactEntries entries))) (by decide)

theorem shown_compactItems : (items : List Json) → ∀ part ∈ compactItems items, Shown part
  | [] => fun _ hpart => absurd hpart List.not_mem_nil
  | item :: rest => by
      rw [compactItems]
      exact List.forall_mem_cons.2 ⟨shown_compact item, shown_compactItems rest⟩

theorem shown_compactEntries :
    (entries : List (String × Json)) → ∀ part ∈ compactEntries entries, Shown part
  | [] => fun _ hpart => absurd hpart List.not_mem_nil
  | (key, value) :: rest => by
      rw [compactEntries]
      exact List.forall_mem_cons.2
        ⟨shown_append (shown_quoted key) (shown_cons (by decide) (shown_compact value)),
          shown_compactEntries rest⟩

end

/-- A value in compact form is a single line. -/
theorem singleLine_toText (value : Json) : SingleLine value.toText.toList := by
  rw [toText, String.toList_ofList]
  exact singleLine_of_shown (shown_compact value)

end Json

/-! ## Statements -/

namespace Sql

/-- Both ends of lines are escaped in names and texts. -/
theorem singleLine_escapeChars (s : List Char) : SingleLine (escapeChars s) :=
  ⟨not_mem_escapeChars s '\n' (by decide), not_mem_escapeChars s '\r' (by decide)⟩

/-- Doubling backticks adds no end of a line. -/
theorem singleLine_doubleBackticks {s : List Char} (h : SingleLine s) :
    SingleLine (doubleBackticks s) := by
  refine singleLine_flatMap _ s fun c hc => ?_
  split
  · decide
  · refine ⟨fun hfeed => h.1 ?_, fun hreturn => h.2 ?_⟩
    · rwa [List.mem_singleton.1 hfeed]
    · rwa [List.mem_singleton.1 hreturn]

theorem singleLine_quoteName (name : String) : SingleLine (quoteName name).toList := by
  rw [quoteName, String.toList_ofList, ← List.singleton_append, List.append_assoc]
  have hname := singleLine_doubleBackticks (singleLine_escapeChars name.toList)
  exact singleLine_append (by decide) (singleLine_append hname (by decide))

theorem singleLine_quoteText (s : String) : SingleLine (quoteText s).toList := by
  rw [quoteText, String.toList_ofList, ← List.singleton_append, List.append_assoc]
  exact singleLine_append (by decide)
    (singleLine_append (singleLine_escapeChars s.toList) (by decide))

/-- A bare literal has no blanks at all. -/
theorem singleLine_bareLiteral (word : String) (h : isBareLiteral word = true) :
    SingleLine word.toList := by
  constructor
  · intro hfeed
    exact absurd (mem_bareLiteral word h '\n' hfeed) (by decide)
  · intro hreturn
    exact absurd (mem_bareLiteral word h '\r' hreturn) (by decide)

/-- A literal that is no list is written without an end of a line. -/
theorem singleLine_mySqlLiteral (value : Literal) (hlist : value.isList = false) :
    SingleLine (mySqlLiteral value).toList := by
  -- What is not quoted is bare, since it is no list.
  by_cases hquoted : value.isQuoted = false
  · exact singleLine_bareLiteral _ (isBareLiteral_mySqlLiteral value hlist hquoted)
  · cases value with
    | text s =>
        rw [mySqlLiteral]
        exact singleLine_quoteText s
    | timestamp t =>
        rw [mySqlLiteral]
        exact singleLine_quoteText t.statementText
    | _ => exact absurd rfl hquoted

theorem singleLine_words (s : String) (h : s ∈ words) : SingleLine s.toList := by
  have hall : (words.all fun s => decide (SingleLine s.toList)) = true := by decide
  exact of_decide_eq_true (List.all_eq_true.1 hall s h)

end Sql

namespace Filter

open Sql

/-- A part of a filter is written without an end of a line, whatever the mode
    is. -/
theorem singleLine_chars (mode : Mode) (filter : Filter) (fragment : Fragment)
    (h : fragment ∈ filter.fragments) : SingleLine (fragment.chars mode) := by
  cases fragment with
  | text s => exact singleLine_words s (filter.words_fragments s h)
  | name column => exact singleLine_quoteName column
  | operand value =>
      cases mode with
      | inline =>
          -- The items of lists are operands by themselves, so no operand is a list.
          have hvalue : value ∈ filter.fragments.flatMap (Fragment.values .parameterized) :=
            List.mem_flatMap.2 ⟨.operand value, h, List.mem_singleton.2 rfl⟩
          exact singleLine_mySqlLiteral value
            (isList_of_mem_written _ filter.written_fragments value hvalue)
      | parameterized =>
          rw [chars_operand_parameterized]
          decide
  | bound value =>
      show SingleLine "?".toList
      decide

/-- A statement with its values in it is on one line. -/
theorem singleLine_toSql (filter : Filter) : SingleLine (filter.toSql .mySql).toList := by
  rw [toList_toSql]
  exact singleLine_flatMap _ _ (filter.singleLine_chars .inline)

/-- So is a statement with placeholders. -/
theorem singleLine_toParameterized (filter : Filter) :
    SingleLine (filter.toParameterized .mySql).text.toList := by
  rw [toList_toParameterized]
  exact singleLine_flatMap _ _ (filter.singleLine_chars .parameterized)

end Filter

end WhereClause
