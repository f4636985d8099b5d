import Mathlib.Algebra.Group.Nat.Defs
import WhereClause.Timestamp.Text

/-!
# Reading Timestamps Back

The text of a timestamp that is decoded again gives that timestamp.

Nothing marks the end of a number in such a text but the character behind it,
and two numbers need not have one: a year has four digits and a month two, or
there is a sign in front and the digits run on to the next separator. So what
a number reads depends on what follows, and each lemma about a part of the text
is about that part with any text behind it, of which at most the first
character matters.

There are two places where writing does more than to lay out a field. A leap
second is written as second 60, although it is kept as a long second 59, and a
fraction is written with as few digits as are exact. Neither loses anything,
because the fields of a timestamp are those of a time there is: second 60 is
written for nothing else, and the digits that are left out are zeros.

## Main definitions

* `Timestamp.NoDigit`: A text that no number goes on in.

## Theorems

* `length_padded`, `ofDigitChars_padded`: The width of a padded number, and its
  value.
* `digits?_append`: Reading digits that end where they have to.
* `year?_yearText`, `field?_padded`, `fraction?_fractionText`: The parts of a
  text are read back.
* `ofFields?_clock`: What a clock shows gives the timestamp back.
* `decode?_encoded`: The text as a whole is read back.
-/

namespace WhereClause

namespace Timestamp

/-! ## Padded numbers -/

theorem isDigit_of_mem_padded (width n : Nat) : ∀ c ∈ padded width n, c.isDigit = true := by
  intro c hc
  rcases List.mem_append.1 hc with hzero | hdigit
  · rw [List.eq_of_mem_replicate hzero]
    rfl
  · exact Nat.isDigit_of_mem_toDigits (by omega) (by omega) hdigit

theorem padded_ne_nil (width n : Nat) : padded width n ≠ [] := by
  intro h
  exact Nat.toDigits_ne_nil (List.append_eq_nil_iff.1 h).2

/-- A number that fits into a width has exactly that width. -/
theorem length_padded (width n : Nat) (hwidth : 0 < width) (hn : n < 10 ^ width) :
    (padded width n).length = width := by
  have hlength : (Decimal.ofNat n).length ≤ width :=
    (Nat.length_toDigits_le_iff (by omega) hwidth).2 hn
  -- Zeros fill up what the digits leave of the width.
  simp only [padded, List.length_append, List.length_replicate]
  omega

theorem ofDigitChars_replicate (count : Nat) :
    Nat.ofDigitChars 10 (List.replicate count '0') 0 = 0 := by
  induction count with
  | zero => rfl
  | succ count ih => exact (Nat.ofDigitChars_cons).trans ih

/-- Leading zeros do not change what a number is. -/
theorem ofDigitChars_padded (width n : Nat) : Nat.ofDigitChars 10 (padded width n) 0 = n := by
  have hdigits : Nat.ofDigitChars 10 (Decimal.ofNat n) 0 = n :=
    Nat.ofDigitChars_toDigits (by omega) (by omega)
  rw [padded, Nat.ofDigitChars_append, ofDigitChars_replicate, hdigits]

/-! ## Numbers in a text -/

/-- Texts that do not begin with a digit, so that no number goes on in them. -/
def NoDigit (s : List Char) : Prop :=
  ∀ c ∈ s.head?, c.isDigit = false

theorem noDigit_cons {c : Char} (h : c.isDigit = false) (rest : List Char) :
    NoDigit (c :: rest) := by
  intro d hd
  rw [← Option.some.inj hd]
  exact h

theorem isBlank_of_isDigit {c : Char} (h : c.isDigit = true) : Text.isBlank c = false := by
  have hlow : 0x30 ≤ c.toNat := Char.isDigit_iff_toNat.1 h |>.1
  have hhigh : c.toNat ≤ 0x39 := Char.isDigit_iff_toNat.1 h |>.2
  simp only [Text.isBlank, Bool.or_eq_false_iff, Bool.and_eq_false_iff, decide_eq_false_iff_not,
    beq_eq_false_iff_ne]
  omega

theorem trimStart_digits {digits : List Char} (hdigits : ∀ c ∈ digits, c.isDigit = true)
    (hne : digits ≠ []) (rest : List Char) : Text.trimStart (digits ++ rest) = digits ++ rest := by
  refine Text.trimStart_eq_self _ fun c hc => ?_
  cases digits with
  | nil => exact absurd rfl hne
  | cons d digits =>
      rw [← Option.some.inj hc]
      exact isBlank_of_isDigit (hdigits d List.mem_cons_self)

/-- A number ends after `width` digits, or before a character that is none. -/
theorem digits?_append {width : Nat} {digits : List Char}
    (hdigits : ∀ c ∈ digits, c.isDigit = true) (hne : digits ≠ []) (hle : digits.length ≤ width)
    {rest : List Char} (hend : digits.length = width ∨ NoDigit rest) :
    digits? width (digits ++ rest) = some (Nat.ofDigitChars 10 digits 0, rest) := by
  -- Either the width is used up, or the next character ends the number.
  have hrest : (rest.take (width - digits.length)).takeWhile Char.isDigit = [] := by
    rcases hend with hwidth | hnone
    · rw [hwidth, Nat.sub_self, List.take_zero, List.takeWhile_nil]
    · cases rest with
      | nil => rw [List.take_nil, List.takeWhile_nil]
      | cons c rest =>
          have hc : ¬c.isDigit = true := Bool.not_eq_true _ ▸ hnone c rfl
          cases width - digits.length with
          | zero => rfl
          | succ count => rw [List.take_succ_cons, List.takeWhile_cons_of_neg hc]
  have hall : ((digits ++ rest).take width).takeWhile Char.isDigit = digits := by
    rw [List.take_append, List.take_of_length_le hle, List.takeWhile_append_of_pos hdigits, hrest,
      List.append_nil]
  have hempty : ¬digits.isEmpty = true := fun h => hne (List.isEmpty_iff.1 h)
  simp only [digits?, hall, if_neg hempty, List.drop_left]

/-- A separator is skipped, if it is what comes next. -/
theorem skip?_cons {c : Char} (hc : Text.isBlank c = false) (rest : List Char) :
    skip? c (c :: rest) = some rest := by
  have htrim : Text.trimStart (c :: rest) = c :: rest := by
    refine Text.trimStart_eq_self _ fun d hd => ?_
    rw [← Option.some.inj hd]
    exact hc
  simp only [skip?, htrim, if_true]

/-- A field of two digits is read back, whatever follows. -/
theorem field?_padded {n : Nat} (hn : n < 100) (rest : List Char) :
    field? (padded 2 n ++ rest) = some (n, rest) := by
  have hdigits := isDigit_of_mem_padded 2 n
  have hlength := length_padded 2 n (by omega) hn
  rw [field?, trimStart_digits hdigits (padded_ne_nil 2 n),
    digits?_append hdigits (padded_ne_nil 2 n) (Nat.le_of_eq hlength) (Or.inl hlength),
    ofDigitChars_padded]

/-- A year that begins with a digit has four of them. -/
theorem year?_digits {digits : List Char} (hdigits : ∀ c ∈ digits, c.isDigit = true)
    (hne : digits ≠ []) (rest : List Char) :
    year? (digits ++ rest) =
      (digits? 4 (digits ++ rest)).map fun (n, rest) => ((n : Int), rest) := by
  rw [year?, trimStart_digits hdigits hne]
  cases digits with
  | nil => exact absurd rfl hne
  | cons d digits =>
      have hd := hdigits d List.mem_cons_self
      rw [List.cons_append]
      split
      -- A digit is not a sign.
      · rename_i heq
        rw [(List.cons.inj heq).1] at hd
        exact absurd hd (by decide)
      · rename_i heq
        rw [(List.cons.inj heq).1] at hd
        exact absurd hd (by decide)
      · rfl

/-- A year behind a sign has all the digits there are. -/
theorem year?_sign {sign : Char} (hsign : sign = '-' ∨ sign = '+') (n : Nat) {rest : List Char}
    (hrest : NoDigit rest) :
    year? (sign :: (padded 4 n ++ rest)) =
      some (if sign = '-' then -(n : Int) else n, rest) := by
  have hread : digits? (padded 4 n ++ rest).length (padded 4 n ++ rest) = some (n, rest) := by
    rw [digits?_append (isDigit_of_mem_padded 4 n) (padded_ne_nil 4 n)
      (by rw [List.length_append]; omega) (Or.inr hrest), ofDigitChars_padded]
  rcases hsign with rfl | rfl
  · have htrim : Text.trimStart ('-' :: (padded 4 n ++ rest)) = '-' :: (padded 4 n ++ rest) := rfl
    simp only [year?, htrim, hread, Option.map_some, if_true]
  · have htrim : Text.trimStart ('+' :: (padded 4 n ++ rest)) = '+' :: (padded 4 n ++ rest) := rfl
    have hne : ¬('+' = '-') := by decide
    simp only [year?, htrim, hread, Option.map_some, if_neg hne]

/-- A year is read back, with a sign if it has one. -/
theorem year?_yearText (year : Int) {rest : List Char} (hrest : NoDigit rest) :
    year? (yearText year ++ rest) = some (year, rest) := by
  rw [yearText]
  split
  · rename_i hyear
    -- From year 0 to year 9999 there are four digits and no sign.
    have hdigits := isDigit_of_mem_padded 4 year.toNat
    have hlength := length_padded 4 year.toNat (by omega) (by omega)
    have hvalue : (year.toNat : Int) = year := by omega
    rw [year?_digits hdigits (padded_ne_nil 4 _),
      digits?_append hdigits (padded_ne_nil 4 _) (Nat.le_of_eq hlength) (Or.inl hlength),
      ofDigitChars_padded, Option.map_some]
    simp only [hvalue]
  · rename_i hyear
    rw [List.cons_append]
    by_cases hneg : year < 0
    · rw [if_pos hneg, year?_sign (Or.inl rfl) _ hrest, if_pos rfl]
      have hvalue : -(year.natAbs : Int) = year := by omega
      rw [hvalue]
    · rw [if_neg hneg, year?_sign (Or.inr rfl) _ hrest, if_neg (by decide)]
      have hvalue : (year.natAbs : Int) = year := by omega
      rw [hvalue]

/-! ## Fractions and seconds -/

/-- A fraction of so many digits is read back at its scale. -/
theorem fraction?_padded {width n : Nat} (hwidth : 0 < width) (hle : width ≤ 9)
    (hn : n < 10 ^ width) :
    fraction? ('.' :: padded width n) = some (n * 10 ^ (9 - width), []) := by
  have hdigits := isDigit_of_mem_padded width n
  have hlength := length_padded width n hwidth hn
  have htake : (padded width n).takeWhile Char.isDigit = padded width n := by
    rw [← List.append_nil (padded width n), List.takeWhile_append_of_pos hdigits,
      List.takeWhile_nil]
  have hdrop : (padded width n).dropWhile Char.isDigit = [] := by
    rw [← List.append_nil (padded width n), List.dropWhile_append_of_pos hdigits,
      List.dropWhile_nil]
  have hempty : ¬(padded width n).isEmpty = true := fun h =>
    padded_ne_nil width n (List.isEmpty_iff.1 h)
  -- There are no more than nine digits, so none is dropped.
  have hused : (padded width n).take 9 = padded width n := List.take_of_length_le (by omega)
  simp only [fraction?, htake, hdrop, if_neg hempty, hused, hlength, ofDigitChars_padded,
    Nat.pow_eq]

/-- A fraction is read back from as few digits as it has. -/
theorem fraction?_fractionText {nano : Nat} (hnano : nano < second) :
    fraction? (fractionText nano) = some (nano, []) := by
  have hbound : nano < 1000000000 := hnano
  rw [fractionText]
  split
  · -- Without a fraction nothing is written, and nothing is read as zero.
    rename_i hzero
    rw [hzero]
    rfl
  split
  · rename_i hmilli
    have hvalue : nano / 1000000 * 10 ^ (9 - 3) = nano := by omega
    rw [fraction?_padded (by omega) (by omega) (by omega), hvalue]
  split
  · rename_i hmicro
    have hvalue : nano / 1000 * 10 ^ (9 - 6) = nano := by omega
    rw [fraction?_padded (by omega) (by omega) (by omega), hvalue]
  · have hvalue : nano * 10 ^ (9 - 9) = nano := by omega
    rw [fraction?_padded (by omega) (by omega) (by omega), hvalue]

/-- A clock shows two digits of seconds, and less than a second of
    nanoseconds. -/
theorem clock_lt (t : Timestamp) : t.clock.1 < 100 ∧ t.clock.2 < second := by
  rcases t.valid with ⟨_, _, _, _, _, hsec, hnano⟩
  rw [clock]
  split
  · rename_i hlt
    exact ⟨by omega, hlt⟩
  · rename_i hge
    rcases hnano with hlt | ⟨_, hlt⟩
    · exact absurd hlt hge
    · exact ⟨by omega, by omega⟩

/-- What a clock shows gives the timestamp back: second 60 is a leap second,
    and there is no other way to come by it. -/
theorem ofFields?_clock (t : Timestamp) :
    (if t.clock.1 = 60 then
        ofFields? t.year t.month t.day t.hour t.minute 59 (t.clock.2 + second)
      else ofFields? t.year t.month t.day t.hour t.minute t.clock.1 t.clock.2) = some t := by
  rcases t.valid with ⟨_, _, _, _, _, hsec, hnano⟩
  rw [clock]
  split
  · rw [if_neg (by omega : ¬t.sec = 60)]
    exact t.ofFields?_self
  · rename_i hge
    rcases hnano with hlt | ⟨hlast, _⟩
    · exact absurd hlt hge
    · -- A long second is the last one of its minute.
      have hnano : t.nano - second + second = t.nano := by omega
      rw [if_pos (by omega : t.sec + 1 = 60), hnano, ← hlast]
      exact t.ofFields?_self

/-! ## The whole text -/

/-- A day of the month has two digits. -/
theorem daysIn_lt (year : Int) (month : Nat) : daysIn year month < 100 := by
  rw [daysIn]
  split
  · split <;> omega
  · split <;> omega

/-- Decoding the text of a timestamp gives the timestamp. -/
theorem decode?_encoded (t : Timestamp) : decode? t.encoded = some t := by
  rcases t.valid with ⟨_, ⟨_, hmonth⟩, ⟨_, hday⟩, hhour, hminute, _, _⟩
  have hdays := daysIn_lt t.year t.month
  have hclock := t.clock_lt
  rw [decode?, encoded, String.toList_ofList, text, dateText]
  simp only [List.append_assoc, List.cons_append]
  rw [year?_yearText t.year (noDigit_cons (by decide) _)]
  simp only [Option.bind_eq_bind, Option.bind_some,
    skip?_cons (by decide : Text.isBlank '-' = false),
    skip?_cons (by decide : Text.isBlank 'T' = false),
    skip?_cons (by decide : Text.isBlank ':' = false),
    field?_padded (by omega : t.month < 100), field?_padded (by omega : t.day < 100),
    field?_padded (by omega : t.hour < 100), field?_padded (by omega : t.minute < 100),
    field?_padded hclock.1, fraction?_fractionText hclock.2]
  exact t.ofFields?_clock

end Timestamp

end WhereClause
