import WhereClause.Sql.Dialect

/-!
# Numerals and Bare Words

The literals that are written without quotes.

A statement shows where such a literal ends only by what follows it, so its
characters have to be of one kind: digits, a point and a minus sign for a
number, letters for the three words. What a numeral is, is said here without
regard to how numbers get written: digits, perhaps a point with digits on
both sides, perhaps a minus sign. The texts of integers and of finite doubles
are numerals. A double would not be one if it was written with an exponent or
if a whole one kept a point at its end.

## Main definitions

* `Decimal.isMagnitude`, `Decimal.isNumeral`: Numbers without and with a sign.
* `Sql.isBareLiteral`: Numerals and the words for null and the truth values.
* `Literal.isQuoted`: Whether a literal is written in quotes.

## Theorems

* `isNumeral_ofNat`, `isNumeral_ofInt`, `isNumeral_plainText`: Numbers are
  written as numerals.
* `isBareLiteral_mySqlLiteral`: What is not quoted is a bare literal.
* `mem_bareLiteral`: The characters of bare literals.
-/

namespace WhereClause

namespace Decimal

/-- Whether a text is a number without a sign: digits, or digits on both
    sides of a point. -/
def isMagnitude (s : List Char) : Bool :=
  !(s.takeWhile Char.isDigit).isEmpty &&
    match s.dropWhile Char.isDigit with
    | [] => true
    | '.' :: fraction => !fraction.isEmpty && fraction.all Char.isDigit
    | _ => false

/-- Whether a text is a number, with a minus sign or without one. -/
def isNumeral : List Char → Bool
  | '-' :: rest => isMagnitude rest
  | s => isMagnitude s

/-- A number without a sign is a number. -/
theorem isNumeral_of_isMagnitude (s : List Char) (h : isMagnitude s = true) :
    isNumeral s = true := by
  rw [isNumeral.eq_def]
  split
  · -- A magnitude begins with a digit.
    simp only [isMagnitude, List.takeWhile_cons, show Char.isDigit '-' = false from rfl,
      Bool.false_eq_true, if_false, List.isEmpty_nil, Bool.not_true, Bool.false_and] at h
  · exact h

/-- Digits alone are a number. -/
theorem isMagnitude_digits (digits : List Char) (hne : digits ≠ [])
    (h : ∀ c ∈ digits, c.isDigit = true) : isMagnitude digits = true := by
  have htake : digits.takeWhile Char.isDigit = digits := by
    rw [← List.append_nil digits, List.takeWhile_append_of_pos h, List.takeWhile_nil]
  have hdrop : digits.dropWhile Char.isDigit = [] := by
    rw [← List.append_nil digits, List.dropWhile_append_of_pos h, List.dropWhile_nil]
  rw [isMagnitude, htake, hdrop, Bool.and_true, Bool.not_eq_true', List.isEmpty_eq_false_iff]
  exact hne

/-- So are digits on both sides of a point. -/
theorem isMagnitude_pointed (whole fraction : List Char) (hwhole : whole ≠ [])
    (hfraction : fraction ≠ []) (hw : ∀ c ∈ whole, c.isDigit = true)
    (hf : ∀ c ∈ fraction, c.isDigit = true) : isMagnitude (whole ++ '.' :: fraction) = true := by
  have hdot : Char.isDigit '.' = false := rfl
  -- The leading digits end at the point.
  have htake : (whole ++ '.' :: fraction).takeWhile Char.isDigit = whole := by
    rw [List.takeWhile_append_of_pos hw, List.takeWhile_cons, hdot]
    exact List.append_nil whole
  have hdrop : (whole ++ '.' :: fraction).dropWhile Char.isDigit = '.' :: fraction := by
    rw [List.dropWhile_append_of_pos hw, List.dropWhile_cons, hdot]
    rfl
  rw [isMagnitude, htake, hdrop]
  simp only [List.isEmpty_eq_false_iff.2 hwhole, List.isEmpty_eq_false_iff.2 hfraction,
    Bool.not_false, Bool.true_and]
  exact List.all_eq_true.2 hf

theorem isDigit_of_mem_ofNat (n : Nat) : ∀ c ∈ ofNat n, c.isDigit = true :=
  fun _ hc => Nat.isDigit_of_mem_toDigits (by decide) (by decide) hc

theorem isMagnitude_ofNat (n : Nat) : isMagnitude (ofNat n) = true :=
  isMagnitude_digits _ Nat.toDigits_ne_nil (isDigit_of_mem_ofNat n)

theorem isNumeral_ofNat (n : Nat) : isNumeral (ofNat n) = true :=
  isNumeral_of_isMagnitude _ (isMagnitude_ofNat n)

/-- An integer is written as a numeral, with the sign in front if it is
    negative. -/
theorem isNumeral_ofInt (n : Int) : isNumeral (ofInt n) = true := by
  rw [ofInt]
  split
  · exact isMagnitude_ofNat n.natAbs
  · exact isNumeral_ofNat n.natAbs

-- Digits written out are a number, wherever the point falls.
theorem isMagnitude_positional (digits : List Char) (shift : Int) (hne : digits ≠ [])
    (h : ∀ c ∈ digits, c.isDigit = true) : isMagnitude (positional [] digits shift) = true := by
  have hzeros : ∀ n, ∀ c ∈ List.replicate n '0', Char.isDigit c = true := by
    intro n c hc
    rw [List.eq_of_mem_replicate hc]
    rfl
  -- The point can fall behind the digits, among them, or in front of them.
  rw [positional]
  split
  · rw [List.append_nil]
    refine isMagnitude_digits _ (fun hnil => hne (List.append_eq_nil_iff.1 hnil).1) fun c hc => ?_
    rcases List.mem_append.1 hc with hc | hc
    · exact h c hc
    · exact hzeros _ c hc
  · rename_i hneg
    dsimp only
    split
    · -- The point falls among the digits, with some of them on both sides.
      rename_i hlt
      refine isMagnitude_pointed _ _ (fun hnil => ?_) (fun hnil => ?_)
        (fun c hc => h c (List.mem_of_mem_take hc)) (fun c hc => h c (List.mem_of_mem_drop hc))
      · have := congrArg List.length hnil
        rw [List.length_take, List.length_nil] at this
        omega
      · have := congrArg List.length hnil
        rw [List.length_drop, List.length_nil] at this
        omega
    · refine isMagnitude_pointed ['0'] _ (List.cons_ne_nil _ _)
        (fun hnil => hne (List.append_eq_nil_iff.1 hnil).2) (fun c hc => ?_) fun c hc => ?_
      · rw [List.mem_singleton.1 hc]
        rfl
      · rcases List.mem_append.1 hc with hc | hc
        · exact hzeros _ c hc
        · exact h c hc

/-- A finite double is written as a numeral, since no exponent is ever used. -/
theorem isNumeral_plainText (x : Float) (h : x.isFinite = true) :
    isNumeral (plainText x) = true := by
  have hmagnitude := isMagnitude_positional (ofNat (shortest .up x).digits)
    (shortest .up x).exponent Nat.toDigits_ne_nil (isDigit_of_mem_ofNat _)
  rw [plainText, if_pos h, Layout.text]
  simp only [Layout.plain, if_true]
  split
  · exact hmagnitude
  · exact isNumeral_of_isMagnitude _ hmagnitude

/-- A number without a sign is made of digits and points. -/
theorem mem_isMagnitude (s : List Char) (h : isMagnitude s = true) (c : Char) (hc : c ∈ s) :
    c.isDigit = true ∨ c = '.' := by
  rw [← List.takeWhile_append_dropWhile (p := Char.isDigit) (l := s)] at hc
  -- The leading digits, and what is left of the text behind them.
  rcases List.mem_append.1 hc with hc | hc
  · exact Or.inl (List.all_eq_true.1 List.all_takeWhile c hc)
  · rw [isMagnitude, Bool.and_eq_true] at h
    have hrest := h.2
    split at hrest
    · rename_i hnil
      rw [hnil] at hc
      exact absurd hc List.not_mem_nil
    · rename_i fraction hpoint
      rw [hpoint] at hc
      rcases List.mem_cons.1 hc with rfl | hc
      · exact Or.inr rfl
      · rw [Bool.and_eq_true, List.all_eq_true] at hrest
        exact Or.inl (hrest.2 c hc)
    · exact absurd hrest Bool.false_ne_true

/-- A number is made of digits, points and minus signs. -/
theorem mem_isNumeral (s : List Char) (h : isNumeral s = true) (c : Char) (hc : c ∈ s) :
    c.isDigit = true ∨ c = '.' ∨ c = '-' := by
  rw [isNumeral.eq_def] at h
  split at h
  · rcases List.mem_cons.1 hc with rfl | hc
    · exact Or.inr (Or.inr rfl)
    · rcases mem_isMagnitude _ h c hc with hdigit | rfl
      · exact Or.inl hdigit
      · exact Or.inr (Or.inl rfl)
  · rcases mem_isMagnitude _ h c hc with hdigit | rfl
    · exact Or.inl hdigit
    · exact Or.inr (Or.inl rfl)

end Decimal

namespace Sql

/-- Whether a word stands for a value: a number, null or a truth value. -/
def isBareLiteral (word : String) : Bool :=
  word = "NULL" || word = "true" || word = "false" || Decimal.isNumeral word.toList

end Sql

open Sql

/-- Whether a literal is written in quotes. -/
def Literal.isQuoted : Literal → Bool
  | .text _ => true
  | .timestamp _ => true
  | _ => false

/-- A single literal is written as a bare one unless it is quoted. -/
theorem isBareLiteral_mySqlLiteral (value : Literal) (hlist : value.isList = false)
    (hquoted : value.isQuoted = false) : isBareLiteral (mySqlLiteral value) = true := by
  -- A numeral is a bare literal, so numbers are done by their own lemmas.
  have hnumeral : ∀ s, Decimal.isNumeral s = true → isBareLiteral (String.ofList s) = true := by
    intro s hs
    simp only [isBareLiteral, String.toList_ofList, hs, Bool.or_true]
  cases value with
  | int n => exact hnumeral _ (Decimal.isNumeral_ofInt _)
  | uint n => exact hnumeral _ (Decimal.isNumeral_ofNat _)
  | float x =>
      rw [mySqlLiteral]
      split
      · rename_i hfinite
        exact hnumeral _ (Decimal.isNumeral_plainText x hfinite)
      · rfl
  | bool b => cases b <;> rfl
  | text s => exact Bool.noConfusion hquoted
  | timestamp t => exact Bool.noConfusion hquoted
  | list items => exact Bool.noConfusion hlist
  | null => rfl

/-- The characters of bare literals. -/
theorem mem_bareLiteral (word : String) (h : isBareLiteral word = true) (c : Char)
    (hc : c ∈ word.toList) : c.isAlphanum = true ∨ c = '.' ∨ c = '-' := by
  -- The words for null and the truth values are letters only.
  have hword : ∀ s : String, s.toList.all Char.isAlphanum = true → word = s →
      c.isAlphanum = true := by
    intro s hs heq
    rw [heq] at hc
    exact List.all_eq_true.1 hs c hc
  simp only [isBareLiteral, Bool.or_eq_true, decide_eq_true_eq] at h
  rcases h with ((hnull | htrue) | hfalse) | hnumeral
  · exact Or.inl (hword _ (by decide) hnull)
  · exact Or.inl (hword _ (by decide) htrue)
  · exact Or.inl (hword _ (by decide) hfalse)
  · rcases Decimal.mem_isNumeral _ hnumeral c hc with hdigit | hmark
    · exact Or.inl (by rw [Char.isAlphanum, hdigit, Bool.or_true])
    · exact Or.inr hmark

end WhereClause
