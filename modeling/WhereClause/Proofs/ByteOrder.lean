import Mathlib.Data.String.Basic
import Mathlib.Data.List.Lex

/-!
# The Order of Bytes

Why it makes no difference whether texts are compared by their characters or by
their bytes.

The order of texts here is that of their characters, and a character is put by
its number. A table that is filled by another program is in the order of the
bytes, and these are not the characters, since the larger numbers are written
with up to four bytes. But the encoding is made so that the two orders agree.
The first byte of a character tells how many there are, and a larger number
never has fewer, or a smaller first byte. Where the first bytes are the same, the
others hold the digits of the number to the base 64, the highest first.

The encoding is given here as a relation with one case for each number of bytes,
in numbers instead of bytes. Two characters are then compared in sixteen cases.
In every one of them the first bytes where they differ decide, and no character
begins with all the bytes of another.

## Main definitions

* `bytes`: The bytes of a text.
* `Encodes`: The bytes that a number is written with.

## Theorems

* `encodes`: Every character is written this way.
* `utf8EncodeChar_lt`: The smaller of two characters has the smaller bytes,
  whatever stands behind them.
* `bytes_lt_iff`: Of two texts, the smaller one has the smaller bytes.
-/

namespace WhereClause

namespace Text

/-- The bytes of a text. -/
def bytes (s : String) : List UInt8 :=
  s.toUTF8.data.toList

theorem bytes_eq_flatMap (s : String) : bytes s = s.toList.flatMap String.utf8EncodeChar := by
  have hs : s.toByteArray = s.toList.utf8Encode := by
    rw [← String.toByteArray_ofList, String.ofList_toList]
  rw [bytes, String.toUTF8_eq_toByteArray, hs, List.utf8Encode, List.toList_data_toByteArray]

/-! ## Characters -/

/-- The bytes that a number is written with: the number itself, or a mark for
    the number of bytes, and digits to the base 64 which have a mark of their
    own. -/
inductive Encodes : Nat → List Nat → Prop
  | one (n : Nat) (h : n < 0x80) : Encodes n [n]
  | two (n : Nat) (hlow : 0x80 ≤ n) (h : n < 0x800) : Encodes n [n / 64 + 192, n % 64 + 128]
  | three (n : Nat) (hlow : 0x800 ≤ n) (h : n < 0x10000) :
      Encodes n [n / 4096 + 224, n / 64 % 64 + 128, n % 64 + 128]
  | four (n : Nat) (hlow : 0x10000 ≤ n) (h : n < 0x110000) :
      Encodes n [n / 262144 + 240, n / 4096 % 64 + 128, n / 64 % 64 + 128, n % 64 + 128]

/-- Every character is written in one of the four ways. -/
theorem encodes (c : Char) :
    ∃ code, Encodes c.toNat code ∧ String.utf8EncodeChar c = code.map UInt8.ofNat := by
  have hvalid := c.valid
  simp only [UInt32.isValidChar, Nat.isValidChar] at hvalid
  rw [Char.toNat, String.utf8EncodeChar]
  generalize c.val.toNat = n at hvalid ⊢
  -- In each of the cases, the bound makes the reduced first digit the whole one.
  split
  case isTrue h => exact ⟨_, .one n (by omega), rfl⟩
  split
  case isTrue hlow h =>
    refine ⟨_, .two n (by omega) (by omega), ?_⟩
    rw [Nat.mod_eq_of_lt (show n / 64 < 32 by omega)]
    rfl
  split
  case isTrue hlow h =>
    refine ⟨_, .three n (by omega) (by omega), ?_⟩
    rw [Nat.mod_eq_of_lt (show n / 4096 < 16 by omega)]
    rfl
  refine ⟨_, .four n (by omega) (by omega), ?_⟩
  rw [Nat.mod_eq_of_lt (show n / 262144 < 8 by omega)]
  rfl

theorem cons_lt_cons_of_nat {m n : Nat} (hm : m < 256) (hn : n < 256) (s t : List UInt8) :
    UInt8.ofNat m :: s < UInt8.ofNat n :: t ↔ m < n ∨ m = n ∧ s < t := by
  -- A byte below 256 is the number that it was made from.
  rw [List.cons_lt_cons_iff, UInt8.lt_iff_toNat_lt, ← UInt8.toNat_inj,
    UInt8.toNat_ofNat_of_lt' hm, UInt8.toNat_ofNat_of_lt' hn]

/-- A smaller number has smaller bytes, whatever stands behind them. -/
theorem Encodes.lt {m n : Nat} {a b : List Nat} (hm : Encodes m a) (hn : Encodes n b) (h : m < n)
    (s t : List UInt8) : a.map UInt8.ofNat ++ s < b.map UInt8.ofNat ++ t := by
  cases hm <;> cases hn
  -- Sixteen cases. Each comes down to an inequality between the digits of the
  -- two numbers.
  all_goals
    simp (disch := omega) only [List.map_cons, List.map_nil, List.cons_append, List.nil_append,
      cons_lt_cons_of_nat]
    omega

/-- The smaller of two characters has the smaller bytes. -/
theorem utf8EncodeChar_lt {c d : Char} (h : c < d) (s t : List UInt8) :
    String.utf8EncodeChar c ++ s < String.utf8EncodeChar d ++ t := by
  rcases encodes c with ⟨a, ha, hc⟩
  rcases encodes d with ⟨b, hb, hd⟩
  rw [hc, hd]
  rw [Char.lt_def, UInt32.lt_iff_toNat_lt] at h
  exact ha.lt hb h s t

/-! ## Texts -/

/-- The smaller of two texts has the smaller bytes, by induction up to the
    first character that differs. -/
theorem flatMap_lt_of_lt (s t : List Char) (h : s < t) :
    s.flatMap String.utf8EncodeChar < t.flatMap String.utf8EncodeChar := by
  induction s generalizing t with
  | nil =>
      cases t with
      | nil => exact absurd h (List.lt_irrefl [])
      | cons d t =>
          rw [List.flatMap_nil, List.flatMap_cons]
          -- The text that ended is smaller, since a character has at least one byte.
          rcases encodes d with ⟨code, hcode, hd⟩
          rw [hd]
          cases hcode <;> exact List.nil_lt_cons _ _
  | cons c s ih =>
      cases t with
      | nil => exact absurd h (List.not_lt_nil _)
      | cons d t =>
          rw [List.flatMap_cons, List.flatMap_cons]
          -- Either the first characters decide, or they are the same.
          rcases List.cons_lt_cons_iff.1 h with hlt | ⟨rfl, hrest⟩
          · exact utf8EncodeChar_lt hlt _ _
          · exact List.append_left_lt (ih t hrest)

/-- The bytes of texts are in the order of the texts. -/
theorem bytes_lt_iff (s t : String) : bytes s < bytes t ↔ s < t := by
  have hmono : ∀ s t : String, s < t → bytes s < bytes t := by
    intro s t h
    rw [bytes_eq_flatMap, bytes_eq_flatMap]
    exact flatMap_lt_of_lt _ _ (String.lt_iff_toList_lt.1 h)
  refine ⟨fun h => ?_, hmono s t⟩
  by_contra hnot
  -- A text that is not smaller is the same or greater, and so are its bytes.
  rcases lt_or_eq_of_le (String.not_lt.1 hnot) with hlt | rfl
  · exact absurd h (List.lt_asymm (hmono t s hlt))
  · exact absurd h (List.lt_irrefl _)

end Text

end WhereClause
