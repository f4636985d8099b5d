/-!
# Blank Characters

Which characters count as white space, and how a text loses the white space
around it.

Settings, the lines of an environment file and the parts of a written date are
all read with blanks around them ignored. The class is the `White_Space`
property of the Unicode standard and not its ASCII part: a no-break space or
an ideographic space around a number is dropped just as a space is, while a
zero-width space or a byte order mark is not blank at all.

Texts are lists of characters here. What is dropped from either end is then a
`dropWhile`, and the laws of lists are the laws of trimming.

## Main definitions

* `isBlank`: Whether a character is white space.
* `trimStart`, `trimEnd`, `trim`: A text without the blanks at its start, at
  its end, or at both.

## Theorems

* `trimStart_eq_self`: A text that starts with no blank keeps its start.
* `trim_eq_self`: A text with no blank at either end is its own trimming.
* `trim_append_blank`: A blank at the end makes no difference.
* `trim_eq_nil_iff`: Nothing is left exactly of blank texts.
* `isBlank_head?_trim`: A trimmed text begins with no blank.
-/

namespace WhereClause

namespace Text

/-- Whether a character has the `White_Space` property: the ASCII blanks and
    line ends, the no-break space, and the spaces and separators beyond
    them. -/
def isBlank (c : Char) : Bool :=
  let n := c.toNat
  (0x09 ≤ n && n ≤ 0x0D) || n == 0x20 || n == 0x85 || n == 0xA0 || n == 0x1680 ||
    (0x2000 ≤ n && n ≤ 0x200A) || n == 0x2028 || n == 0x2029 || n == 0x202F ||
    n == 0x205F || n == 0x3000

/-- The text without the blanks at its start. -/
def trimStart (s : List Char) : List Char :=
  s.dropWhile isBlank

/-- The text without the blanks at its end. -/
def trimEnd (s : List Char) : List Char :=
  (s.reverse.dropWhile isBlank).reverse

/-- The text without the blanks at either end. -/
def trim (s : List Char) : List Char :=
  trimEnd (trimStart s)

theorem trimStart_eq_self (s : List Char) (h : ∀ c ∈ s.head?, isBlank c = false) :
    trimStart s = s := by
  cases s with
  | nil => rfl
  | cons c r =>
      have hc : isBlank c = false := h c (by simp only [List.head?_cons, Option.mem_def])
      simp only [trimStart, List.dropWhile_cons, hc, Bool.false_eq_true, if_false]

theorem trimEnd_eq_self (s : List Char) (h : ∀ c ∈ s.getLast?, isBlank c = false) :
    trimEnd s = s := by
  have hs : trimStart s.reverse = s.reverse :=
    trimStart_eq_self s.reverse (by simpa only [List.head?_reverse] using h)
  simp only [trimStart] at hs
  simp only [trimEnd, hs, List.reverse_reverse]

/-- Trimming only ever takes away blanks at the ends, so a text with none
    there is left alone. -/
theorem trim_eq_self (s : List Char) (hs : ∀ c ∈ s.head?, isBlank c = false)
    (he : ∀ c ∈ s.getLast?, isBlank c = false) : trim s = s := by
  rw [trim, trimStart_eq_self s hs, trimEnd_eq_self s he]

theorem trimStart_cons (c : Char) (s : List Char) :
    trimStart (c :: s) = if isBlank c = true then trimStart s else c :: s := by
  simp only [trimStart, List.dropWhile_cons]

theorem trimStart_eq_nil_iff (s : List Char) : trimStart s = [] ↔ ∀ c ∈ s, isBlank c = true := by
  induction s with
  | nil => exact ⟨fun _ c hc => absurd hc List.not_mem_nil, fun _ => rfl⟩
  | cons c rest ih =>
      rw [trimStart_cons, List.forall_mem_cons]
      by_cases hc : isBlank c = true
      · rw [if_pos hc, ih]
        exact ⟨fun h => ⟨hc, h⟩, fun h => h.2⟩
      · rw [if_neg hc]
        exact ⟨nofun, fun h => absurd h.1 hc⟩

/-- What is left of a text begins with no blank. -/
theorem isBlank_head?_trimStart (s : List Char) :
    ∀ c ∈ (trimStart s).head?, isBlank c = false := by
  induction s with
  | nil => exact nofun
  | cons c rest ih =>
      rw [trimStart_cons]
      by_cases hc : isBlank c = true
      · rw [if_pos hc]
        exact ih
      · rw [if_neg hc]
        intro d hd
        rw [← Option.some.inj hd]
        exact eq_false_of_ne_true hc

theorem trimEnd_append_blank (s : List Char) (c : Char) (h : isBlank c = true) :
    trimEnd (s ++ [c]) = trimEnd s := by
  simp only [trimEnd, List.reverse_append, List.reverse_singleton, List.singleton_append,
    List.dropWhile_cons, h, if_true]

/-- A blank at the end of a text makes no difference to its trimming. -/
theorem trim_append_blank (s : List Char) (c : Char) (h : isBlank c = true) :
    trim (s ++ [c]) = trim s := by
  unfold trim trimStart
  rw [List.dropWhile_append]
  by_cases hall : (s.dropWhile isBlank).isEmpty = true
  · -- The whole text is blank, and so is what is behind it.
    rw [if_pos hall, List.isEmpty_iff.1 hall]
    simp only [List.dropWhile_cons, h, if_true, List.dropWhile_nil]
  · rw [if_neg hall]
    exact trimEnd_append_blank _ c h

/-- Nothing is left of a text exactly if it is blank. -/
theorem trim_eq_nil_iff (s : List Char) : trim s = [] ↔ ∀ c ∈ s, isBlank c = true := by
  have hreverse : ∀ t : List Char, trimEnd t = [] ↔ trimStart t.reverse = [] := by
    intro t
    rw [trimEnd, List.reverse_eq_nil_iff, trimStart]
  rw [trim, hreverse, trimStart_eq_nil_iff]
  simp only [List.mem_reverse]
  constructor
  · -- What is kept begins with no blank, so there is nothing that is kept.
    intro h
    rcases hstart : trimStart s with _ | ⟨d, rest⟩
    · exact (trimStart_eq_nil_iff s).1 hstart
    · have hd := isBlank_head?_trimStart s d (by rw [hstart]; rfl)
      rw [h d (by rw [hstart]; exact List.mem_cons_self)] at hd
      cases hd
  · intro h
    rw [(trimStart_eq_nil_iff s).2 h]
    exact fun c hc => absurd hc List.not_mem_nil

/-- A trimmed text begins with no blank. -/
theorem isBlank_head?_trim (s : List Char) : ∀ c ∈ (trim s).head?, isBlank c = false := by
  intro c hc
  have hsplit : trimStart s = trim s ++ ((trimStart s).reverse.takeWhile isBlank).reverse := by
    rw [trim, trimEnd, ← List.reverse_append, List.takeWhile_append_dropWhile,
      List.reverse_reverse]
  refine isBlank_head?_trimStart s c ?_
  rw [hsplit, List.head?_append, Option.mem_def.1 hc]
  rfl

end Text

end WhereClause
