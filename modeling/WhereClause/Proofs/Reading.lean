import WhereClause.Json.Reader
import WhereClause.Proofs.Layout

/-!
# Reading Written Values

Reading undoes writing, as far as arrays and objects may be nested.

Reading is a run of a machine, so what a text does is what its parts do one
after another. `after?` is that run without positions, which only faults need.
For each kind of value there is one lemma: from a state in which a value may
begin, its text leads to the state in which the value is complete.

The end of a number does not fit that. Nothing marks it, so behind the last
digit the machine still waits for more, and only the next character, or the end
of the text, completes the number. But then it does just what it would have
done behind the complete value. `Settled` says that, and with it numbers are
like any other value for those that come after.

Arrays and objects are read alike, part by part with commas between the parts.
What is different between them is a `Holder`: where a part may begin, where it
ends, and what is complete behind the closing bracket.

## Main definitions

* `State.after?`: The state after a text.
* `Settled`: A state that goes on as another one does behind a value.
* `Ready`: A state in which a value may begin.
* `Spells`: A text that is read as a value wherever there is room for it.
* `Holder`: How the parts of an array or object are read.

## Theorems

* `after?_append`, `run_of_after?`: Runs compose, and a run that can end gives
  the value.
* `after?_quoted`, `after?_ofNat`: Strings and digits.
* `Holder.after?_parts`: All parts with the closing bracket.
* `spells_of_laid`: A laid out value is read as that value.
* `parse_of_laid`: So is a text that consists of one.
-/

namespace WhereClause

namespace Json

namespace Reader

/-- The state after a text, if there is no fault in it. -/
def State.after? (s : State) : List Char → Option State
  | [] => some s
  | c :: rest =>
      match step s c with
      | .ok next => next.after? rest
      | .error _ => none

theorem after?_cons {s t : State} {c : Char} (h : step s c = .ok t) (rest : List Char) :
    s.after? (c :: rest) = t.after? rest := by
  rw [State.after?, h]

/-- A run over two texts is a run over the first and then over the second. -/
theorem after?_append {s t : State} {first : List Char} (h : s.after? first = some t)
    (second : List Char) : s.after? (first ++ second) = t.after? second := by
  induction first generalizing s with
  | nil => rw [Option.some.inj h, List.nil_append]
  | cons c first ih =>
      rw [State.after?] at h
      cases hstep : step s c with
      | error _ =>
          rw [hstep] at h
          cases h
      | ok next =>
          rw [hstep] at h
          rw [List.cons_append, after?_cons hstep, ih h]

/-- A run that ends where the text may end gives the value there. -/
theorem run_of_after? {s t : State} {p : Position} {text : List Char} {value : Json}
    (h : s.after? text = some t) (hfinish : finish t = .ok value) : run s p text = .ok value := by
  induction text generalizing s p with
  | nil =>
      rw [Option.some.inj h, run, hfinish]
      rfl
  | cons c rest ih =>
      rw [State.after?] at h
      cases hstep : step s c with
      | error _ =>
          rw [hstep] at h
          cases h
      | ok next =>
          rw [hstep] at h
          rw [run, hstep]
          exact ih h

/-! ## Strings -/

variable (stack : List Frame) (role : Role)

theorem hexValue?_digitChar :
    ∀ digit < 16, hexValue? (Nat.digitChar digit) = some digit ∧
      (Nat.digitChar digit).utf8Size = 1 := by
  decide

/-- The four digits of a control character are read as that character. -/
theorem after?_control (done : String) {n : Nat} (hn : n < 0x20) :
    (⟨stack, .text role done .plain⟩ : State).after?
        ['\\', 'u', '0', '0', Nat.digitChar (n / 16), Nat.digitChar (n % 16)] =
      some ⟨stack, .text role (done.push (Char.ofNat n)) .plain⟩ := by
  -- A control character has two zeros and two digits of its own behind the
  -- sign.
  have hfirst := hexValue?_digitChar (n / 16) (by omega)
  have hsecond := hexValue?_digitChar (n % 16) (by omega)
  have hvalue : 16 * (n / 16) + n % 16 = n := by omega
  have hzeros : (⟨stack, .text role done .plain⟩ : State).after? ['\\', 'u', '0', '0'] =
      some ⟨stack, .text role done (.digits 2 0 true none)⟩ := rfl
  have htens : step ⟨stack, .text role done (.digits 2 0 true none)⟩ (Nat.digitChar (n / 16)) =
      .ok ⟨stack, .text role done (.digits 1 (n / 16) true none)⟩ := by
    simp only [step, textStep, hfirst, Option.getD_some, Option.isSome_some, Bool.and_self,
      Nat.mul_zero, Nat.zero_add, if_pos (by omega : 1 < 2), Nat.add_one_sub_one]
  have hones : step ⟨stack, .text role done (.digits 1 (n / 16) true none)⟩
      (Nat.digitChar (n % 16)) =
      .ok ⟨stack, .text role (done.push (Char.ofNat n)) .plain⟩ := by
    -- It is no half of a surrogate pair, so nothing has to follow.
    have hnone : isLow n = false ∧ isHigh n = false := by
      simp only [isLow, isHigh, Bool.and_eq_false_iff, decide_eq_false_iff_not]
      omega
    simp only [step, textStep, hsecond, Option.getD_some, Option.isSome_some, Bool.and_self,
      hvalue, Nat.lt_irrefl, if_false, if_true, numbered, hnone, Bool.false_eq_true]
  rw [show ['\\', 'u', '0', '0', Nat.digitChar (n / 16), Nat.digitChar (n % 16)] =
    ['\\', 'u', '0', '0'] ++ [Nat.digitChar (n / 16), Nat.digitChar (n % 16)] from rfl,
    after?_append hzeros, after?_cons htens, after?_cons hones]
  rfl

/-- What is written for a character is read as that character. -/
theorem after?_escapeChar (done : String) (c : Char) :
    (⟨stack, .text role done .plain⟩ : State).after? (escapeChar c) =
      some ⟨stack, .text role (done.push c) .plain⟩ := by
  rw [escapeChar.eq_def]
  split
  case h_8 hquote hbackslash _ _ _ _ _ =>
    split
    · rename_i hcontrol
      -- Of characters without a name, control characters are written in digits, and
      -- others as they are.
      rw [after?_control stack role done hcontrol, Char.ofNat_toNat]
    · rename_i hcontrol
      have hstep : step ⟨stack, .text role done .plain⟩ c =
          .ok ⟨stack, .text role (done.push c) .plain⟩ := by
        simp only [step, textStep, if_neg hquote, if_neg hbackslash, if_neg hcontrol]
      rw [after?_cons hstep]
      rfl
  all_goals rfl

/-- So is what is written for several characters. -/
theorem after?_flatMap_escapeChar (done : String) (s : List Char) :
    (⟨stack, .text role done .plain⟩ : State).after? (s.flatMap escapeChar) =
      some ⟨stack, .text role (s.foldl String.push done) .plain⟩ := by
  induction s generalizing done with
  | nil => rfl
  | cons c rest ih =>
      rw [List.flatMap_cons, after?_append (after?_escapeChar stack role done c), ih,
        List.foldl_cons]

theorem foldl_push (s : List Char) (done : String) :
    (s.foldl String.push done).toList = done.toList ++ s := by
  induction s generalizing done with
  | nil => rw [List.foldl_nil, List.append_nil]
  | cons c rest ih => rw [List.foldl_cons, ih, String.toList_push, List.append_assoc,
      List.singleton_append]

/-- A string is read up to its closing quote. -/
theorem after?_quoted (s : String) :
    (⟨stack, .text role "" .plain⟩ : State).after? (s.toList.flatMap escapeChar ++ ['"']) =
      some (closeText stack s role) := by
  have hall : s.toList.foldl String.push "" = s := by
    rw [← String.toList_inj, foldl_push]
    rfl
  rw [after?_append (after?_flatMap_escapeChar stack role "" s.toList), hall]
  rfl

/-! ## Whole numbers -/

/-- Decimal digits that are written are read as digits, and only one is a zero. -/
theorem digitValue_digitChar :
    ∀ digit < 10, (Nat.digitChar digit).isDigit = true ∧
      Numeral.digitValue (Nat.digitChar digit) = digit ∧
      (Nat.digitChar digit = '0' ↔ digit = 0) := by
  decide

/-- What has been read of a number behind all of its digits. -/
def wholeNumeral (negative : Bool) (n : Nat) : Numeral :=
  ⟨negative, n, 0, if n = 0 then .zero else .whole⟩

/-- Digits are read from any state that takes the first of them for the
    beginning of a number. -/
theorem after?_ofNat {s : State} {negative : Bool}
    (hs : ∀ c, c.isDigit = true →
      step s c = .ok ⟨stack, .number (Numeral.ofDigit negative c)⟩)
    (n : Nat) (hn : n < 0x10000000000000000) :
    s.after? (Decimal.ofNat n) = some ⟨stack, .number (wholeNumeral negative n)⟩ := by
  induction n using Nat.strongRecOn with
  | ind n ih =>
      -- Induction on the number: all but its last digit have been read, and that
      -- one goes on.
      by_cases hsmall : n < 10
      · rcases digitValue_digitChar n hsmall with ⟨hdigit, hvalue, hzero⟩
        rw [Decimal.ofNat, Nat.toDigits_of_lt_base hsmall, after?_cons (hs _ hdigit),
          Numeral.ofDigit, hvalue, wholeNumeral]
        simp only [hzero]
        rfl
      · rcases digitValue_digitChar (n % 10) (by omega) with ⟨hdigit, hvalue, _⟩
        have hhead := ih (n / 10) (by omega) (by omega)
        have hne : ¬n / 10 = 0 := by omega
        have hwhole : 10 * (n / 10) + n % 10 = n := by omega
        rw [wholeNumeral, if_neg hne] at hhead
        -- The significand can take the last digit, because it can take all of them.
        have hlast : step ⟨stack, .number ⟨negative, n / 10, 0, .whole⟩⟩
            (Nat.digitChar (n % 10)) = .ok ⟨stack, .number (wholeNumeral negative n)⟩ := by
          have hfits : Numeral.fits (n / 10) (n % 10) = true := by
            rw [Numeral.fits, hwhole]
            exact decide_eq_true hn
          simp only [step, Numeral.step, hdigit, hvalue, hfits, hwhole, if_true, wholeNumeral,
            if_neg (by omega : ¬n = 0)]
        rw [Decimal.ofNat, Nat.toDigits_of_base_le (by omega) (by omega), ← Decimal.ofNat,
          after?_append hhead, after?_cons hlast]
        rfl

/-- Characters that no number goes on with. -/
def EndsNumber (c : Char) : Prop :=
  c.isDigit = false ∧ c ≠ '.' ∧ c ≠ 'e' ∧ c ≠ 'E'

instance (c : Char) : Decidable (EndsNumber c) :=
  inferInstanceAs (Decidable (_ ∧ _))

/-- A state that goes on as another one does, with any character that ends a
    number and with the end of the text. -/
structure Settled (s target : State) : Prop where
  next : ∀ c, EndsNumber c → step s c = step target c
  finish : finish s = finish target

theorem Settled.refl (s : State) : Settled s s :=
  ⟨fun _ _ => rfl, rfl⟩

theorem Settled.after? {s target : State} (h : Settled s target) {c : Char} (hc : EndsNumber c)
    (rest : List Char) : s.after? (c :: rest) = target.after? (c :: rest) := by
  rw [State.after?, State.after?, h.next c hc]

/-- Behind its digits a number is settled. -/
theorem settled_number {negative : Bool} {m : Nat} {n : Number}
    (hvalue : Numeral.wholeValue negative m = .ok n) :
    Settled ⟨stack, .number (wholeNumeral negative m)⟩ (complete stack (.number n)) := by
  have hread : (wholeNumeral negative m).value = .ok n := by
    rw [← hvalue, wholeNumeral]
    split <;> rfl
  constructor
  · intro c ⟨hdigit, hpoint, hlower, hupper⟩
    -- Whether the number is zero or not, such a character stops it.
    have hstop : (wholeNumeral negative m).step c = .stop := by
      rw [wholeNumeral]
      split <;>
        simp only [Numeral.step, hdigit, Bool.false_eq_true, if_false, Numeral.afterWhole,
          if_neg hpoint, decide_eq_false hlower, decide_eq_false hupper, Bool.or_self]
    simp only [step, hstop, hread, complete, stand]
  · simp only [finish, hread, complete, stand]
    rfl

/-! ## Values -/

/-- States in which a value may begin, with the frames that it is in. -/
inductive Ready : State → List Frame → Prop where
  | value (stack : List Frame) (afterComma : Bool) :
      Ready (stand stack (.value afterComma)) stack
  | firstItem (stack : List Frame) : Ready (stand stack .firstItem) (.array [] :: stack)

variable {stack}

theorem step_space {place : Place} {c : Char} (hc : isSpace c = true) :
    step (stand stack place) c = .ok (stand stack place) := by
  simp only [step, stand, placeStep, hc, if_true]

theorem Ready.space {s : State} (h : Ready s stack) {c : Char} (hc : isSpace c = true) :
    step s c = .ok s := by
  cases h with
  | value stack afterComma => exact step_space hc
  | firstItem stack => exact step_space hc

/-- Any other character begins a value, unless it closes an array. -/
theorem Ready.begin {s : State} (h : Ready s stack) {c : Char} (hspace : isSpace c = false)
    (hbracket : c ≠ ']') : step s c = begin stack c := by
  cases h with
  | value stack afterComma =>
      simp only [step, stand, placeStep, hspace, Bool.false_eq_true, if_false, partStep,
        decide_eq_false hbracket, Bool.false_and]
  | firstItem stack =>
      simp only [step, stand, placeStep, hspace, Bool.false_eq_true, if_false, partStep,
        if_neg hbracket]

/-- A text that is read as a value, wherever one may begin and there is room
    for it. -/
def Spells (text : List Char) (value : Json) : Prop :=
  ∀ (s : State) (stack : List Frame), Ready s stack → stack.length + value.depth ≤ depthLimit →
    ∃ t, s.after? text = some t ∧ Settled t (complete stack value)

theorem spells_null : Spells (compact .null) .null := by
  intro s stack hs _
  refine ⟨complete stack .null, ?_, .refl _⟩
  -- The letters of the word are fixed, so the machine runs through them.
  rw [compact, after?_cons (hs.begin (by decide) (by decide))]
  rfl

theorem spells_bool (b : Bool) : Spells (compact (.bool b)) (.bool b) := by
  intro s stack hs _
  refine ⟨complete stack (.bool b), ?_, .refl _⟩
  cases b with
  | true =>
      rw [compact, after?_cons (hs.begin (by decide) (by decide))]
      rfl
  | false =>
      rw [compact, after?_cons (hs.begin (by decide) (by decide))]
      rfl

theorem spells_text (text : String) : Spells (quoted text) (.text text) := by
  intro s stack hs _
  refine ⟨complete stack (.text text), ?_, .refl _⟩
  have hopen : step s '"' = .ok ⟨stack, .text .value "" .plain⟩ :=
    hs.begin (by decide) (by decide)
  rw [quoted, List.cons_append, after?_cons hopen, after?_quoted]
  rfl

theorem ne_of_isDigit {c d : Char} (hc : c.isDigit = true) (hd : d.isDigit = false) : c ≠ d := by
  rintro rfl
  exact Bool.noConfusion (hc.symm.trans hd)

theorem begin_digit {c : Char} (hc : c.isDigit = true) :
    begin stack c = .ok ⟨stack, .number (Numeral.ofDigit false c)⟩ := by
  have hstart : Numeral.start? c = some (Numeral.ofDigit false c) := by
    rw [Numeral.start?, if_neg (ne_of_isDigit hc (by decide)), if_pos hc]
  -- No digit is the first character of another kind of value.
  rw [begin.eq_def]
  split
  case h_7 => rw [hstart]
  all_goals exact absurd rfl (ne_of_isDigit hc (by decide))

theorem isSpace_of_isDigit {c : Char} (hc : c.isDigit = true) : isSpace c = false := by
  simp only [isSpace, decide_eq_false (ne_of_isDigit hc (by decide : ' '.isDigit = false)),
    decide_eq_false (ne_of_isDigit hc (by decide : '\n'.isDigit = false)),
    decide_eq_false (ne_of_isDigit hc (by decide : '\t'.isDigit = false)),
    decide_eq_false (ne_of_isDigit hc (by decide : '\r'.isDigit = false)), Bool.or_self]

/-- A whole number is read as that number, negative or not. -/
theorem spells_number (n : Int) (bounds : -0x8000000000000000 ≤ n ∧ n < 0x10000000000000000) :
    Spells (Decimal.ofInt n) (.number (.whole n bounds)) := by
  intro s stack hs _
  rw [Decimal.ofInt]
  split
  · rename_i hneg
    -- Behind a sign there must be a digit, so the sign is a state of its own.
    have hsign : step s '-' = .ok ⟨stack, .number ⟨true, 0, 0, .sign⟩⟩ :=
      hs.begin (by decide) (by decide)
    have hdigit (c : Char) (hc : c.isDigit = true) :
        step ⟨stack, .number ⟨true, 0, 0, .sign⟩⟩ c =
          .ok ⟨stack, .number (Numeral.ofDigit true c)⟩ := by
      simp only [step, Numeral.step, hc, if_true]
    refine ⟨_, (after?_cons hsign _).trans (after?_ofNat stack hdigit n.natAbs (by omega)),
      settled_number stack ?_⟩
    have hvalue : -(n.natAbs : Int) = n := by omega
    rw [Numeral.wholeValue, if_pos rfl, dif_pos (by omega)]
    simp only [hvalue]
  · rename_i hpos
    have hdigit (c : Char) (hc : c.isDigit = true) :
        step s c = .ok ⟨stack, .number (Numeral.ofDigit false c)⟩ := by
      rw [hs.begin (isSpace_of_isDigit hc) (ne_of_isDigit hc (by decide)), begin_digit hc]
    refine ⟨_, after?_ofNat stack hdigit n.natAbs (by omega), settled_number stack ?_⟩
    have hvalue : (n.natAbs : Int) = n := by omega
    rw [Numeral.wholeValue, if_neg (by decide), dif_pos (by omega)]
    simp only [hvalue]

/-! ## Parts -/

/-- How the parts of an array or object are read: the states in which the next
    part may begin, those behind the newest part, and what the closing bracket
    makes of all of them. Parts are kept newest first. -/
structure Holder (α : Type) where
  ready : List α → State → Prop
  behind : List α → State
  closing : Char
  whole : List α → State
  ready_space : ∀ {done s}, ready done s → ∀ {c}, isSpace c = true → step s c = .ok s
  behind_space : ∀ done {c}, isSpace c = true → step (behind done) c = .ok (behind done)
  comma : ∀ done, ∃ s, step (behind done) ',' = .ok s ∧ ready done s
  ends : EndsNumber closing
  close : ∀ done, step (behind done) closing = .ok (whole done.reverse)

/-- A text that is read as the next part, whatever was read before. -/
def Holder.Reads {α : Type} (holder : Holder α) (text : List Char) (part : α) : Prop :=
  ∀ (done : List α) (s : State), holder.ready done s →
    ∃ t, s.after? text = some t ∧ Settled t (holder.behind (part :: done))

theorem isSpace_of_gap {gap : List Char} (hgap : Gap gap) : ∀ c ∈ gap, isSpace c = true := by
  intro c hc
  rcases hgap c hc with rfl | rfl <;> rfl

/-- White space changes nothing in a state where none does. -/
theorem after?_gap {s : State} (hs : ∀ {c}, isSpace c = true → step s c = .ok s)
    {gap : List Char} (hgap : ∀ c ∈ gap, isSpace c = true) : s.after? gap = some s := by
  induction gap with
  | nil => rfl
  | cons c rest ih =>
      rw [after?_cons (hs (hgap c List.mem_cons_self))]
      exact ih fun d hd => hgap d (List.mem_cons_of_mem c hd)

theorem endsNumber_of_isSpace {c : Char} (hc : isSpace c = true) : EndsNumber c := by
  simp only [isSpace, Bool.or_eq_true, decide_eq_true_eq] at hc
  rcases hc with ((rfl | rfl) | rfl) | rfl <;> decide

/-- Behind a part only white space stands before the closing bracket. -/
theorem Holder.after?_closing {α : Type} (holder : Holder α) {t : State} {done : List α}
    (h : Settled t (holder.behind done)) {last : List Char} (hlast : Gap last) :
    t.after? (last ++ [holder.closing]) = some (holder.whole done.reverse) := by
  have hspaces := isSpace_of_gap hlast
  have hbehind : (holder.behind done).after? (last ++ [holder.closing]) =
      some (holder.whole done.reverse) := by
    rw [after?_append (after?_gap (holder.behind_space done) hspaces),
      after?_cons (holder.close done)]
    rfl
  rw [← hbehind]
  -- The number may be ended by the bracket, or by a white space before it.
  cases last with
  | nil => exact h.after? holder.ends []
  | cons c rest => exact h.after? (endsNumber_of_isSpace (hspaces c List.mem_cons_self)) _

/-- Behind a part a comma leads to where the next one may begin. If the part is
    a number, the comma is also what ends it. -/
theorem Holder.after?_comma {α : Type} (holder : Holder α) {text : List Char} {part : α}
    (h : holder.Reads text part) {done : List α} {s : State} (hs : holder.ready done s) :
    ∃ next, s.after? (text ++ [',']) = some next ∧ holder.ready (part :: done) next := by
  rcases h done s hs with ⟨t, hread, hsettled⟩
  rcases holder.comma (part :: done) with ⟨next, hcomma, hnext⟩
  have hstep : step t ',' = .ok next := (hsettled.next ',' (by decide)).trans hcomma
  refine ⟨next, ?_, hnext⟩
  rw [after?_append hread, after?_cons hstep]
  rfl

/-- All parts are read with the closing bracket, if there is one at least. -/
theorem Holder.after?_parts {α : Type} (holder : Holder α) {texts : List (List Char)}
    {parts : List α} (h : List.Forall₂ holder.Reads texts parts) (hne : texts ≠ [])
    {last : List Char} (hlast : Gap last) {done : List α} {s : State}
    (hs : holder.ready done s) :
    s.after? ([','].intercalate texts ++ (last ++ [holder.closing])) =
      some (holder.whole (done.reverse ++ parts)) := by
  induction h generalizing done s with
  | nil => exact absurd rfl hne
  | @cons text part texts parts hfirst hrest ih =>
      -- Induction on the parts. Behind the last one comes the bracket, and behind
      -- the others a comma.
      cases hrest with
      | nil =>
          rcases hfirst done s hs with ⟨t, hread, hsettled⟩
          rw [List.intercalate_singleton, after?_append hread,
            holder.after?_closing hsettled hlast, List.reverse_cons]
      | @cons second _ rest _ hsecond hrest =>
          rcases holder.after?_comma hfirst hs with ⟨next, hread, hnext⟩
          rw [List.intercalate_cons_cons, List.append_assoc, after?_append hread,
            ih (List.cons_ne_nil second rest) hnext, List.reverse_cons, List.append_assoc,
            List.singleton_append]

/-- How the items of an array are read. -/
def arrayHolder (stack : List Frame) : Holder Json where
  ready done s := Ready s (.array done :: stack)
  behind done := stand stack (.afterItem done)
  closing := ']'
  whole items := complete stack (.array items)
  ready_space h _ hc := h.space hc
  behind_space _ _ hc := step_space hc
  comma done := ⟨_, rfl, .value _ true⟩
  ends := by decide
  close _ := rfl

/-- States in which a key may begin. -/
inductive KeyReady (stack : List Frame) : List (String × Json) → State → Prop where
  | firstKey : KeyReady stack [] (stand stack .firstKey)
  | nextKey (entries : List (String × Json)) :
      KeyReady stack entries (stand stack (.nextKey entries))

/-- How the entries of an object are read. -/
def objectHolder (stack : List Frame) : Holder (String × Json) where
  ready := KeyReady stack
  behind done := stand stack (.afterEntry done)
  closing := '\x7d'
  whole entries := complete stack (.object entries)
  ready_space h _ hc := by
    cases h with
    | firstKey => exact step_space hc
    | nextKey entries => exact step_space hc
  behind_space _ _ hc := step_space hc
  comma done := ⟨_, rfl, .nextKey done⟩
  ends := by decide
  close _ := rfl

/-- An item is read with the white space before it. -/
theorem reads_item {text : List Char} {item : Json} (h : Spells text item) {gap : List Char}
    (hgap : Gap gap) (hroom : stack.length + 1 + item.depth ≤ depthLimit) :
    (arrayHolder stack).Reads (gap ++ text) item := by
  intro done s hs
  rcases h s (.array done :: stack) hs hroom with ⟨t, hread, hsettled⟩
  refine ⟨t, ?_, hsettled⟩
  rw [after?_append (after?_gap hs.space (isSpace_of_gap hgap)), hread]

/-- Up to the white space behind the colon, an entry leads to where its value
    may begin. -/
theorem after?_key {entries : List (String × Json)} {s : State} (hs : KeyReady stack entries s)
    (key : String) {gap space : List Char} (hgap : Gap gap) (hspace : Gap space) :
    s.after? (gap ++ (quoted key ++ ':' :: space)) =
      some (stand (.entry entries key :: stack) (.value false)) := by
  have hquote : step s '"' = .ok ⟨stack, .text (.key entries) "" .plain⟩ := by
    cases hs with
    | firstKey => rfl
    | nextKey entries => rfl
  -- The colon leads from a key to its value, with the key in the frame.
  have hcolon : step (stand stack (.colon entries key)) ':' =
      .ok (stand (.entry entries key :: stack) (.value false)) := rfl
  rw [after?_append (after?_gap ((objectHolder stack).ready_space hs) (isSpace_of_gap hgap)),
    quoted, List.cons_append, List.cons_append, after?_cons hquote,
    after?_append (after?_quoted stack (.key entries) key), closeText, after?_cons hcolon,
    after?_gap (Ready.value _ false).space (isSpace_of_gap hspace)]

theorem entryText_eq (gap space : List Char) (key : String) (text : List Char) :
    entryText gap space key text = (gap ++ (quoted key ++ ':' :: space)) ++ text := by
  simp only [entryText, List.append_assoc, List.cons_append]

/-- An entry is read with the white space before it and behind its colon. -/
theorem reads_entry {text : List Char} {key : String} {value : Json} (h : Spells text value)
    {gap space : List Char} (hgap : Gap gap) (hspace : Gap space)
    (hroom : stack.length + 1 + value.depth ≤ depthLimit) :
    (objectHolder stack).Reads (entryText gap space key text) (key, value) := by
  intro done s hs
  rcases h _ (.entry done key :: stack) (.value _ false) hroom with ⟨t, hread, hsettled⟩
  refine ⟨t, ?_, hsettled⟩
  rw [entryText_eq, after?_append (after?_key hs key hgap hspace), hread]

/-- All parts are read with the closing bracket, also if there are none. -/
theorem Holder.after?_bracketed {α : Type} (holder : Holder α) {first : State}
    (hfirst : holder.ready [] first)
    (hempty : step first holder.closing = .ok (holder.whole []))
    {texts : List (List Char)} {parts : List α} (h : List.Forall₂ holder.Reads texts parts)
    {last : List Char} (hlast : Gap last) :
    first.after? ([','].intercalate texts ++ (last ++ [holder.closing])) =
      some (holder.whole parts) := by
  cases h with
  | nil =>
      rw [List.intercalate_nil, List.nil_append,
        after?_append (after?_gap (holder.ready_space hfirst) (isSpace_of_gap hlast)),
        after?_cons hempty]
      rfl
  | cons hpart hrest =>
      exact holder.after?_parts (.cons hpart hrest) (List.cons_ne_nil _ _) hlast hfirst

theorem enter_of_room {place : Place} {deeper : Nat}
    (hroom : stack.length + (deeper + 1) ≤ depthLimit) :
    enter stack place = .ok (stand stack place) :=
  if_pos (by omega)

/-- An array is read as that array if its items are read as these items. -/
theorem spells_array {gap last : List Char} (hgap : Gap gap) (hlast : Gap last)
    {texts : List (List Char)} {items : List Json} (h : List.Forall₂ Spells texts items) :
    Spells (bracketed '[' ']' (texts.map (gap ++ ·)) last) (.array items) := by
  intro s stack hs hroom
  rw [depth] at hroom
  -- The bracket takes one from the room that there is for the items.
  have hdepth : ∀ item ∈ items, stack.length + 1 + item.depth ≤ depthLimit := by
    intro item hitem
    have hle := (itemsDepth_le_iff items _).1 (Nat.le_refl _) item hitem
    omega
  have hopen : step s '[' = .ok (stand stack .firstItem) :=
    (hs.begin (by decide) (by decide)).trans (enter_of_room hroom)
  have hparts : List.Forall₂ (arrayHolder stack).Reads (texts.map (gap ++ ·)) items := by
    clear hroom
    induction h with
    | nil => exact .nil
    | cons hfirst hrest ih =>
        have hitems := List.forall_mem_cons.1 hdepth
        exact .cons (reads_item hfirst hgap hitems.1) (ih hitems.2)
  refine ⟨_, (after?_cons hopen _).trans ?_, .refl _⟩
  exact (arrayHolder stack).after?_bracketed (.firstItem stack) rfl hparts hlast

/-- An object is read as that object if its values are read as these values. -/
theorem spells_object {gap space last : List Char} (hgap : Gap gap) (hspace : Gap space)
    (hlast : Gap last) {texts : List (List Char)} {entries : List (String × Json)}
    (h : List.Forall₂ Spells texts (entries.map Prod.snd)) :
    Spells (bracketed '\x7b' '\x7d'
      (List.zipWith (fun entry text => entryText gap space entry.1 text) entries texts) last)
      (.object entries) := by
  intro s stack hs hroom
  rw [depth, entriesDepth_eq] at hroom
  -- Keys are not nested, so only the values have to fit.
  have hdepth : ∀ value ∈ entries.map Prod.snd,
      stack.length + 1 + value.depth ≤ depthLimit := by
    intro value hvalue
    have hle := (itemsDepth_le_iff _ _).1 (Nat.le_refl _) value hvalue
    omega
  have hopen : step s '\x7b' = .ok (stand stack .firstKey) :=
    (hs.begin (by decide) (by decide)).trans (enter_of_room hroom)
  have hparts : List.Forall₂ (objectHolder stack).Reads
      (List.zipWith (fun entry text => entryText gap space entry.1 text) entries texts)
      entries := by
    clear hroom
    induction entries generalizing texts with
    | nil => exact .nil
    | cons entry rest ih =>
        have hvalues := List.forall_mem_cons.1 hdepth
        cases h with
        | cons hfirst hrest =>
            exact .cons (reads_entry hfirst hgap hspace hvalues.1) (ih hrest hvalues.2)
  refine ⟨_, (after?_cons hopen _).trans ?_, .refl _⟩
  exact (objectHolder stack).after?_bracketed .firstKey rfl hparts hlast

/-- A laid out value is read as that value, wherever there is room for it. -/
theorem spells_of_laid {text : List Char} {value : Json} (h : Laid text value) :
    Spells text value := by
  refine Laid.induct spells_null spells_bool spells_number spells_text ?_ ?_ h
  · intro gap last hgap hlast texts items _ ih
    exact spells_array hgap hlast ih
  · intro gap space last hgap hspace hlast texts entries _ ih
    exact spells_object hgap hspace hlast ih

end Reader

/-- A text that consists of a laid out value is that value, if arrays and
    objects are not nested too deeply in it. -/
theorem parse_of_laid {text : List Char} {value : Json} (h : Laid text value)
    (hdepth : value.depth ≤ Reader.depthLimit) : parse (String.ofList text) = .ok value := by
  -- Outside any array or object all of the room is left.
  have hroom : ([] : List Reader.Frame).length + value.depth ≤ Reader.depthLimit := by
    rw [List.length_nil, Nat.zero_add]
    exact hdepth
  rcases Reader.spells_of_laid h _ [] (.value [] false) hroom with ⟨t, hread, hsettled⟩
  rw [parse, String.toList_ofList]
  exact Reader.run_of_after? hread (hsettled.finish.trans rfl)

end Json

end WhereClause
