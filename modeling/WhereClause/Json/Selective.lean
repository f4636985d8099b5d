import WhereClause.Json.Reader

/-!
# Selective Reading

Reading a JSON text for a decoder that asks for some parts of it only.

An object may have entries that its decoder has never heard of. Such a part
still has to have the form of a JSON value, or there would be no telling where
it ends. But nothing in it has to stand for anything, so the faults that are
not about the form are forgiven there: a number that is too large, half of a
surrogate pair, and nesting of any depth.

Which parts are skipped is said by the steps that lead to them from the root.
Outside of these parts a text is read as `Json.parse` reads it, and a text
that can be read in full has the same value either way.

A decoder may also want to judge the value before what follows it in the text,
so the value is given with the rest of the text.

## Main definitions

* `Reader.State.steps`: The steps to the current place of a reader.
* `Reader.forgive`: A fault that does not count.
* `leading?`: The value a text begins with, and the rest of the text.
* `selected?`: The value of a text.

## Theorems

* `selected?_of_parse`: What can be read in full is read as it stands.
-/

namespace WhereClause

namespace Json

namespace Reader

/-- The step from an array or object to the value that is read in it: the key,
    and nothing for an item. -/
def Frame.key? : Frame → Option String
  | .array _ => none
  | .entry _ key => some key

/-- The steps from the root to the current place. -/
def State.steps (s : State) : List (Option String) :=
  s.stack.reverse.map Frame.key?

/-- The state after a character that shows a fault, unless the fault is about
    the form. -/
def forgive (s : State) (c : Char) (fault : Fault) : Except Fault State :=
  match fault.cause, s.mode with
  | .tooDeep, .between place =>
      let stack := match place with
        | .firstItem => .array [] :: s.stack
        | _ => s.stack
      .ok (stand stack (if c = '[' then .firstItem else .firstKey))
  | .numberOutOfRange, .number numeral =>
      if c.isDigit then .ok ⟨s.stack, .number { numeral with phase := .vanished }⟩
      else
        let (stack, place) := landing s.stack .null
        placeStep stack place c
  | .loneSurrogate, .text role done _ => .ok ⟨s.stack, .text role done .plain⟩
  -- The half pair is over, and the character is one like any other.
  | .unfinishedPair, .text role done (.pair _) => textStep s.stack role done .plain c
  | .unfinishedPair, .text role done (.pairBackslash _) =>
      textStep s.stack role done .backslash c
  | _, _ => .error fault

/-- One character, where some parts of the text are skipped. -/
def selectiveStep (skips : List (Option String) → Bool) (s : State) (c : Char) :
    Except Fault State :=
  match step s c with
  | .ok next => .ok next
  | .error fault => if skips s.steps then forgive s c fault else .error fault

/-- The value that is complete first when a text is read from a state, and the
    rest of the text. -/
def leading? (skips : List (Option String) → Bool) (s : State) :
    List Char → Option (Json × List Char)
  | [] => (finish s).toOption.map fun value => (value, [])
  | c :: rest =>
      match s.mode with
      | .between (.done value) => some (value, c :: rest)
      | _ =>
          match selectiveStep skips s c with
          | .ok next => leading? skips next rest
          | .error _ => none

/-- After a value that is complete only white space can follow. -/
theorem run_done {stack : List Frame} {value read : Json} {p : Position} {text : List Char}
    (h : run (stand stack (.done value)) p text = .ok read) :
    read = value ∧ text.all isSpace = true := by
  induction text generalizing p with
  | nil =>
      exact ⟨(Except.ok.inj h).symm, rfl⟩
  | cons c rest ih =>
      by_cases hc : isSpace c = true
      · have hstep : step (stand stack (.done value)) c = .ok (stand stack (.done value)) := by
          simp only [step, stand, placeStep, hc, if_true]
        rw [run, hstep] at h
        simp only [List.all_cons, hc, Bool.true_and, ih h, and_self]
      · have hstep : step (stand stack (.done value)) c = fail .trailingCharacters := by
          simp only [step, stand, placeStep, hc, partStep, Bool.false_eq_true, if_false]
        rw [run, hstep] at h
        cases h

/-- Reading in full and reading selectively find the same value first. -/
theorem leading?_of_run (skips : List (Option String) → Bool) {s : State} {p : Position}
    {text : List Char} {value : Json} (h : run s p text = .ok value) :
    ∃ rest, leading? skips s text = some (value, rest) ∧ rest.all isSpace = true := by
  induction text generalizing s p with
  | nil =>
      refine ⟨[], ?_, rfl⟩
      rw [run] at h
      rw [leading?]
      cases hf : finish s with
      | error _ => rw [hf] at h; cases h
      | ok found =>
          rw [hf] at h
          rw [Except.ok.inj h]
          rfl
  | cons c rest ih =>
      rw [leading?]
      split
      · rename_i found hmode
        have hs : s = stand s.stack (.done found) := by rw [stand, ← hmode]
        rw [hs] at h
        have hdone := run_done h
        exact ⟨c :: rest, by rw [hdone.1], hdone.2⟩
      · rw [run] at h
        cases hstep : step s c with
        | error _ => rw [hstep] at h; cases h
        | ok next =>
            rw [hstep] at h
            simp only [selectiveStep, hstep]
            exact ih h

end Reader

/-- The value a text begins with, and the rest of the text, where the parts
    that `skips` tells by their steps are skipped. -/
def leading? (skips : List (Option String) → Bool) (text : String) :
    Option (Json × List Char) :=
  Reader.leading? skips .initial text.toList

/-- The value of a text in which some parts are skipped. -/
def selected? (skips : List (Option String) → Bool) (text : String) : Option Json :=
  match leading? skips text with
  | some (value, rest) => if rest.all Reader.isSpace then some value else none
  | none => none

/-- A text that can be read in full has the same value whatever is skipped. -/
theorem selected?_of_parse (skips : List (Option String) → Bool) (text : String) (value : Json)
    (h : parse text = .ok value) : selected? skips text = some value := by
  obtain ⟨rest, hleading, hrest⟩ := Reader.leading?_of_run skips h
  simp only [selected?, leading?, hleading, hrest, if_true]

end Json

end WhereClause
