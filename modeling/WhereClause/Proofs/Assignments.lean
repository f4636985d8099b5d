import Mathlib.Data.List.TakeWhile
import WhereClause.CommandLine.Run
import WhereClause.Proofs.FileLines

/-!
# What Loading Assigns

The environment after environment files were loaded, and the faults that were
found in them.

A file is loaded line by line, and the environment changes while the lines are
still being judged. What is left when a bad line is met is not what was there
before, nor is it what the whole file says. It is what the lines before the bad
one say, and among these the last one that mentions a name counts.

`Overrides` puts this as a relation between two environments and the lines
between them. Lines that follow each other are related by `Overrides.append`,
and the relation does not care where one file ends and the next begins, whether
a load has failed, or whether a file could be read at all. So a sequence of
loads does what one load of all the sound lines would do.

A fault is that of the first bad line, with its number. It does not depend on
the environment, so a load fails in a sequence as it does alone.

## Main definitions

* `IsBad`, `Blames`, `FirstBad`: Bad lines, and the fault of the first one.
* `sound`: The lines before the first bad one.
* `LastAssigns`: The value that lines give to a name in the end.
* `Overrides`: What lines do to an environment.
* `loadAll`: Several files, one after another.
* `fileLines`, `Ends`: What a load gets from a file, and how it ends.

## Theorems

* `loadLines_eq_some_iff`, `loadLines_eq_none_iff`: The fault of a load.
* `Overrides.append`: Lines that follow each other.
* `overrides_loadLines`: What a load does to an environment.
* `ends_loadFile`, `overrides_loadFile`: The same for files that may be
  unreadable.
* `last_assignment_wins`: Single loads, and sequences of them.
-/

namespace WhereClause

namespace EnvFile

/-! ## Bad lines -/

/-- Whether loading stops at a line. -/
def IsBad (line : List Char) : Prop :=
  Says line .noAssignment ∨ Says line .emptyName

instance (line : List Char) : Decidable (IsBad line) :=
  decidable_of_iff (Line.ofText line = .noAssignment ∨ Line.ofText line = .emptyName)
    (or_congr (ofText_eq_iff line _) (ofText_eq_iff line _))

/-- What a bad line with a given number is blamed for. -/
inductive Blames (line : List Char) (number : Nat) : Fault → Prop where
  | noAssignment (said : Says line .noAssignment) : Blames line number (.noAssignment number)
  | emptyName (said : Says line .emptyName) : Blames line number (.emptyName number)

/-- The fault of the first bad line, where the first line has a given
    number. -/
def FirstBad (number : Nat) (lines : List (List Char)) (fault : Fault) : Prop :=
  ∃ before line after, lines = before ++ line :: after ∧ (∀ other ∈ before, ¬ IsBad other) ∧
    Blames line (number + before.length) fault

/-- The lines before the first bad one, and all lines if there is none. -/
def sound (lines : List (List Char)) : List (List Char) :=
  lines.takeWhile fun line => ¬ IsBad line

theorem isBad_of_blames {line : List Char} {number : Nat} {fault : Fault}
    (h : Blames line number fault) : IsBad line := by
  cases h with
  | noAssignment said => exact Or.inl said
  | emptyName said => exact Or.inr said

/-- The first bad line is the first line or comes after it. -/
theorem firstBad_cons_iff (number : Nat) (line : List Char) (rest : List (List Char))
    (fault : Fault) :
    FirstBad number (line :: rest) fault ↔
      Blames line number fault ∨ ¬ IsBad line ∧ FirstBad (number + 1) rest fault := by
  constructor
  · rintro ⟨before, bad, after, apart, fine, blames⟩
    cases before with
    | nil =>
        -- Nothing is before the bad line, so it is the first one here.
        rw [(List.cons.inj apart).1]
        exact Or.inl blames
    | cons first before =>
        have hcons := List.cons.inj apart
        rw [List.length_cons, Nat.add_comm before.length, ← Nat.add_assoc] at blames
        rw [List.forall_mem_cons] at fine
        rw [hcons.1]
        exact Or.inr ⟨fine.1, before, bad, after, hcons.2, fine.2, blames⟩
  · rintro (blames | ⟨good, before, bad, after, apart, fine, blames⟩)
    · exact ⟨[], line, rest, rfl, fun _ h => absurd h List.not_mem_nil, blames⟩
    · refine ⟨line :: before, bad, after, by rw [apart, List.cons_append],
        List.forall_mem_cons.2 ⟨good, fine⟩, ?_⟩
      rwa [List.length_cons, Nat.add_comm before.length, ← Nat.add_assoc]

/-- A line is sound if the reader finds neither of the two faults in it. -/
theorem not_isBad_iff (line : List Char) :
    ¬ IsBad line ↔ Line.ofText line ≠ .noAssignment ∧ Line.ofText line ≠ .emptyName := by
  rw [IsBad, ← ofText_eq_iff, ← ofText_eq_iff, not_or]

theorem not_isBad_of_skipped {line : List Char} (h : Line.ofText line = .skipped) :
    ¬ IsBad line := by
  rw [not_isBad_iff, h]
  decide

theorem not_isBad_of_assignment {line : List Char} {name value : String}
    (h : Line.ofText line = .assignment name value) : ¬ IsBad line := by
  rw [not_isBad_iff, h]
  simp only [ne_eq, reduceCtorEq, not_false_eq_true, and_self]

/-- A line says one thing only, so it is blamed for one thing only. -/
theorem blames_unique {line : List Char} {number : Nat} {fault other : Fault}
    (hfault : Blames line number fault) (hother : Blames line number other) : fault = other := by
  have hboth : ¬ (Says line .noAssignment ∧ Says line .emptyName) := by
    rintro ⟨hno, hempty⟩
    cases (ofText_of_saying line _ hno).symm.trans (ofText_of_saying line _ hempty)
  cases hfault with
  | noAssignment said =>
      cases hother with
      | noAssignment => rfl
      | emptyName again => exact absurd ⟨said, again⟩ hboth
  | emptyName said =>
      cases hother with
      | noAssignment again => exact absurd ⟨again, said⟩ hboth
      | emptyName => rfl

/-- A sound line is passed, and it counts for the number of the first bad one. -/
theorem firstBad_cons_of_good {line : List Char} (hgood : ¬ IsBad line) (number : Nat)
    (rest : List (List Char)) (fault : Fault) :
    FirstBad number (line :: rest) fault ↔ FirstBad (number + 1) rest fault := by
  rw [firstBad_cons_iff]
  exact ⟨fun h => (h.resolve_left fun blames => hgood (isBad_of_blames blames)).2,
    fun h => Or.inr ⟨hgood, h⟩⟩

/-- A bad line is the first one, whatever comes after it. -/
theorem firstBad_cons_of_blames {line : List Char} {number : Nat} {fault : Fault}
    (blames : Blames line number fault) (rest : List (List Char)) (other : Fault) :
    FirstBad number (line :: rest) other ↔ fault = other := by
  rw [firstBad_cons_iff]
  constructor
  · rintro (again | ⟨hgood, _⟩)
    · exact blames_unique blames again
    · exact absurd (isBad_of_blames blames) hgood
  · rintro rfl
    exact Or.inl blames

/-- A load fails with the fault of the first bad line, by induction over the
    lines. -/
theorem loadLines_eq_some_iff (env : Environment) (number : Nat) (lines : List (List Char))
    (fault : Fault) :
    (loadLines env number lines).2 = some fault ↔ FirstBad number lines fault := by
  induction lines generalizing env number with
  | nil =>
      rw [loadLines]
      constructor
      · -- There is no line that could be bad.
        intro h
        cases h
      · rintro ⟨before, _, _, apart, _⟩
        cases before <;> cases apart
  | cons line rest ih =>
      rw [loadLines]
      cases hline : Line.ofText line with
      | skipped => rw [ih, firstBad_cons_of_good (not_isBad_of_skipped hline)]
      | assignment name value => rw [ih, firstBad_cons_of_good (not_isBad_of_assignment hline)]
      | noAssignment =>
          have blames : Blames line number (.noAssignment number) :=
            .noAssignment ((ofText_eq_iff line _).1 hline)
          rw [firstBad_cons_of_blames blames, Option.some_inj]
      | emptyName =>
          have blames : Blames line number (.emptyName number) :=
            .emptyName ((ofText_eq_iff line _).1 hline)
          rw [firstBad_cons_of_blames blames, Option.some_inj]

/-- Where there is a bad line there is a first one. -/
theorem exists_firstBad (number : Nat) (lines : List (List Char)) (line : List Char)
    (hline : line ∈ lines) (hbad : IsBad line) : ∃ fault, FirstBad number lines fault := by
  induction lines generalizing number with
  | nil => exact absurd hline List.not_mem_nil
  | cons first rest ih =>
      by_cases hfirst : IsBad first
      · rcases hfirst with said | said
        · exact ⟨_, (firstBad_cons_of_blames (.noAssignment said) rest _).2 rfl⟩
        · exact ⟨_, (firstBad_cons_of_blames (.emptyName said) rest _).2 rfl⟩
      · have hrest : line ∈ rest := by
          rcases List.mem_cons.1 hline with rfl | hrest
          · exact absurd hbad hfirst
          · exact hrest
        rcases ih (number + 1) hrest with ⟨fault, hfault⟩
        exact ⟨fault, (firstBad_cons_of_good hfirst number rest fault).2 hfault⟩

/-- A load succeeds if no line is bad. -/
theorem loadLines_eq_none_iff (env : Environment) (number : Nat) (lines : List (List Char)) :
    (loadLines env number lines).2 = none ↔ ∀ line ∈ lines, ¬ IsBad line := by
  rw [Option.eq_none_iff_forall_ne_some]
  constructor
  · intro h line hline hbad
    rcases exists_firstBad number lines line hline hbad with ⟨fault, hfault⟩
    exact h fault ((loadLines_eq_some_iff env number lines fault).2 hfault)
  · intro h fault hfault
    rcases (loadLines_eq_some_iff env number lines fault).1 hfault with
      ⟨before, line, after, rfl, _, blames⟩
    exact h line (List.mem_append_right before List.mem_cons_self) (isBad_of_blames blames)

/-! ## Assignments -/

/-- Whether a line gives a name a value. -/
def Assigns (line : List Char) (name value : String) : Prop :=
  Says line (.assignment name value)

/-- The value that the last line to mention a name gives it. -/
def LastAssigns (lines : List (List Char)) (name value : String) : Prop :=
  ∃ before line after, lines = before ++ line :: after ∧ Assigns line name value ∧
    ∀ other ∈ after, ∀ later, ¬ Assigns other name later

/-- What lines do to an environment. -/
structure Overrides (lines : List (List Char)) (old new : Environment) : Prop where
  /-- A name that is given values has the last of them. -/
  assigned : ∀ name value, LastAssigns lines name value → new.get? name = some value
  /-- A name that is given none keeps what it had. -/
  kept : ∀ name, (∀ line ∈ lines, ∀ value, ¬ Assigns line name value) →
    new.get? name = old.get? name

/-- The last line to mention a name is in the second part, unless only the first
    part mentions it. -/
theorem lastAssigns_append {first second : List (List Char)} {name value : String}
    (h : LastAssigns (first ++ second) name value) :
    LastAssigns second name value ∨
      LastAssigns first name value ∧ ∀ line ∈ second, ∀ later, ¬ Assigns line name later := by
  rcases h with ⟨before, line, after, apart, assigns, last⟩
  rcases List.append_eq_append_iff.1 apart with ⟨more, hbefore, hsecond⟩ | ⟨more, hfirst, hmore⟩
  · exact Or.inl ⟨more, line, after, hsecond, assigns, last⟩
  · cases more with
    | nil => exact Or.inl ⟨[], line, after, hmore.symm, assigns, last⟩
    | cons head more =>
        -- The last assignment stands in the first part, so the second has none.
        have hcons := List.cons.inj hmore
        rw [hcons.2] at last
        rw [← hcons.1] at hfirst
        exact Or.inr ⟨⟨before, line, more, hfirst, assigns,
          fun other hother => last other (List.mem_append_left second hother)⟩,
          fun other hother => last other (List.mem_append_right more hother)⟩

theorem Overrides.nil (env : Environment) : Overrides [] env env where
  assigned := by
    rintro _ _ ⟨before, _, _, apart, _⟩
    cases before <;> cases apart
  kept _ _ := rfl

/-- Lines that follow each other do what the first ones do and then what the
    second ones do. -/
theorem Overrides.append {first second : List (List Char)} {old middle new : Environment}
    (hfirst : Overrides first old middle) (hsecond : Overrides second middle new) :
    Overrides (first ++ second) old new where
  assigned := by
    intro name value h
    rcases lastAssigns_append h with hlast | ⟨hlast, hnone⟩
    · exact hsecond.assigned name value hlast
    · rw [hsecond.kept name hnone]
      exact hfirst.assigned name value hlast
  kept := by
    intro name hnone
    rw [hsecond.kept name fun line hline => hnone line (List.mem_append_right first hline)]
    exact hfirst.kept name fun line hline => hnone line (List.mem_append_left second hline)

/-- Of a single line the last assignment is its own. -/
theorem lastAssigns_singleton {line : List Char} {name value : String}
    (h : LastAssigns [line] name value) : Assigns line name value := by
  rcases h with ⟨before, other, after, apart, assigns, _⟩
  rcases List.append_eq_singleton_iff.1 apart.symm with ⟨_, hline⟩ | ⟨_, hline⟩
  · rw [(List.cons.inj hline).1] at assigns
    exact assigns
  · exact absurd hline (List.cons_ne_nil _ _)

/-- If a name is given values, one of them is the last. -/
theorem exists_lastAssigns (lines : List (List Char)) (name : String)
    (h : ∃ line ∈ lines, ∃ value, Assigns line name value) :
    ∃ value, LastAssigns lines name value := by
  induction lines with
  | nil =>
      rcases h with ⟨line, hline, _⟩
      exact absurd hline List.not_mem_nil
  | cons first rest ih =>
      -- The last of the rest is the last of all. If there is none, the first line
      -- is the one.
      by_cases hrest : ∃ line ∈ rest, ∃ value, Assigns line name value
      · rcases ih hrest with ⟨value, before, line, after, apart, assigns, last⟩
        exact ⟨value, first :: before, line, after, by rw [apart, List.cons_append], assigns, last⟩
      · rcases h with ⟨line, hline, value, assigns⟩
        rcases List.mem_cons.1 hline with rfl | hmem
        · exact ⟨value, [], line, rest, rfl, assigns,
            fun other hother later hlater => hrest ⟨other, hother, later, hlater⟩⟩
        · exact absurd ⟨line, hmem, value, assigns⟩ hrest

theorem Overrides.same (env : Environment) (line : List Char)
    (hnone : ∀ name value, ¬ Assigns line name value) : Overrides [line] env env where
  assigned name value h := absurd (lastAssigns_singleton h) (hnone name value)
  kept _ _ := rfl

/-- A line that gives a name a value sets it. -/
theorem Overrides.set (env : Environment) (line : List Char) (name value : String)
    (hline : Line.ofText line = .assignment name value) :
    Overrides [line] env (env.set name value) where
  assigned := by
    intro other later h
    have heq := hline.symm.trans (ofText_of_saying line _ (lastAssigns_singleton h))
    injection heq with hname hvalue
    rw [Environment.get?_set, if_pos hname, hvalue]
  kept := by
    intro other hnone
    -- The line mentions the name that it sets.
    have hne : name ≠ other := by
      rintro rfl
      exact hnone line List.mem_cons_self value ((ofText_eq_iff line _).1 hline)
    rw [Environment.get?_set, if_neg hne]

theorem sound_cons_of_good {line : List Char} (hgood : ¬ IsBad line) (rest : List (List Char)) :
    sound (line :: rest) = [line] ++ sound rest := by
  simp only [sound, List.takeWhile_cons, hgood, not_false_eq_true, decide_true, if_true,
    List.singleton_append]

theorem sound_cons_of_bad {line : List Char} (hbad : IsBad line) (rest : List (List Char)) :
    sound (line :: rest) = [] := by
  simp only [sound, List.takeWhile_cons, hbad, not_true_eq_false, decide_false,
    Bool.false_eq_true, if_false]

theorem sound_eq_self (lines : List (List Char)) (h : ∀ line ∈ lines, ¬ IsBad line) :
    sound lines = lines := by
  rw [sound, List.takeWhile_eq_self_iff]
  intro line hline
  rw [decide_eq_true_eq]
  exact h line hline

/-- A load does what the lines before the first bad one say, by induction over
    the lines. -/
theorem overrides_loadLines (env : Environment) (number : Nat) (lines : List (List Char)) :
    Overrides (sound lines) env (loadLines env number lines).1 := by
  induction lines generalizing env number with
  | nil => exact .nil env
  | cons line rest ih =>
      rw [loadLines]
      cases hline : Line.ofText line with
      | skipped =>
          rw [sound_cons_of_good (not_isBad_of_skipped hline)]
          refine Overrides.append (.same env line fun name value assigns => ?_)
            (ih env (number + 1))
          cases hline.symm.trans (ofText_of_saying line _ assigns)
      | assignment name value =>
          rw [sound_cons_of_good (not_isBad_of_assignment hline)]
          exact Overrides.append (.set env line name value hline)
            (ih (env.set name value) (number + 1))
      | noAssignment =>
          -- The load ends here, with the environment as it is.
          rw [sound_cons_of_bad (Or.inl ((ofText_eq_iff line _).1 hline))]
          exact .nil env
      | emptyName =>
          rw [sound_cons_of_bad (Or.inr ((ofText_eq_iff line _).1 hline))]
          exact .nil env

/-! ## Files -/

open CommandLine

/-- The lines that a load gets from what reading a file has given. -/
def fileLines : Except FileFault String → List (List Char)
  | .ok content => sound (textLines content.toList)
  | .error _ => []

/-- How the load of a file ends. -/
inductive Ends (path : String) : Except FileFault String → Option EnvFileError → Prop where
  | unreadable (fault : FileFault) : Ends path (.error fault) (some (.unreadable path fault))
  | badLine (content : String) (fault : Fault)
      (first : FirstBad 1 (textLines content.toList) fault) :
      Ends path (.ok content) (some (.badLine fault))
  | loaded (content : String) (good : ∀ line ∈ textLines content.toList, ¬ IsBad line) :
      Ends path (.ok content) none

/-- A load ends as the file has it, whatever the environment is. -/
theorem ends_loadFile (fileText : String → Except FileFault String) (env : Environment)
    (path : String) : Ends path (fileText path) (loadFile fileText env path).2 := by
  rw [loadFile]
  cases fileText path with
  | error fault => exact .unreadable fault
  | ok content =>
      simp only [load_eq_loadLines]
      cases hfault : (loadLines env 1 (textLines content.toList)).2 with
      | none =>
          have hgood := (loadLines_eq_none_iff env 1 _).1 hfault
          rw [Option.map_none]
          exact .loaded content hgood
      | some fault =>
          have hfirst := (loadLines_eq_some_iff env 1 _ fault).1 hfault
          rw [Option.map_some]
          exact .badLine content fault hfirst

/-- A load can end in one way only. -/
theorem loadFile_of_ends {fileText : String → Except FileFault String} {env : Environment}
    {path : String} {error : Option EnvFileError} (h : Ends path (fileText path) error) :
    (loadFile fileText env path).2 = error := by
  generalize hreading : fileText path = reading at h
  rw [loadFile, hreading]
  cases h with
  | unreadable fault => rfl
  | badLine content fault first =>
      simp only [load_eq_loadLines, (loadLines_eq_some_iff env 1 _ fault).2 first, Option.map_some]
  | loaded content good =>
      simp only [load_eq_loadLines, (loadLines_eq_none_iff env 1 _).2 good, Option.map_none]

/-- The environment after a load is what the lines that it got have made of it.
    A file that cannot be read has none. -/
theorem overrides_loadFile (fileText : String → Except FileFault String) (env : Environment)
    (path : String) :
    Overrides (fileLines (fileText path)) env (loadFile fileText env path).1 := by
  rw [loadFile]
  cases fileText path with
  | error fault => exact .nil env
  | ok content =>
      simp only [load_eq_loadLines]
      exact overrides_loadLines env 1 (textLines content.toList)

/-- The environment after several files, each with what reading it gives when
    its turn comes, and how each load has ended. A failed load does not keep
    the next one from being made. -/
def loadAll (env : Environment) :
    List (String × Except FileFault String) → Environment × List (Option EnvFileError)
  | [] => (env, [])
  | (path, reading) :: rest =>
      let (next, error) := loadFile (fun _ => reading) env path
      let (last, errors) := loadAll next rest
      (last, error :: errors)

/-- In a sequence every load ends as it does alone, by induction over the loads. -/
theorem ends_loadAll (env : Environment) (files : List (String × Except FileFault String)) :
    List.Forall₂ (fun file error => Ends file.1 file.2 error) files (loadAll env files).2 := by
  induction files generalizing env with
  | nil => exact .nil
  | cons file rest ih =>
      rcases file with ⟨path, reading⟩
      exact .cons (ends_loadFile (fun _ => reading) env path) (ih _)

/-- Several loads do what the sound lines of all the files say, by induction
    over the loads. -/
theorem overrides_loadAll (env : Environment) (files : List (String × Except FileFault String)) :
    Overrides (files.flatMap fun file => fileLines file.2) env (loadAll env files).1 := by
  induction files generalizing env with
  | nil => exact .nil env
  | cons file rest ih =>
      rcases file with ⟨path, reading⟩
      rw [List.flatMap_cons]
      exact (overrides_loadFile (fun _ => reading) env path).append (ih _)

/-- A load fails exactly if a line is bad, with the fault of the first bad line.
    Each name has the value that was assigned to it last before that line, or
    what it had before. In a sequence of loads each of them ends as it does
    alone, and the assignments of all of them count together, those of later
    files after those of earlier ones. -/
theorem last_assignment_wins :
    (∀ (env : Environment) (content : String),
      ((load env content).2 = none ↔ ∀ line ∈ textLines content.toList, ¬ IsBad line) ∧
      (∀ fault, (load env content).2 = some fault ↔
        FirstBad 1 (textLines content.toList) fault) ∧
      Overrides (sound (textLines content.toList)) env (load env content).1) ∧
    ∀ (env : Environment) (files : List (String × Except FileFault String)),
      List.Forall₂ (fun file error => Ends file.1 file.2 error) files (loadAll env files).2 ∧
      Overrides (files.flatMap fun file => fileLines file.2) env (loadAll env files).1 := by
  constructor
  · intro env content
    rw [load_eq_loadLines]
    exact ⟨loadLines_eq_none_iff env 1 _, loadLines_eq_some_iff env 1 _,
      overrides_loadLines env 1 _⟩
  · exact fun env files => ⟨ends_loadAll env files, overrides_loadAll env files⟩

/-- A file, one that is not there, and one with a bad line in it: what stands
    behind the bad line does not count, and what stands before it does. -/
theorem last_assignment_wins_after_faults :
    let files : List (String × Except FileFault String) :=
      [("a", .ok "# limits\r\n A = 1\r\nB='two'\r\nA=\"3\""), ("b", .error .missing),
        ("c", .ok "\nB = x=#\n =y\nA=4")]
    LastAssigns (files.flatMap fun file => fileLines file.2) "B" "x=#" ∧
      (loadAll ⟨[("A", "0"), ("C", "5")]⟩ files).1.get? "B" = some "x=#" ∧
      (loadAll ⟨[("A", "0"), ("C", "5")]⟩ files).1.get? "A" = some "3" ∧
      (loadAll ⟨[("A", "0"), ("C", "5")]⟩ files).2 =
        [none, some (.unreadable "b" .missing), some (.badLine (.emptyName 3))] := by
  intro files
  -- The first of the sound lines of the third file is empty, and the second is
  -- the one.
  have hlast : LastAssigns (files.flatMap fun file => fileLines file.2) "B" "x=#" := by
    refine ⟨["# limits".toList, " A = 1".toList, "B='two'".toList, "A=\"3\"".toList, []],
      "B = x=#".toList, [], by decide, ?_, fun _ h => absurd h List.not_mem_nil⟩
    exact (ofText_eq_iff _ _).1 (by decide)
  exact ⟨hlast, (last_assignment_wins.2 _ files).2.assigned "B" "x=#" hlast, by decide, by decide⟩

end EnvFile

end WhereClause
