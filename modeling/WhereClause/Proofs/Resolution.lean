import WhereClause.Proofs.Assignments

/-!
# How Settings Are Resolved

Which limit a run works with, and which errors keep it from having one.

Three sources can speak about the limit, and two of them can be wrong in more
than one way. `Resolves` says what comes out, one rule for each outcome, without
mentioning that an environment is built up or looked through. A file counts only
if it has been read and has no bad line. The variable has the value that the
file assigns to it last, or else the one it had. The option is asked after the
variable, so it cannot hide what is wrong there.

A value spells a number by decimal digits, of which zeros in front are some. The
number is what the digits say, however many there are, and only then it is asked
whether a word holds it.

That no limit is ever zero is an invariant of the ways in which settings come
about. `Obtained` has one rule for each of these ways, so it is enough that each
rule refuses a zero.

## Main definitions

* `IsDecimal`, `Spells`: A text and the number it spells.
* `FileGives`, `VariableIs`, `VariableGives`: What a file and the variable say.
* `Resolves`: The settings of a run, or why there are none.
* `Obtained`: The settings that there are ways to come by.
* `withLimits`: Settings after several limits, of which some may be refused.

## Theorems

* `parseCount?_eq_some_iff`, `parseCount?_eq_none_iff`: Counts that are spelled.
* `settingsOf_eq_iff`: A run has the settings that its surroundings resolve to.
* `settingsOf_option`: What is wrong without the option is wrong with it.
* `one_le_of_obtained`: No limit is zero.
* `maxDepth_withLimits`: The last limit that is not refused counts.
* `settings_resolve`: All of these.
-/

namespace WhereClause

/-! ## Counts -/

/-- Decimal digits and the number they denote. -/
structure IsDecimal (digits : List Char) (n : Nat) : Prop where
  some : digits ≠ []
  decimal : ∀ c ∈ digits, '0' ≤ c ∧ c ≤ '9'
  value : Nat.ofDigitChars 10 digits 0 = n

/-- A text and the number it spells: decimal digits, with a plus sign before
    them or not. -/
def Spells (text : List Char) (n : Nat) : Prop :=
  IsDecimal text n ∨ ∃ digits, text = '+' :: digits ∧ IsDecimal digits n

/-- The number that digits denote, if a word holds it. -/
def digitsCount? (digits : List Char) : Option UInt64 :=
  if digits.isEmpty || !digits.all Char.isDigit then none
  else
    let n := Nat.ofDigitChars 10 digits 0
    if n < 0x10000000000000000 then some (UInt64.ofNat n) else none

theorem parseCount?_plus (digits : List Char) :
    parseCount? ('+' :: digits) = digitsCount? digits := rfl

/-- Without a plus sign all of the text must be digits. -/
theorem parseCount?_digits (text : List Char) (hplus : ∀ digits, text ≠ '+' :: digits) :
    parseCount? text = digitsCount? text := by
  unfold parseCount? digitsCount?
  split
  · exact absurd rfl (hplus _)
  · rfl

theorem all_isDigit_iff (digits : List Char) :
    digits.all Char.isDigit = true ↔ ∀ c ∈ digits, '0' ≤ c ∧ c ≤ '9' := by
  rw [List.all_eq_true]
  refine forall₂_congr fun c _ => ?_
  rw [Char.isDigit, Bool.and_eq_true, decide_eq_true_eq, decide_eq_true_eq]
  exact Iff.rfl

/-- Digits are a count if they denote it. -/
theorem digitsCount?_eq_some_iff (digits : List Char) (n : UInt64) :
    digitsCount? digits = some n ↔ IsDecimal digits n.toNat := by
  unfold digitsCount?
  constructor
  · intro h
    by_cases hbad : (digits.isEmpty || !digits.all Char.isDigit) = true
    · rw [if_pos hbad] at h
      cases h
    · rw [if_neg hbad] at h
      -- The digits are sound here, so only the size of the number is left to ask
      -- for.
      by_cases hsize : Nat.ofDigitChars 10 digits 0 < 0x10000000000000000
      · simp only [if_pos hsize, Option.some_inj] at h
        simp only [Bool.or_eq_true, not_or, Bool.not_eq_true', Bool.not_eq_false] at hbad
        refine ⟨fun hnil => hbad.1 (List.isEmpty_iff.2 hnil), (all_isDigit_iff digits).1 hbad.2, ?_⟩
        rw [← h, UInt64.toNat_ofNat_of_lt' hsize]
      · simp only [if_neg hsize, reduceCtorEq] at h
  · intro h
    have hgood : ¬ (digits.isEmpty || !digits.all Char.isDigit) = true := by
      rw [(all_isDigit_iff digits).2 h.decimal, Bool.not_true, Bool.or_false, List.isEmpty_iff]
      exact h.some
    have hsize : Nat.ofDigitChars 10 digits 0 < 0x10000000000000000 := by
      rw [h.value]
      exact n.toNat_lt
    simp only [if_neg hgood, if_pos hsize]
    rw [h.value, UInt64.ofNat_toNat]

/-- A text is a count if it spells it, so there is at most one. -/
theorem parseCount?_eq_some_iff (text : List Char) (n : UInt64) :
    parseCount? text = some n ↔ Spells text n.toNat := by
  by_cases hplus : ∃ digits, text = '+' :: digits
  · rcases hplus with ⟨digits, rfl⟩
    rw [parseCount?_plus, digitsCount?_eq_some_iff]
    constructor
    · exact fun h => Or.inr ⟨digits, rfl, h⟩
    · rintro (h | ⟨same, heq, h⟩)
      · -- A plus sign is no digit.
        exact absurd (h.decimal '+' List.mem_cons_self) (by decide)
      · rwa [(List.cons.inj heq).2]
  · rw [parseCount?_digits text fun digits heq => hplus ⟨digits, heq⟩, digitsCount?_eq_some_iff]
    constructor
    · exact Or.inl
    · rintro (h | ⟨digits, heq, _⟩)
      · exact h
      · exact absurd ⟨digits, heq⟩ hplus

/-- A text is no count if no number it spells fits into a word. -/
theorem parseCount?_eq_none_iff (text : List Char) :
    parseCount? text = none ↔ ∀ n, Spells text n → UInt64.size ≤ n := by
  constructor
  · intro h n hspells
    -- A number that fits would be the count.
    by_contra hsize
    have hcount : (UInt64.ofNat n).toNat = n :=
      UInt64.toNat_ofNat_of_lt' (Nat.lt_of_not_le hsize)
    rw [← hcount, ← parseCount?_eq_some_iff, h] at hspells
    cases hspells
  · intro h
    cases hparse : parseCount? text with
    | none => rfl
    | some n =>
        have hsize := h n.toNat ((parseCount?_eq_some_iff text n).1 hparse)
        exact absurd n.toNat_lt_size (Nat.not_lt.2 hsize)

namespace CommandLine

open EnvFile

/-! ## Files and variables -/

/-- What the environment file of a run gives: its lines, or what is wrong with
    it. -/
inductive FileGives (surroundings : Surroundings) (options : SettingsOptions) :
    Except EnvFileError (List (List Char)) → Prop where
  | absent (no : options.envFile = none) : FileGives surroundings options (.ok [])
  | fails (path : String) (error : EnvFileError) (named : options.envFile = some path)
      (ends : Ends path (surroundings.fileText path) (some error)) :
      FileGives surroundings options (.error error)
  | loads (path content : String) (named : options.envFile = some path)
      (reading : surroundings.fileText path = .ok content)
      (good : ∀ line ∈ textLines content.toList, ¬ IsBad line) :
      FileGives surroundings options (.ok (textLines content.toList))

/-- The value of the variable for the limit after lines have been loaded. -/
inductive VariableIs (lines : List (List Char)) (env : Environment) : Option String → Prop where
  | assigned (raw : String) (last : LastAssigns lines Settings.depthVariable raw) :
      VariableIs lines env (some raw)
  | inherited (no : ∀ line ∈ lines, ∀ raw, ¬ Assigns line Settings.depthVariable raw) :
      VariableIs lines env (env.get? Settings.depthVariable)

/-- The limit that the value of the variable spells, if there is one, or what is
    wrong with it. Blanks around the number do not count. -/
inductive VariableGives : Option String → Except SettingsError (Option UInt64) → Prop where
  | unset : VariableGives none (.ok none)
  | limit (raw : String) (n : UInt64) (spells : Spells (Text.trim raw.toList) n.toNat)
      (positive : n ≠ 0) : VariableGives (some raw) (.ok (some n))
  | notACount (raw : String) (no : ∀ n, Spells (Text.trim raw.toList) n → UInt64.size ≤ n) :
      VariableGives (some raw) (.error (.notACount raw))
  | zero (raw : String) (spells : Spells (Text.trim raw.toList) 0) :
      VariableGives (some raw) (.error .zeroDepth)

/-- The settings of a run, or why there are none. What is wrong with the file
    comes before what is wrong with the variable, and that before what is wrong
    with the option. -/
inductive Resolves (surroundings : Surroundings) (options : SettingsOptions) :
    Except RunError Settings → Prop where
  | badFile (error : EnvFileError) (file : FileGives surroundings options (.error error)) :
      Resolves surroundings options (.error (.envFile error))
  | badVariable (lines : List (List Char)) (value : Option String) (error : SettingsError)
      (file : FileGives surroundings options (.ok lines))
      (is : VariableIs lines surroundings.environment value)
      (gives : VariableGives value (.error error)) :
      Resolves surroundings options (.error (.settings error))
  | zeroOption (lines : List (List Char)) (value : Option String) (limit : Option UInt64)
      (file : FileGives surroundings options (.ok lines))
      (is : VariableIs lines surroundings.environment value)
      (gives : VariableGives value (.ok limit)) (zero : options.maxDepth = some 0) :
      Resolves surroundings options (.error (.settings .zeroDepth))
  | fromOption (lines : List (List Char)) (value : Option String) (limit : Option UInt64)
      (n : UInt64) (file : FileGives surroundings options (.ok lines))
      (is : VariableIs lines surroundings.environment value)
      (gives : VariableGives value (.ok limit)) (given : options.maxDepth = some n)
      (positive : n ≠ 0) : Resolves surroundings options (.ok ⟨n⟩)
  | fromVariable (lines : List (List Char)) (value : Option String) (n : UInt64)
      (file : FileGives surroundings options (.ok lines))
      (is : VariableIs lines surroundings.environment value)
      (gives : VariableGives value (.ok (some n))) (no : options.maxDepth = none) :
      Resolves surroundings options (.ok ⟨n⟩)
  | byDefault (lines : List (List Char)) (value : Option String)
      (file : FileGives surroundings options (.ok lines))
      (is : VariableIs lines surroundings.environment value)
      (gives : VariableGives value (.ok none)) (no : options.maxDepth = none) :
      Resolves surroundings options (.ok ⟨32⟩)

/-! ## Runs -/

variable (surroundings : Surroundings) (options : SettingsOptions)

theorem environmentOf_of_named (path : String) (named : options.envFile = some path) :
    environmentOf surroundings options =
      match (loadFile surroundings.fileText surroundings.environment path).2 with
      | none => .ok (loadFile surroundings.fileText surroundings.environment path).1
      | some error => .error (.envFile error) := by
  simp only [environmentOf, named]
  generalize loadFile surroundings.fileText surroundings.environment path = loaded
  rcases loaded with ⟨env, _ | error⟩ <;> rfl

theorem environmentOf_of_fails (error : EnvFileError)
    (file : FileGives surroundings options (.error error)) :
    environmentOf surroundings options = .error (.envFile error) := by
  cases file with
  | fails path _ named ends =>
      rw [environmentOf_of_named surroundings options path named, loadFile_of_ends ends]

/-- If the file gives lines, the environment of a run is the one around it with
    these lines loaded. -/
theorem environmentOf_of_loads (lines : List (List Char))
    (file : FileGives surroundings options (.ok lines)) :
    ∃ env, environmentOf surroundings options = .ok env ∧
      Overrides lines surroundings.environment env := by
  cases file with
  | absent no => exact ⟨_, by rw [environmentOf, no], .nil _⟩
  | loads path content named reading good =>
      have hends : Ends path (surroundings.fileText path) none := by
        rw [reading]
        exact .loaded content good
      -- Without a bad line all lines of the file have been loaded.
      have hover := overrides_loadFile surroundings.fileText surroundings.environment path
      rw [reading, fileLines, sound_eq_self _ good] at hover
      refine ⟨_, ?_, hover⟩
      rw [environmentOf_of_named surroundings options path named, loadFile_of_ends hends]

-- A file that is loaded to its end has been read, and has no bad line.
theorem exists_fileGives : ∃ given, FileGives surroundings options given := by
  cases hpath : options.envFile with
  | none => exact ⟨_, .absent hpath⟩
  | some path =>
      have hends := ends_loadFile surroundings.fileText surroundings.environment path
      cases hresult : (loadFile surroundings.fileText surroundings.environment path).2 with
      | some error =>
          rw [hresult] at hends
          exact ⟨_, .fails path error hpath hends⟩
      | none =>
          rw [hresult] at hends
          -- What has ended without an error has been read.
          cases hreading : surroundings.fileText path with
          | error fault =>
              rw [hreading] at hends
              cases hends
          | ok content =>
              rw [hreading] at hends
              cases hends with
              | loaded _ good => exact ⟨_, .loads path content hpath hreading good⟩

/-- After loading, the variable has the value that it should have. -/
theorem get?_of_variableIs {lines : List (List Char)} {old new : Environment}
    {value : Option String} (hover : Overrides lines old new) (is : VariableIs lines old value) :
    new.get? Settings.depthVariable = value := by
  cases is with
  | assigned raw last => exact hover.assigned _ raw last
  | inherited no => exact hover.kept _ no

theorem exists_variableIs (lines : List (List Char)) (env : Environment) :
    ∃ value, VariableIs lines env value := by
  -- It is the file that decides, if it assigns anything at all.
  by_cases h : ∃ line ∈ lines, ∃ raw, Assigns line Settings.depthVariable raw
  · rcases exists_lastAssigns lines _ h with ⟨raw, last⟩
    exact ⟨some raw, .assigned raw last⟩
  · exact ⟨_, .inherited fun line hline raw assigns => h ⟨line, hline, raw, assigns⟩⟩

/-- What an environment says about the limit is decided by the value of the
    variable. -/
theorem ofLookup_of_variableGives {lookup : String → Option String}
    {gives : Except SettingsError (Option UInt64)}
    (h : VariableGives (lookup Settings.depthVariable) gives) :
    Settings.ofLookup lookup = gives.map fun limit => ⟨limit.getD 32⟩ := by
  unfold Settings.ofLookup
  -- Only the value of the one variable matters.
  generalize lookup Settings.depthVariable = value at h
  cases h with
  | unset => rfl
  | limit raw n spells positive =>
      have hparse := (parseCount?_eq_some_iff _ n).2 spells
      simp only [hparse, Settings.withMaxDepth, if_neg positive, Except.map, Option.getD_some]
  | notACount raw no =>
      have hparse := (parseCount?_eq_none_iff _).2 no
      simp only [hparse]
      rfl
  | zero raw spells =>
      have hparse := (parseCount?_eq_some_iff _ 0).2 spells
      simp only [hparse, Settings.withMaxDepth, if_pos]
      rfl

/-- A value gives a limit, nothing, or an error. -/
theorem exists_variableGives (value : Option String) : ∃ gives, VariableGives value gives := by
  cases value with
  | none => exact ⟨_, .unset⟩
  | some raw =>
      cases hparse : parseCount? (Text.trim raw.toList) with
      | none => exact ⟨_, .notACount raw ((parseCount?_eq_none_iff _).1 hparse)⟩
      | some n =>
          have spells := (parseCount?_eq_some_iff _ n).1 hparse
          by_cases positive : n = 0
          · rw [positive] at spells
            exact ⟨_, .zero raw spells⟩
          · exact ⟨_, .limit raw n spells positive⟩

variable {surroundings options}

/-- The settings of a run are those of its environment, with the option's limit
    if there is one. -/
theorem settingsOf_of_environment {env : Environment}
    (henv : environmentOf surroundings options = .ok env) :
    settingsOf surroundings options = ((Settings.ofLookup env.get?).bind fun settings =>
      options.maxDepth.elim (.ok settings) settings.withMaxDepth).mapError .settings := by
  rw [settingsOf, henv]
  simp only [bind, Except.bind]
  cases Settings.ofLookup env.get? with
  | error error => rfl
  | ok settings => cases options.maxDepth <;> rfl

/-- The settings of a run from what its file and the variable give. -/
theorem settingsOf_of_gives {lines : List (List Char)} {value : Option String}
    {gives : Except SettingsError (Option UInt64)}
    (file : FileGives surroundings options (.ok lines))
    (is : VariableIs lines surroundings.environment value) (h : VariableGives value gives) :
    settingsOf surroundings options = (gives.bind fun limit =>
      options.maxDepth.elim (.ok ⟨limit.getD 32⟩)
        (Settings.withMaxDepth ⟨limit.getD 32⟩)).mapError .settings := by
  rcases environmentOf_of_loads surroundings options lines file with ⟨env, henv, hover⟩
  rw [← get?_of_variableIs hover is] at h
  rw [settingsOf_of_environment henv, ofLookup_of_variableGives h]
  cases gives <;> rfl

/-- A run has the settings that its surroundings resolve to. -/
theorem settingsOf_of_resolves {result : Except RunError Settings}
    (h : Resolves surroundings options result) : settingsOf surroundings options = result := by
  cases h with
  | badFile error file =>
      rw [settingsOf, environmentOf_of_fails surroundings options error file]
      rfl
  | badVariable lines value error file is gives =>
      rw [settingsOf_of_gives file is gives]
      rfl
  | zeroOption lines value limit file is gives zero =>
      rw [settingsOf_of_gives file is gives, zero]
      rfl
  | fromOption lines value limit n file is gives given positive =>
      rw [settingsOf_of_gives file is gives, given]
      simp only [Except.bind, Option.elim_some, Settings.withMaxDepth, if_neg positive,
        Except.mapError]
  | fromVariable lines value n file is gives no =>
      rw [settingsOf_of_gives file is gives, no]
      rfl
  | byDefault lines value file is gives no =>
      rw [settingsOf_of_gives file is gives, no]
      rfl

variable (surroundings options)

-- The rules are tried in the order in which a run looks at its sources.
theorem exists_resolves : ∃ result, Resolves surroundings options result := by
  rcases exists_fileGives surroundings options with ⟨error | lines, file⟩
  · exact ⟨_, .badFile error file⟩
  rcases exists_variableIs lines surroundings.environment with ⟨value, is⟩
  rcases exists_variableGives value with ⟨error | limit, gives⟩
  · exact ⟨_, .badVariable lines value error file is gives⟩
  cases hoption : options.maxDepth with
  | some n =>
      by_cases positive : n = 0
      · rw [positive] at hoption
        exact ⟨_, .zeroOption lines value limit file is gives hoption⟩
      · exact ⟨_, .fromOption lines value limit n file is gives hoption positive⟩
  | none =>
      cases limit with
      | none => exact ⟨_, .byDefault lines value file is gives hoption⟩
      | some n => exact ⟨_, .fromVariable lines value n file is gives hoption⟩

/-- A run has the settings that its surroundings resolve to, and these are
    unique. -/
theorem settingsOf_eq_iff (result : Except RunError Settings) :
    settingsOf surroundings options = result ↔ Resolves surroundings options result := by
  constructor
  · rintro rfl
    rcases exists_resolves surroundings options with ⟨result, h⟩
    rwa [settingsOf_of_resolves h]
  · exact settingsOf_of_resolves

/-- An error that there is without the option is there with any option. -/
theorem settingsOf_option (limit : Option UInt64) (error : RunError)
    (h : settingsOf surroundings { options with maxDepth := none } = .error error) :
    settingsOf surroundings { options with maxDepth := limit } = .error error := by
  -- The option is not asked for the file, so the environment is the same.
  cases hfile : environmentOf surroundings { options with maxDepth := none } with
  | error e =>
      have hother : environmentOf surroundings { options with maxDepth := limit } = .error e :=
        hfile
      rw [settingsOf, hfile] at h
      rw [settingsOf, hother]
      exact h
  | ok env =>
      have hother : environmentOf surroundings { options with maxDepth := limit } = .ok env := hfile
      rw [settingsOf_of_environment hfile] at h
      rw [settingsOf_of_environment hother]
      cases hlookup : Settings.ofLookup env.get? with
      | error e =>
          rw [hlookup] at h
          exact h
      -- Behind a lookup without an error only the option itself can be wrong, and
      -- there was none.
      | ok settings =>
          rw [hlookup] at h
          cases h

end CommandLine

/-! ## Limits that are not zero -/

namespace Settings

/-- The settings that there are ways to come by: the default, those of an
    environment, those of a JSON value or text, and any of these with another
    limit. -/
inductive Obtained : Settings → Prop where
  | byDefault : Obtained {}
  | looked (lookup : String → Option String) (settings : Settings)
      (h : ofLookup lookup = .ok settings) : Obtained settings
  | converted (json : Json) (settings : Settings) (h : ofJson json = .ok settings) :
      Obtained settings
  | decoded (text : String) (settings : Settings) (h : decode text = .ok settings) :
      Obtained settings
  | limited (old new : Settings) (limit : UInt64) (before : Obtained old)
      (h : old.withMaxDepth limit = .ok new) : Obtained new

theorem withMaxDepth_of_ne_zero (settings : Settings) {limit : UInt64} (h : limit ≠ 0) :
    settings.withMaxDepth limit = .ok ⟨limit⟩ := by
  rw [withMaxDepth, if_neg h]

theorem withMaxDepth_zero (settings : Settings) : settings.withMaxDepth 0 = .error .zeroDepth := by
  rw [withMaxDepth, if_pos rfl]

theorem one_le_of_ne_zero {n : UInt64} (h : n ≠ 0) : 1 ≤ n := by
  have hnat : n.toNat ≠ 0 := fun hzero => h (UInt64.toNat_inj.1 hzero)
  rw [UInt64.le_iff_toNat_le, UInt64.toNat_one]
  omega

/-- Whatever limit settings are given, it is not zero. -/
theorem one_le_of_withMaxDepth {settings new : Settings} {limit : UInt64}
    (h : settings.withMaxDepth limit = .ok new) : 1 ≤ new.maxDepth := by
  by_cases hzero : limit = 0
  · rw [hzero, withMaxDepth_zero] at h
    cases h
  · rw [withMaxDepth_of_ne_zero settings hzero] at h
    rw [← Except.ok.inj h]
    exact one_le_of_ne_zero hzero

theorem one_le_default : (1 : UInt64) ≤ ({} : Settings).maxDepth := by decide

theorem one_le_of_ofLookup {lookup : String → Option String} {settings : Settings}
    (h : ofLookup lookup = .ok settings) : 1 ≤ settings.maxDepth := by
  unfold ofLookup at h
  cases hvalue : lookup depthVariable with
  | none =>
      rw [hvalue] at h
      cases h
      exact one_le_default
  | some raw =>
      simp only [hvalue] at h
      cases hparse : parseCount? (Text.trim raw.toList) with
      | none =>
          simp only [hparse, reduceCtorEq] at h
      | some n =>
          simp only [hparse] at h
          exact one_le_of_withMaxDepth h

theorem one_le_of_ofLimit {limit : Json} {settings : Settings}
    (h : ofLimit limit = .ok settings) : 1 ≤ settings.maxDepth := by
  unfold ofLimit at h
  split at h
  · cases h
    exact one_le_default
  · cases hcount : limit.uint64? with
    | none => simp only [hcount, reduceCtorEq] at h
    | some n =>
        simp only [hcount] at h
        exact one_le_of_withMaxDepth (mapError_eq_ok h)

theorem one_le_of_ofJson {json : Json} {settings : Settings} (h : ofJson json = .ok settings) :
    1 ≤ settings.maxDepth := by
  unfold ofJson at h
  split at h
  · split at h
    · cases h
      exact one_le_default
    · exact one_le_of_ofLimit h
    · cases h
  · exact one_le_of_ofLimit h
  · cases h

/-- A text gives no zero, whatever is behind the value in it. -/
theorem one_le_of_decode {text : String} {settings : Settings} (h : decode text = .ok settings) :
    1 ≤ settings.maxDepth := by
  unfold decode at h
  cases hread : Json.leading? skips text with
  | none =>
      rw [hread] at h
      cases h
  | some found =>
      simp only [hread] at h
      rcases bind_eq_ok h with ⟨new, hjson, hrest⟩
      -- What is behind the value decides only whether there are settings.
      by_cases hspace : found.2.all Json.Reader.isSpace = true
      · rw [if_pos hspace] at hrest
        cases hrest
        exact one_le_of_ofJson hjson
      · rw [if_neg hspace] at hrest
        cases hrest

/-- No limit is zero, one case for each way to come by settings. -/
theorem one_le_of_obtained {settings : Settings} (h : Obtained settings) :
    1 ≤ settings.maxDepth := by
  cases h with
  | byDefault => exact one_le_default
  | looked lookup _ h => exact one_le_of_ofLookup h
  | converted json _ h => exact one_le_of_ofJson h
  | decoded text _ h => exact one_le_of_decode h
  | limited old _ limit _ h => exact one_le_of_withMaxDepth h

/-- Settings after several limits, each of which may be refused. One that is
    refused leaves the settings as they were. -/
def withLimits (settings : Settings) : List UInt64 → Settings
  | [] => settings
  | limit :: rest =>
      match settings.withMaxDepth limit with
      | .ok new => withLimits new rest
      | .error _ => withLimits settings rest

/-- Limits that are tried lead to settings that there is a way to come by. -/
theorem obtained_withLimits {settings : Settings} (h : Obtained settings) (limits : List UInt64) :
    Obtained (settings.withLimits limits) := by
  induction limits generalizing settings with
  | nil => exact h
  | cons limit rest ih =>
      rw [withLimits]
      cases hlimit : settings.withMaxDepth limit with
      | ok new => exact ih (.limited settings new limit h hlimit)
      | error error => exact ih h

/-- Of several limits the last one counts that is not zero. -/
theorem maxDepth_withLimits (settings : Settings) (limits : List UInt64) :
    (settings.withLimits limits).maxDepth =
      (limits.filter (· ≠ 0)).getLast?.getD settings.maxDepth := by
  induction limits generalizing settings with
  | nil => rfl
  | cons limit rest ih =>
      -- Induction on the limits: a zero is skipped by both sides, any other limit
      -- replaces the one before.
      by_cases hzero : limit = 0
      · rw [withLimits, hzero, withMaxDepth_zero, List.filter_cons_of_neg (by simp), ih]
      · rw [withLimits, withMaxDepth_of_ne_zero settings hzero,
          List.filter_cons_of_pos (by simpa using hzero), ih, List.getLast?_cons, Option.getD_some]

/-- The settings that a run works with are among those there is a way to come
    by. -/
theorem obtained_settingsOf {surroundings : CommandLine.Surroundings}
    {options : CommandLine.SettingsOptions} {settings : Settings}
    (h : CommandLine.settingsOf surroundings options = .ok settings) : Obtained settings := by
  rcases bind_eq_ok h with ⟨env, henv, _⟩
  rw [CommandLine.settingsOf_of_environment henv] at h
  rcases bind_eq_ok (mapError_eq_ok h) with ⟨found, hlookup, hlimit⟩
  -- The option is a limit given to what the environment has.
  cases hoption : options.maxDepth with
  | none =>
      rw [hoption] at hlimit
      cases hlimit
      exact .looked env.get? settings hlookup
  | some limit =>
      rw [hoption] at hlimit
      exact .limited found settings limit (.looked env.get? found hlookup) hlimit

end Settings

namespace CommandLine

/-- A run has exactly the settings, or the error, that its file, the variable
    and its option resolve to. What is wrong without the option is wrong with
    it. The limit of settings is at least one, however they were come by, and
    stays so after any limits that are tried. -/
theorem settings_resolve :
    (∀ (surroundings : Surroundings) (options : SettingsOptions) result,
      settingsOf surroundings options = result ↔ Resolves surroundings options result) ∧
    (∀ (surroundings : Surroundings) (options : SettingsOptions) limit error,
      settingsOf surroundings { options with maxDepth := none } = .error error →
        settingsOf surroundings { options with maxDepth := limit } = .error error) ∧
    (∀ surroundings options settings, settingsOf surroundings options = .ok settings →
      Settings.Obtained settings) ∧
    ∀ settings, Settings.Obtained settings → 1 ≤ settings.maxDepth ∧
      ∀ limits, 1 ≤ (settings.withLimits limits).maxDepth ∧
        (settings.withLimits limits).maxDepth =
          (limits.filter (· ≠ 0)).getLast?.getD settings.maxDepth := by
  refine ⟨settingsOf_eq_iff, settingsOf_option, fun _ _ _ => Settings.obtained_settingsOf,
    fun settings h => ⟨Settings.one_le_of_obtained h, fun limits => ⟨?_, ?_⟩⟩⟩
  · exact Settings.one_le_of_obtained (Settings.obtained_withLimits h limits)
  · exact Settings.maxDepth_withLimits settings limits

/-- A file that spoils the limit of the environment, which no option hides, and
    the greatest limit there is, which does not withstand other limits. -/
theorem settings_resolve_spoiled :
    let greatest : Environment := ⟨[("FILTER_MAX_DEPTH", "\t+018446744073709551615 ")]⟩
    let spoiled : Surroundings := ⟨greatest, fun _ => .ok "FILTER_MAX_DEPTH = ' 8 9'", .ok ""⟩
    let plain : Surroundings := ⟨greatest, fun _ => .error .missing, .ok ""⟩
    (settingsOf spoiled { envFile := some ".env" } = .error (.settings (.notACount " 8 9")) ∧
      settingsOf spoiled { envFile := some ".env", maxDepth := some 5 } =
        .error (.settings (.notACount " 8 9"))) ∧
    Resolves plain {} (.ok ⟨18446744073709551615⟩) ∧
    Settings.Obtained ⟨18446744073709551615⟩ ∧
      1 ≤ (Settings.withLimits ⟨18446744073709551615⟩ [7, 0]).maxDepth := by
  intro greatest spoiled plain
  have hspoiled : settingsOf spoiled { envFile := some ".env" } =
      .error (.settings (.notACount " 8 9")) := by rfl
  have hplain : settingsOf plain {} = .ok ⟨18446744073709551615⟩ := by rfl
  have hobtained := settings_resolve.2.2.1 plain {} _ hplain
  refine ⟨⟨hspoiled, settings_resolve.2.1 spoiled { envFile := some ".env" } (some 5) _ hspoiled⟩,
    (settings_resolve.1 plain {} _).1 hplain, hobtained, ?_⟩
  exact ((settings_resolve.2.2.2 _ hobtained).2 [7, 0]).1

end CommandLine

end WhereClause
