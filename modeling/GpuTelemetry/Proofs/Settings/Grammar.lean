import GpuTelemetry.Proofs.Numeral
import GpuTelemetry.Proofs.Settings

/-!
# The grammar of an environment

What each variable of an environment stands for, said of its text alone: what its numeral or its
truth word denotes, or a default if it is unset or blank (`Means`), or the level that it names
(`MeansLevel`). An environment is checked six times in a fixed order (`Check.order`), and the first
check that fails decides (`First`).

Main statement: `settings_of_environment`. Settings are what the variables stand for, all settings
are read back from their own texts, and an error is that of the first check that fails.
-/

namespace GpuTelemetry

theorem LogLevel.ofName?_eq_some_iff {text : String} {level : LogLevel} :
    ofName? text = some level ↔ text = level.name := by
  constructor
  · intro found
    have same := List.find?_some found
    exact (eq_of_beq same).symm
  · rintro rfl
    exact ofName?_name level

/-- Trimming leaves nothing of a text exactly if all of it is blank. -/
theorem Text.trim_eq_empty_iff {text : String} :
    trim text = "" ↔ ∀ c ∈ text.toList, isBlank c = true := by
  have stripped : trim text = "" ↔ strip isBlank text.toList = [] := by
    unfold trim
    rw [← String.toList_inj, String.toList_ofList]
    rfl
  rw [stripped]
  constructor
  · intro nothing
    obtain ⟨before, after, split, front, back⟩ := exists_strip isBlank text.toList
    rw [nothing, List.append_nil] at split
    rw [split]
    intro c member
    exact (List.mem_append.mp member).elim (front c) (back c)
  · intro blank
    have nothing : Bare isBlank [] := ⟨by simp, by simp⟩
    have stripped : strip isBlank (text.toList ++ [] ++ []) = [] :=
      strip_append blank (by simp) nothing
    rwa [List.append_nil, List.append_nil] at stripped

/-- A numeral is not blank, for its digits are not. -/
theorem Numeral.Denotes.not_blank {text : List Char} {n : Int} (denotes : Denotes text n) :
    ¬ ∀ c ∈ text, Text.isBlank c = true := by
  obtain ⟨before, sign, run, after, ds, rfl, _, _, shown, _, _⟩ := denotes
  obtain ⟨c, d, rest, rfl, digit⟩ := shown.first
  intro blank
  have both := blank c (by simp)
  rw [isBlank_of_digit digit] at both
  cases both

namespace Environment

variable {α : Type} {env : Environment} {text? : Option String} {text : String}
  {key : Settings.Variable}

/-! ## What variables stand for -/

/-- A variable that is unset, or set to nothing but blanks. -/
def Unfilled (text? : Option String) : Prop :=
  ∀ text ∈ text?, ∀ c ∈ text.toList, Text.isBlank c = true

/-- What a variable stands for: what its text denotes, or else a default. -/
inductive Means (denotes : String → α → Prop) (default : α) (text? : Option String) : α → Prop
  | default (unfilled : Unfilled text?) : Means denotes default text? default
  | denoted {text : String} {a : α} (given : text? = some text) (denoted : denotes text a) :
      Means denotes default text? a

/-- The integer of a numeral. -/
def DenotesInteger (text : String) (n : Int) : Prop := Numeral.Denotes text.toList n

/-- The truth value of a truth word, in any letter case and with blanks around it. -/
def DenotesTruth (text : String) (b : Bool) : Prop :=
  Text.lower (Text.trim text) ∈ if b then yesWords else noWords

/-- What the variable for the level stands for: the level that its text names in any letter case,
with nothing around it, or else the default if it is unset. -/
inductive MeansLevel (text? : Option String) : LogLevel → Prop
  | default (unset : text? = none) : MeansLevel text? Settings.defaultLevel
  | named {text : String} {level : LogLevel} (given : text? = some text)
      (name : Text.upper text = level.name) : MeansLevel text? level

theorem filled?_of_unfilled (unfilled : Unfilled (env.text? key)) : env.filled? key = none := by
  unfold filled?
  cases given : env.text? key with
  | none => rfl
  | some text =>
      rw [given] at unfilled
      have blank := Text.trim_eq_empty_iff.mpr (unfilled text rfl)
      simp [blank]

theorem filled?_of_filled (given : env.text? key = some text) (filled : ¬ Unfilled (some text)) :
    env.filled? key = some text := by
  have bare : Text.trim text ≠ "" := by
    intro blank
    exact filled fun other same => Option.some.inj same ▸ Text.trim_eq_empty_iff.mp blank
  unfold filled?
  simp [given, bare]

/-- A reader that accepts exactly the texts that denote something, none of which is blank. -/
structure Reads (reader : String → Option α) (denotes : String → α → Prop) : Prop where
  exact : ∀ text a, reader text = some a ↔ denotes text a
  filled : ∀ text a, denotes text a → ¬ Unfilled (some text)

theorem not_unfilled_of_notBlank (bare : ¬ ∀ c ∈ text.toList, Text.isBlank c = true) :
    ¬ Unfilled (some text) :=
  fun blank => bare (blank text rfl)

theorem reads_integer : Reads Numeral.read DenotesInteger where
  exact _ _ := Numeral.ofChars?_eq_some_iff
  filled _ _ denotes := not_unfilled_of_notBlank denotes.not_blank

theorem reads_truth : Reads truth? DenotesTruth where
  exact text b := by
    have apart : ∀ word ∈ noWords, word ∉ yesWords := by decide
    unfold truth? DenotesTruth
    generalize Text.lower (Text.trim text) = word
    dsimp only
    split
    · rename_i yes
      -- The two lists have no word in common, so their order makes no difference.
      have other : word ∉ noWords := fun no => apart word no (by simpa using yes)
      cases b <;> simp_all
    · rename_i other
      split <;> cases b <;> simp_all
  filled text b denotes := by
    refine not_unfilled_of_notBlank fun blank => ?_
    -- Neither list has the empty word.
    have nothing : "" ∉ if b then yesWords else noWords := by cases b <;> decide
    unfold DenotesTruth at denotes
    rw [Text.trim_eq_empty_iff.mpr blank] at denotes
    exact nothing denotes

section Reading

variable {reader : String → Option α} {denotes : String → α → Prop} (reads : Reads reader denotes)
  {default : α}

include reads

/-- A variable stands for one thing at most. -/
theorem Means.unique {a b : α} (one : Means denotes default text? a)
    (two : Means denotes default text? b) : a = b := by
  cases one with
  | default unfilled =>
      cases two with
      | default _ => rfl
      | denoted given denoted =>
          rw [given] at unfilled
          -- A text that denotes something is not blank.
          exact absurd unfilled (reads.filled _ _ denoted)
  | denoted given denoted =>
      cases two with
      | default unfilled =>
          rw [given] at unfilled
          exact absurd unfilled (reads.filled _ _ denoted)
      | denoted given' denoted' =>
          cases given.symm.trans given'
          exact Option.some.inj (((reads.exact _ _).mpr denoted).symm.trans
            ((reads.exact _ _).mpr denoted'))

/-- A variable stands for its default or for what the reader makes of its text; if the reader makes
nothing of it, it stands for nothing. -/
theorem means_cases (env : Environment) (key : Settings.Variable) (default : α) :
    (env.filled? key = none ∧ Means denotes default (env.text? key) default) ∨
      (∃ text a, env.filled? key = some text ∧ reader text = some a ∧
        Means denotes default (env.text? key) a) ∨
      ∃ text, env.text? key = some text ∧ env.filled? key = some text ∧ reader text = none ∧
        ∀ a, ¬ Means denotes default (env.text? key) a := by
  by_cases unfilled : Unfilled (env.text? key)
  · exact .inl ⟨filled?_of_unfilled unfilled, .default unfilled⟩
  · cases given : env.text? key with
    | none =>
        rw [given] at unfilled
        exact absurd (fun _ none => by cases none) unfilled
    | some text =>
        rw [given] at unfilled
        have filled := filled?_of_filled given unfilled
        cases read : reader text with
        | some a =>
            exact .inr (.inl ⟨text, a, filled, read, .denoted rfl ((reads.exact _ _).mp read)⟩)
        | none =>
            refine .inr (.inr ⟨text, rfl, filled, read, ?_⟩)
            rintro a (blank | ⟨same, denoted⟩)
            · exact unfilled blank
            · cases same
              rw [(reads.exact _ _).mpr denoted] at read
              cases read

end Reading

theorem integer_cases (env : Environment) (key : Settings.Variable) (default : Int) :
    (∃ n, Means DenotesInteger default (env.text? key) n ∧ env.integer key default = .ok n) ∨
      ∃ text, env.text? key = some text ∧
        (∀ n, ¬ Means DenotesInteger default (env.text? key) n) ∧
        env.integer key default = .error (.notAnInteger key text) := by
  unfold integer
  rcases means_cases reads_integer env key default with
    ⟨unfilled, means⟩ | ⟨text, n, filled, read, means⟩ | ⟨text, given, filled, read, nothing⟩
  · exact .inl ⟨default, means, by rw [unfilled]⟩
  · exact .inl ⟨n, means, by rw [filled]; dsimp only; rw [read]⟩
  · exact .inr ⟨text, given, nothing, by rw [filled]; dsimp only; rw [read]⟩

/-- A result that is given is what is meant, if no more than one thing is meant. -/
theorem ok_iff_of_ok {P : α → Prop} {x : Except Settings.Error α} {a b : α} (means : P a)
    (unique : ∀ b, P b → a = b) (given : x = .ok a) : x = .ok b ↔ P b := by
  subst given
  constructor
  · intro same
    cases same
    exact means
  · intro other
    rw [unique b other]

theorem ok_iff_of_error {P : α → Prop} {x : Except Settings.Error α} {e : Settings.Error} {b : α}
    (nothing : ∀ b, ¬ P b) (refused : x = .error e) : x = .ok b ↔ P b := by
  subst refused
  constructor
  · intro same
    cases same
  · intro other
    exact absurd other (nothing b)

theorem integer_eq_ok_iff {default n : Int} :
    env.integer key default = .ok n ↔ Means DenotesInteger default (env.text? key) n := by
  rcases integer_cases env key default with ⟨m, means, read⟩ | ⟨text, given, nothing, refused⟩
  · exact ok_iff_of_ok means (fun _ => means.unique reads_integer) read
  · exact ok_iff_of_error nothing refused

theorem truth_cases (env : Environment) (key : Settings.Variable) (default : Bool) :
    (∃ b, Means DenotesTruth default (env.text? key) b ∧ env.truth key default = .ok b) ∨
      ∃ text, env.text? key = some text ∧
        (∀ b, ¬ Means DenotesTruth default (env.text? key) b) ∧
        env.truth key default = .error (.notABoolean key text) := by
  unfold truth
  rcases means_cases reads_truth env key default with
    ⟨unfilled, means⟩ | ⟨text, n, filled, read, means⟩ | ⟨text, given, filled, read, nothing⟩
  · exact .inl ⟨default, means, by rw [unfilled]⟩
  · exact .inl ⟨n, means, by rw [filled]; dsimp only; rw [read]⟩
  · exact .inr ⟨text, given, nothing, by rw [filled]; dsimp only; rw [read]⟩

theorem truth_eq_ok_iff {default b : Bool} :
    env.truth key default = .ok b ↔ Means DenotesTruth default (env.text? key) b := by
  rcases truth_cases env key default with ⟨a, means, read⟩ | ⟨text, given, nothing, refused⟩
  · exact ok_iff_of_ok means (fun _ => means.unique reads_truth) read
  · exact ok_iff_of_error nothing refused

theorem upper_name (level : LogLevel) : Text.upper level.name = level.name := by
  cases level <;> decide +kernel

theorem MeansLevel.unique {l m : LogLevel} (one : MeansLevel text? l) (two : MeansLevel text? m) :
    l = m := by
  cases one with
  | default unset =>
      cases two with
      | default _ => rfl
      | named given _ => cases unset.symm.trans given
  | named given name =>
      cases two with
      | default unset => cases unset.symm.trans given
      | named given' name' =>
          cases given.symm.trans given'
          rw [name] at name'
          exact Option.some.inj ((LogLevel.ofName?_name l).symm.trans
            (LogLevel.ofName?_eq_some_iff.mpr name'))

theorem level_cases (env : Environment) :
    (∃ l, MeansLevel env.level? l ∧ env.level = .ok l) ∨
      ∃ text, env.level? = some text ∧ (∀ l, ¬ MeansLevel env.level? l) ∧
        env.level = .error (.unknownLevel (.text (Text.upper text))) := by
  unfold level levelName Settings.levelOf
  cases given : env.level? with
  | none =>
      -- The default is looked up by its name like any other level, and found.
      refine .inl ⟨Settings.defaultLevel, .default rfl, ?_⟩
      rw [Option.getD_none, upper_name]
      dsimp only
      rw [LogLevel.ofName?_name]
  | some text =>
      rw [Option.getD_some]
      dsimp only
      cases named : LogLevel.ofName? (Text.upper text) with
      | some l => exact .inl ⟨l, .named rfl (LogLevel.ofName?_eq_some_iff.mp named), rfl⟩
      | none =>
          refine .inr ⟨text, rfl, ?_, rfl⟩
          rintro l (unset | ⟨same, name⟩)
          · cases unset
          · cases same
            rw [LogLevel.ofName?_eq_some_iff.mpr name] at named
            cases named

theorem level_eq_ok_iff {l : LogLevel} : env.level = .ok l ↔ MeansLevel env.level? l := by
  rcases level_cases env with ⟨m, means, read⟩ | ⟨text, given, nothing, refused⟩
  · exact ok_iff_of_ok means (fun _ => means.unique) read
  · exact ok_iff_of_error nothing refused

/-! ## Checks -/

/-- What is checked of an environment. -/
inductive Check where
  | countText
  | delayText
  | advanceText
  | countRange
  | delayRange
  | level

/-- The order of the checks: all texts but that of the level come first. -/
def Check.order : List Check :=
  [.countText, .delayText, .advanceText, .countRange, .delayRange, .level]

/-- What the variables stand for, each with its own default. -/
abbrev MeansCount (env : Environment) : Int → Prop :=
  Means DenotesInteger Settings.defaultCount env.count?

abbrev MeansDelay (env : Environment) : Int → Prop :=
  Means DenotesInteger Settings.defaultDelay env.delay?

abbrev MeansAdvance (env : Environment) : Bool → Prop :=
  Means DenotesTruth Settings.defaultAdvance env.advance?

/-- A check that fails, and the error that it ends in. -/
inductive Check.Fails (env : Environment) : Check → Settings.Error → Prop
  | countText {text : String} (given : env.count? = some text)
      (nothing : ∀ n, ¬ env.MeansCount n) : Fails env .countText (.notAnInteger .count text)
  | delayText {text : String} (given : env.delay? = some text)
      (nothing : ∀ n, ¬ env.MeansDelay n) : Fails env .delayText (.notAnInteger .delay text)
  | advanceText {text : String} (given : env.advance? = some text)
      (nothing : ∀ b, ¬ env.MeansAdvance b) :
      Fails env .advanceText (.notABoolean .advance text)
  | countRange {n : Int} (means : env.MeansCount n) (low : n < 1) :
      Fails env .countRange (.window (.notPositive n))
  | delayRange {n : Int} (means : env.MeansDelay n) (low : n < 0) :
      Fails env .delayRange (.window (.negative n))
  | level {text : String} (given : env.level? = some text)
      (nothing : ∀ l, ¬ MeansLevel env.level? l) :
      Fails env .level (.unknownLevel (.text (Text.upper text)))

/-- The first of some checks that fails ends in an error. -/
inductive First (env : Environment) : List Check → Settings.Error → Prop
  | here {check : Check} {later : List Check} {error : Settings.Error}
      (fails : check.Fails env error) : First env (check :: later) error
  | behind {check : Check} {later : List Check} {error : Settings.Error}
      (passes : ∀ other, ¬ check.Fails env other) (first : First env later error) :
      First env (check :: later) error

/-- A check ends in one error at most. -/
theorem Check.Fails.unique {check : Check} {e f : Settings.Error} (one : check.Fails env e)
    (two : check.Fails env f) : e = f := by
  cases one with
  | countRange means low =>
      cases two with
      | countRange means' low' => rw [means.unique reads_integer means']
  | delayRange means low =>
      cases two with
      | delayRange means' low' => rw [means.unique reads_integer means']
  | countText given nothing =>
      cases two with
      | countText given' nothing' => cases given.symm.trans given'; rfl
  | delayText given nothing =>
      cases two with
      | delayText given' nothing' => cases given.symm.trans given'; rfl
  | advanceText given nothing =>
      cases two with
      | advanceText given' nothing' => cases given.symm.trans given'; rfl
  | level given nothing =>
      cases two with
      | level given' nothing' => cases given.symm.trans given'; rfl

theorem First.unique {checks : List Check} {e f : Settings.Error} (one : First env checks e)
    (two : First env checks f) : e = f := by
  induction one with
  | here fails =>
      cases two with
      | here fails' => exact fails.unique fails'
      | behind passes _ => exact absurd fails (passes _)
  | behind passes first ih =>
      cases two with
      | here fails' => exact absurd fails' (passes _)
      | behind _ first' => exact ih first'

theorem First.not_of_pass {checks : List Check} {error : Settings.Error}
    (pass : ∀ check ∈ checks, ∀ other, ¬ check.Fails env other) : ¬ First env checks error := by
  intro first
  induction first with
  | here fails => exact pass _ List.mem_cons_self _ fails
  | behind _ _ ih => exact ih fun other member => pass other (List.mem_cons_of_mem _ member)

/-- A result that some checks decide: a value if all of them pass, or else the error of the first
one that fails. -/
inductive Decided (env : Environment) (checks : List Check) : Except Settings.Error α → Prop
  | ok {a : α} (pass : ∀ check ∈ checks, ∀ error, ¬ check.Fails env error) :
      Decided env checks (.ok a)
  | error {error : Settings.Error} (first : First env checks error) :
      Decided env checks (.error error)

section Deciding

variable {β : Type} {checks later : List Check} {error : Settings.Error}

theorem First.append (first : First env checks error) : First env (checks ++ later) error := by
  induction first with
  | here fails => exact .here fails
  | behind passes _ ih => exact .behind passes ih

theorem First.behind_all (pass : ∀ check ∈ checks, ∀ error, ¬ check.Fails env error)
    (first : First env later error) : First env (checks ++ later) error := by
  induction checks with
  | nil => exact first
  | cons check rest ih =>
      exact .behind (pass check List.mem_cons_self)
        (ih fun other member => pass other (List.mem_cons_of_mem _ member))

/-- What comes behind a result is decided by further checks. -/
theorem Decided.bind {x : Except Settings.Error α} {next : α → Except Settings.Error β}
    (one : Decided env checks x) (two : ∀ a, x = .ok a → Decided env later (next a)) :
    Decided env (checks ++ later) (x >>= next) := by
  cases one with
  | error first => exact .error first.append
  | @ok a pass =>
      -- All checks of the first result pass, so those of the second one decide.
      have rest := two a rfl
      show Decided env (checks ++ later) (next a)
      cases result : next a with
      | ok b =>
          rw [result] at rest
          cases rest with
          | ok pass' =>
              refine .ok fun check member => ?_
              exact (List.mem_append.mp member).elim (pass check) (pass' check)
      | error e =>
          rw [result] at rest
          cases rest with
          | error first => exact .error (.behind_all pass first)

/-- One check that passes. -/
theorem Decided.single {check : Check} {a : α} (passes : ∀ error, ¬ check.Fails env error) :
    Decided env [check] (.ok a : Except Settings.Error α) :=
  .ok fun _ member => List.mem_singleton.mp member ▸ passes

end Deciding

/-- A text that is read is decided by one check: the result is what is meant, or nothing is meant
and the check fails. -/
theorem decided_text {check : Check} {text? : Option String} {P : α → Prop}
    {x : Except Settings.Error α} {refusal : String → Settings.Error}
    (reading : (∃ a, P a ∧ x = .ok a) ∨
      ∃ text, text? = some text ∧ (∀ a, ¬ P a) ∧ x = .error (refusal text))
    (fails : ∀ {text : String}, text? = some text → (∀ a, ¬ P a) → check.Fails env (refusal text))
    (nothing : ∀ error, check.Fails env error → ∀ a, ¬ P a) : Decided env [check] x := by
  rcases reading with ⟨a, means, rfl⟩ | ⟨text, given, unmeant, rfl⟩
  · exact .single fun error failed => nothing error failed a means
  · exact .error (.here (fails given unmeant))

/-- The range of the count is checked ahead of that of the delay. -/
theorem decided_window {count delay : Int} (counts : env.MeansCount count)
    (delays : env.MeansDelay delay) :
    Decided env [.countRange, .delayRange]
      ((Window.ofInts count delay).mapError Settings.Error.window) := by
  unfold Window.ofInts
  by_cases positive : 0 < count.toNat
  · -- A count is positive or not, but it is one count that the variable stands for.
    have inside : ∀ e, ¬ Check.countRange.Fails env e := by
      intro e fails
      cases fails with
      | countRange means low =>
          rw [means.unique reads_integer counts] at low
          omega
    rw [dif_pos positive]
    by_cases nonneg : 0 ≤ delay
    · rw [if_pos nonneg]
      refine .ok fun check member => ?_
      simp only [List.mem_cons, List.not_mem_nil, or_false] at member
      rcases member with rfl | rfl
      · exact inside
      · intro e fails
        cases fails with
        | delayRange means low =>
            rw [means.unique reads_integer delays] at low
            omega
    · rw [if_neg nonneg]
      exact .error (.behind inside (.here (.delayRange delays (by omega))))
  · rw [dif_neg positive]
    exact .error (.here (.countRange counts (by omega)))

/-- The settings are decided by the checks, in their order. -/
theorem decided_settings (env : Environment) : Decided env Check.order env.settings := by
  have split : env.settings =
      env.integer .count Settings.defaultCount >>= fun count =>
        env.integer .delay Settings.defaultDelay >>= fun delay =>
          env.truth .advance Settings.defaultAdvance >>= fun advance =>
            (Window.ofInts count delay).mapError Settings.Error.window >>= fun window =>
              env.level >>= fun level => pure ⟨window, advance, level⟩ := by
    rw [settings_eq]
    simp only [sampling, bind_assoc, pure_bind]
  rw [split]
  refine (decided_text (integer_cases env .count _) .countText ?_).bind fun count counted => ?_
  · intro _ failed
    cases failed with
    | countText _ unmeant => exact unmeant
  refine (decided_text (integer_cases env .delay _) .delayText ?_).bind fun delay delayed => ?_
  · intro _ failed
    cases failed with
    | delayText _ unmeant => exact unmeant
  refine (decided_text (truth_cases env .advance _) .advanceText ?_).bind fun advance _ => ?_
  · intro _ failed
    cases failed with
    | advanceText _ unmeant => exact unmeant
  -- From here on both numbers are known, and their ranges can be checked.
  have counts : env.MeansCount count := integer_eq_ok_iff.mp counted
  have delays : env.MeansDelay delay := integer_eq_ok_iff.mp delayed
  refine (decided_window counts delays).bind fun window _ => ?_
  refine (decided_text (level_cases env) .level ?_).bind fun level _ => .ok (by simp)
  intro _ failed
  cases failed with
  | level _ unmeant => exact unmeant

theorem settings_eq_error_iff {error : Settings.Error} :
    env.settings = .error error ↔ First env Check.order error := by
  have decided := decided_settings env
  cases result : env.settings with
  | ok settings =>
      rw [result] at decided
      cases decided with
      | ok pass =>
          constructor
          · intro same
            cases same
          · intro first
            exact absurd first (First.not_of_pass pass)
  | error e =>
      rw [result] at decided
      cases decided with
      | error first =>
          constructor
          · intro same
            cases same
            exact first
          · intro other
            rw [first.unique other]

theorem settings_eq_ok_iff_means {settings : Settings Bool} :
    env.settings = .ok settings ↔
      env.MeansCount settings.window.count ∧ env.MeansDelay settings.window.delay ∧
        env.MeansAdvance settings.advance ∧ MeansLevel env.level? settings.level := by
  rw [settings_eq_ok_iff, sampling_eq_ok_iff, integer_eq_ok_iff, integer_eq_ok_iff, truth_eq_ok_iff,
    level_eq_ok_iff, and_assoc, and_assoc]
  rfl

/-! ## Settings as texts -/

/-- The environment in which each variable has the plain text of a setting. -/
def ofSettings (settings : Settings Bool) : Environment where
  count? := some (Numeral.text settings.window.count)
  delay? := some (Numeral.text settings.window.delay)
  advance? := some (if settings.advance then "true" else "false")
  level? := some settings.level.name

theorem denotesInteger_text {n : Int} (short : Numeral.digitCount n ≤ Numeral.digitLimit) :
    DenotesInteger (Numeral.text n) n := by
  unfold DenotesInteger Numeral.text
  rw [String.toList_ofList]
  exact Numeral.denotes_write short

theorem denotesTruth_word (b : Bool) : DenotesTruth (if b then "true" else "false") b := by
  unfold DenotesTruth
  cases b <;> decide +kernel

theorem settings_ofSettings {settings : Settings Bool}
    (count : Numeral.digitCount settings.window.count ≤ Numeral.digitLimit)
    (delay : Numeral.digitCount settings.window.delay ≤ Numeral.digitLimit) :
    (ofSettings settings).settings = .ok settings :=
  settings_eq_ok_iff_means.mpr
    ⟨.denoted rfl (denotesInteger_text count), .denoted rfl (denotesInteger_text delay),
      .denoted rfl (denotesTruth_word settings.advance), .named rfl (upper_name settings.level)⟩

/-- An environment has settings exactly if each variable stands for something and the count and the
delay are in range, and the settings are then what the variables stand for. All settings of numbers
within the digit limit are those of an environment of their own texts. An environment without
settings has the error of the first check that fails. -/
theorem settings_of_environment :
    (∀ (env : Environment) (settings : Settings Bool), env.settings = .ok settings ↔
      env.MeansCount settings.window.count ∧ env.MeansDelay settings.window.delay ∧
        env.MeansAdvance settings.advance ∧ MeansLevel env.level? settings.level) ∧
    (∀ env : Environment, (∃ settings, env.settings = .ok settings) ↔
      (∃ n, 1 ≤ n ∧ env.MeansCount n) ∧ (∃ n, 0 ≤ n ∧ env.MeansDelay n) ∧
        (∃ b, env.MeansAdvance b) ∧ ∃ level, MeansLevel env.level? level) ∧
    (∀ settings : Settings Bool, Numeral.digitCount settings.window.count ≤ Numeral.digitLimit →
      Numeral.digitCount settings.window.delay ≤ Numeral.digitLimit →
      (ofSettings settings).settings = .ok settings) ∧
    ∀ (env : Environment) (error : Settings.Error),
      env.settings = .error error ↔ First env Check.order error := by
  refine ⟨fun _ _ => settings_eq_ok_iff_means, fun env => ?_, fun _ => settings_ofSettings,
    fun _ _ => settings_eq_error_iff⟩
  constructor
  · rintro ⟨settings, given⟩
    obtain ⟨counts, delays, advances, levels⟩ := settings_eq_ok_iff_means.mp given
    have positive := settings.window.count_pos
    exact ⟨⟨_, by omega, counts⟩, ⟨_, by omega, delays⟩, ⟨_, advances⟩, ⟨_, levels⟩⟩
  · rintro ⟨⟨count, positive, counts⟩, ⟨delay, nonneg, delays⟩, ⟨advance, advances⟩, level, levels⟩
    refine ⟨⟨⟨count.toNat, delay.toNat, by omega⟩, advance, level⟩, ?_⟩
    rw [settings_eq_ok_iff_means]
    dsimp only
    -- Both numbers are in range, so they are those of a window.
    rw [Int.toNat_of_nonneg (by omega), Int.toNat_of_nonneg nonneg]
    exact ⟨counts, delays, advances, levels⟩

/-- Numerals of another script with an underscore and blanks around them, a blank delay, a truth
word in mixed case, and a level name whose upper case has other letters than the text. Of a bad
cursor setting, a bad count and a bad level the cursor setting is reported. -/
theorem settings_of_odd_environment :
    (Environment.mk (some " ١_٢\n") (some "\u00a0") (some "\tYeS ") (some "warnıng")).settings =
        .ok ⟨⟨12, 1, by decide⟩, true, .warning⟩ ∧
      (Environment.mk (some "0") none (some "maybe") (some "loud")).settings =
        .error (.notABoolean .advance "maybe") ∧
      (ofSettings ⟨⟨12, 0, by decide⟩, false, .debug⟩).settings =
        .ok ⟨⟨12, 0, by decide⟩, false, .debug⟩ := by
  refine ⟨(settings_of_environment.1 _ _).mpr ⟨?_, ?_, ?_, ?_⟩,
    (settings_of_environment.2.2.2 _ _).mpr ?_,
    settings_of_environment.2.2.1 _ (by decide +kernel) (by decide +kernel)⟩
  · exact .denoted rfl ((reads_integer.exact _ _).mp (by decide +kernel))
  · refine .default ?_
    rintro text ⟨⟩
    exact List.all_eq_true.mp (by decide +kernel)
  · exact .denoted rfl ((reads_truth.exact _ _).mp (by decide +kernel))
  · exact .named rfl (by decide +kernel)
  · refine .behind ?_ (.behind ?_ (.here (.advanceText rfl ?_)))
    · intro e fails
      cases fails with
      | countText _ nothing =>
          exact nothing 0 (.denoted rfl ((reads_integer.exact _ _).mp (by decide +kernel)))
    · intro e fails
      cases fails with
      | delayText given _ => cases given
    · intro b means
      have read : truth _ .advance Settings.defaultAdvance = .ok b := truth_eq_ok_iff.mpr means
      cases read

end Environment

end GpuTelemetry
