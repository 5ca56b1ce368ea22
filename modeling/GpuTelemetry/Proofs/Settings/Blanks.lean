import GpuTelemetry.Proofs.Settings.Grammar

/-!
# Blanks in an environment

Blanks around the text of a variable are trimmed off for a truth word, and those that may surround a
numeral for a numeral. The others spoil a text that would otherwise do (`Spoils`): an information
separator that of a numeral, and any blank that of a level, which is not trimmed.

Main statement: `settings_of_blanks`. A trimmed environment has the settings of the environment as
it was unless a text was spoiled, and a blank text counts as unset unless it is that of the level.
-/

namespace GpuTelemetry

namespace Text

theorem trim_trim (text : String) : trim (trim text) = trim text := by
  unfold trim
  rw [String.toList_ofList, strip_of_bare (bare_strip _ _)]

/-- All of a text is blank exactly if all that trimming leaves of it is. -/
theorem blank_trim_iff {text : String} :
    (∀ c ∈ (trim text).toList, isBlank c = true) ↔ ∀ c ∈ text.toList, isBlank c = true := by
  rw [← trim_eq_empty_iff, trim_trim, trim_eq_empty_iff]

def blanks : List Char :=
  ['\t', '\n', '\u000b', '\u000c', '\r', '\u001c', '\u001d', '\u001e', '\u001f', ' ', '\u0085',
    '\u00a0', '\u1680', '\u2000', '\u2001', '\u2002', '\u2003', '\u2004', '\u2005', '\u2006',
    '\u2007', '\u2008', '\u2009', '\u200a', '\u2028', '\u2029', '\u202f', '\u205f', '\u3000']

theorem mem_blanks {c : Char} (blank : isBlank c = true) : c ∈ blanks := by
  have code : c.toNat ∈ blanks.map Char.toNat := by
    simp only [isBlank, isNumeralBlank, Bool.or_eq_true, Bool.and_eq_true, decide_eq_true_eq,
      beq_iff_eq] at blank
    simp only [blanks, List.map_cons, List.map_nil, List.mem_cons, List.not_mem_nil, or_false,
      Char.reduceToNat]
    omega
  obtain ⟨d, member, same⟩ := List.mem_map.mp code
  rwa [← Char.toNat_inj.mp same]

/-- No blank has an upper case of its own. -/
theorem mapCase_blank {c : Char} (blank : isBlank c = true) :
    mapCase upperRuns upperExpansions c = [c] := by
  have all : blanks.all (fun c => mapCase upperRuns upperExpansions c == [c]) = true := by
    decide +kernel
  exact eq_of_beq (List.all_eq_true.mp all c (mem_blanks blank))

theorem mem_upper_of_blank {text : String} {c : Char} (member : c ∈ text.toList)
    (blank : isBlank c = true) : c ∈ (upper text).toList := by
  unfold upper
  rw [String.toList_ofList]
  exact List.mem_flatMap.mpr ⟨c, member, by simp [mapCase_blank blank]⟩

/-- A text whose upper case has no blank has none itself. -/
theorem bare_of_upper {text name : String} (bare : ∀ c ∈ name.toList, isBlank c = false)
    (same : upper text = name) : ∀ c ∈ text.toList, isBlank c = false := by
  intro c member
  cases blank : isBlank c with
  | false => rfl
  | true =>
      rw [bare c (same ▸ mem_upper_of_blank member blank)] at blank
      cases blank

theorem trim_of_bare {text : String} (bare : ∀ c ∈ text.toList, isBlank c = false) :
    trim text = text := by
  unfold trim
  rw [strip_of_bare, String.ofList_toList]
  exact ⟨fun c first => bare c (List.mem_of_head? first), fun c last =>
    bare c (List.mem_of_getLast? last)⟩

end Text

namespace Numeral

/-- No sign and no underscore is a blank, and no digit is. -/
theorem bare_sign {sign run : List Char} {ds : List Nat} (shown : DigitRun run ds)
    (signed : sign = ['-'] ∨ sign = ['+'] ∨ sign = []) : Text.Bare Text.isBlank (sign ++ run) := by
  obtain ⟨c, d, rest, start, first⟩ := shown.first
  obtain ⟨before, e, f, finish, last⟩ := shown.final
  have behind : ∀ head : List Char, head ++ run = (head ++ before) ++ [e] := by simp [finish]
  rcases signed with rfl | rfl | rfl
  · exact .of_ends rfl (behind _) (by decide) (isBlank_of_digit last)
  · exact .of_ends rfl (behind _) (by decide) (isBlank_of_digit last)
  · exact .of_ends start finish (isBlank_of_digit first) (isBlank_of_digit last)

/-- A numeral has no blanks but those that may surround one. -/
theorem Denotes.blanks {text : List Char} {n : Int} (denotes : Denotes text n) {c : Char}
    (member : c ∈ text) (blank : Text.isBlank c = true) : Text.isNumeralBlank c = true := by
  cases other : Text.isNumeralBlank c with
  | true => rfl
  | false =>
      have noDigit : digit? c = none := by
        cases digit : digit? c with
        | none => rfl
        | some d =>
            rw [isBlank_of_digit digit] at blank
            cases blank
      -- All that could stand in a numeral but for its own blanks is not blank.
      refine absurd member (denotes.notMem noDigit other ⟨?_, ?_, ?_⟩)
      all_goals
        rintro rfl
        revert blank
        decide

/-- Trimming leaves a numeral a numeral, and makes one only of a text that could be surrounded with
all the blanks that it has. -/
theorem denotes_strip_iff {text : List Char} {n : Int} : Denotes text n ↔
    Denotes (Text.strip Text.isBlank text) n ∧
      ∀ c ∈ text, Text.isBlank c = true → Text.isNumeralBlank c = true := by
  constructor
  · intro denotes
    refine ⟨?_, fun c => denotes.blanks⟩
    obtain ⟨before, sign, run, after, ds, rfl, front, back, shown, short, value⟩ := denotes
    have signed : sign = ['-'] ∨ sign = ['+'] ∨ sign = [] :=
      value.elim (fun minus => .inl minus.1) fun plain => .inr plain.1
    -- Trimming takes away more kinds of blanks than a numeral may have around it.
    have wider : ∀ cs : List Char, (∀ c ∈ cs, Text.isNumeralBlank c = true) →
        ∀ c ∈ cs, Text.isBlank c = true := by
      intro cs all c member
      simp [Text.isBlank, all c member]
    rw [Text.strip_append (wider _ front) (wider _ back) (bare_sign shown signed)]
    exact ⟨[], sign, run, [], ds, by simp, by simp, by simp, shown, short, value⟩
  · rintro ⟨⟨before, sign, run, after, ds, shape, front, back, shown, short, value⟩, fit⟩
    obtain ⟨outer, rest, split, leading, trailing⟩ := Text.exists_strip Text.isBlank text
    -- What was trimmed are blanks that the numeral may have, so they join those it has left.
    have ends : ∀ c ∈ outer ++ rest, Text.isNumeralBlank c = true := by
      intro c member
      refine fit c ?_ ((List.mem_append.mp member).elim (leading c) (trailing c))
      rw [split]
      rcases List.mem_append.mp member with member | member <;> simp [member]
    refine ⟨outer ++ before, sign, run, after ++ rest, ds, ?_, ?_, ?_, shown, short, value⟩
    · rw [split, shape]
      simp
    · intro c member
      rcases List.mem_append.mp member with one | one
      · exact ends c (List.mem_append_left _ one)
      · exact front c one
    · intro c member
      rcases List.mem_append.mp member with one | one
      · exact back c one
      · exact ends c (List.mem_append_right _ one)

end Numeral

namespace Environment

variable {α : Type} {env : Environment} {key : Settings.Variable} {text : String}

/-- The environment in which a variable has another text, or none. -/
def set (env : Environment) (key : Settings.Variable) (text? : Option String) : Environment :=
  match key with
  | .count => { env with count? := text? }
  | .delay => { env with delay? := text? }
  | .advance => { env with advance? := text? }
  | .level => { env with level? := text? }

@[simp]
theorem text?_set_self (env : Environment) (key : Settings.Variable) (text? : Option String) :
    (env.set key text?).text? key = text? := by
  cases key <;> rfl

theorem text?_set_of_ne {other : Settings.Variable} (apart : other ≠ key) (text? : Option String) :
    (env.set key text?).text? other = env.text? other := by
  cases key <;> cases other <;> first | rfl | exact absurd rfl apart

/-- A text that a variable can do nothing with for the blanks in it. -/
inductive Spoils : Settings.Variable → String → Prop
  | separator {key : Settings.Variable} {text : String} {c : Char}
      (numeral : key = .count ∨ key = .delay) (filled : ¬ Unfilled (some text))
      (member : c ∈ text.toList) (blank : Text.isBlank c = true)
      (separates : Text.isNumeralBlank c = false) : Spoils key text
  | level {text : String} (untrimmed : Text.trim text ≠ text) : Spoils .level text

theorem unfilled_trim_iff : Unfilled (some (Text.trim text)) ↔ Unfilled (some text) := by
  unfold Unfilled
  simpa using Text.blank_trim_iff

/-- What a trimmed text stands for, where trimming a text may only make it denote something. -/
theorem means_trim_iff {reader : String → Option α} {denotes : String → α → Prop} {default a : α}
    {fits : Prop} (reads : Reads reader denotes)
    (same : denotes text a ↔ denotes (Text.trim text) a ∧ fits) :
    Means denotes default (some text) a ↔
      Means denotes default (some (Text.trim text)) a ∧ (Unfilled (some text) ∨ fits) := by
  constructor
  · rintro (unfilled | ⟨given, denoted⟩)
    · exact ⟨.default (unfilled_trim_iff.mpr unfilled), .inl unfilled⟩
    · cases given
      obtain ⟨denoted, fit⟩ := same.mp denoted
      exact ⟨.denoted rfl denoted, .inr fit⟩
  · rintro ⟨unfilled | ⟨given, denoted⟩, fit⟩
    · exact .default (unfilled_trim_iff.mp unfilled)
    · cases given
      rcases fit with unfilled | fit
      · exact absurd (unfilled_trim_iff.mpr unfilled) (reads.filled _ _ denoted)
      · exact .denoted rfl (same.mpr ⟨denoted, fit⟩)

theorem means_integer_trim_iff {default n : Int} (numeral : key = .count ∨ key = .delay) :
    Means DenotesInteger default (some text) n ↔
      Means DenotesInteger default (some (Text.trim text)) n ∧ ¬ Spoils key text := by
  have same : DenotesInteger text n ↔ DenotesInteger (Text.trim text) n ∧
      ∀ c ∈ text.toList, Text.isBlank c = true → Text.isNumeralBlank c = true := by
    unfold DenotesInteger Text.trim
    rw [String.toList_ofList]
    exact Numeral.denotes_strip_iff
  rw [means_trim_iff reads_integer same]
  refine and_congr_right fun _ => ?_
  constructor
  · rintro (unfilled | fit) (⟨_, filled, member, blank, separates⟩ | _)
    · exact filled unfilled
    · rcases numeral with other | other <;> cases other
    · rw [fit _ member blank] at separates
      cases separates
    · rcases numeral with other | other <;> cases other
  · intro unspoiled
    -- Blanks alone spoil nothing, whatever they are: the default is in force.
    by_cases unfilled : Unfilled (some text)
    · exact .inl unfilled
    · refine .inr fun c member blank => ?_
      cases separates : Text.isNumeralBlank c with
      | true => rfl
      | false => exact absurd (.separator numeral unfilled member blank separates) unspoiled

theorem means_truth_trim_iff {default b : Bool} :
    Means DenotesTruth default (some text) b ↔
      Means DenotesTruth default (some (Text.trim text)) b := by
  have same : DenotesTruth text b ↔ DenotesTruth (Text.trim text) b ∧ True := by
    unfold DenotesTruth
    rw [Text.trim_trim, and_true]
  rw [means_trim_iff reads_truth same, or_true, and_true]

theorem bare_level (level : LogLevel) : ∀ c ∈ level.name.toList, Text.isBlank c = false := by
  have bare : level.name.toList.all (fun c => !Text.isBlank c) = true := by cases level <;> decide
  intro c member
  simpa using List.all_eq_true.mp bare c member

theorem meansLevel_some_iff {level : LogLevel} :
    MeansLevel (some text) level ↔ Text.upper text = level.name := by
  constructor
  · rintro (unset | ⟨given, name⟩)
    · cases unset
    · cases given
      exact name
  · exact .named rfl

theorem meansLevel_trim_iff {level : LogLevel} :
    MeansLevel (some text) level ↔
      MeansLevel (some (Text.trim text)) level ∧ ¬ Spoils .level text := by
  rw [meansLevel_some_iff, meansLevel_some_iff]
  constructor
  · intro name
    -- A text that is a level in capitals has no blanks at its ends.
    have trimmed := Text.trim_of_bare (Text.bare_of_upper (bare_level level) name)
    refine ⟨by rw [trimmed, name], ?_⟩
    rintro (⟨other | other, _⟩ | untrimmed)
    · cases other
    · cases other
    · exact untrimmed trimmed
  · rintro ⟨name, unspoiled⟩
    by_cases trimmed : Text.trim text = text
    · rwa [trimmed] at name
    · exact absurd (.level trimmed) unspoiled

theorem not_spoils_advance : ¬ Spoils .advance text := by
  rintro (⟨other | other, _⟩ | _)
  · cases other
  · cases other

theorem settings_trim_iff {settings : Settings Bool} :
    (env.set key (some text)).settings = .ok settings ↔
      (env.set key (some (Text.trim text))).settings = .ok settings ∧ ¬ Spoils key text := by
  rw [settings_eq_ok_iff_means, settings_eq_ok_iff_means]
  cases key with
  | count =>
      dsimp only [set, MeansCount]
      rw [means_integer_trim_iff (.inl rfl), and_right_comm]
  | delay =>
      dsimp only [set, MeansDelay]
      rw [means_integer_trim_iff (.inr rfl)]
      constructor
      · rintro ⟨counts, ⟨delays, unspoiled⟩, rest⟩
        exact ⟨⟨counts, delays, rest⟩, unspoiled⟩
      · rintro ⟨⟨counts, delays, rest⟩, unspoiled⟩
        exact ⟨counts, ⟨delays, unspoiled⟩, rest⟩
  | advance =>
      dsimp only [set, MeansAdvance]
      rw [means_truth_trim_iff, and_iff_left not_spoils_advance]
  | level =>
      dsimp only [set]
      rw [meansLevel_trim_iff, and_assoc, and_assoc, and_assoc]

theorem settings_of_unfilled (other : key ≠ .level) (unfilled : Unfilled (some text)) :
    (env.set key (some text)).settings = (env.set key none).settings := by
  refine settings_congr ?_ ?_
  · intro one _
    by_cases own : one = key
    · subst own
      have unset : Unfilled none := by
        rintro _ ⟨⟩
      rw [filled?_of_unfilled (by rwa [text?_set_self]),
        filled?_of_unfilled (by rwa [text?_set_self])]
    · unfold filled?
      rw [text?_set_of_ne own, text?_set_of_ne own]
  · exact (text?_set_of_ne other.symm _).trans (text?_set_of_ne other.symm _).symm

/-- No blank text is that of a level. -/
theorem not_settings_of_unfilled_level (unfilled : Unfilled (some text))
    (settings : Settings Bool) :
    (env.set .level (some text)).settings ≠ .ok settings := by
  intro valid
  obtain ⟨_, _, _, means⟩ := settings_eq_ok_iff_means.mp valid
  have name := meansLevel_some_iff.mp means
  have bare := Text.bare_of_upper (bare_level settings.level) name
  -- The text of a level is without blanks at its ends, and this one has nothing else.
  have nothing : text.toList = [] := by
    refine List.eq_nil_iff_forall_not_mem.mpr fun c member => ?_
    have blank := unfilled text rfl c member
    rw [bare c member] at blank
    cases blank
  have named : ∀ level : LogLevel, String.ofList [] ≠ level.name := by
    intro level
    cases level <;> decide
  unfold Text.upper at name
  rw [nothing] at name
  exact named settings.level name

/-- Trimming the text of a variable makes no difference to the settings of an environment, unless
blanks spoiled the text: then there are no settings before it is trimmed. A blank text counts as
unset, but that of a level is refused. -/
theorem settings_of_blanks (env : Environment) (key : Settings.Variable) (text : String) :
    (∀ settings, (env.set key (some text)).settings = .ok settings ↔
      (env.set key (some (Text.trim text))).settings = .ok settings ∧ ¬ Spoils key text) ∧
    ((∀ c ∈ text.toList, Text.isBlank c = true) →
      (key ≠ .level → (env.set key (some text)).settings = (env.set key none).settings) ∧
      (key = .level → ∀ settings, (env.set key (some text)).settings ≠ .ok settings)) := by
  refine ⟨fun _ => settings_trim_iff, fun blank => ?_⟩
  have unfilled : Unfilled (some text) := by
    rintro _ ⟨⟩
    exact blank
  refine ⟨fun other => settings_of_unfilled other unfilled, ?_⟩
  rintro rfl
  exact not_settings_of_unfilled_level unfilled

/-- Blanks around a count make no difference, a blank delay counts as unset, and a blank level is
refused. -/
theorem blanks_around_values :
    ((Environment.mk none none none none).set .count (some "\u2003 5\n")).settings =
        .ok ⟨⟨5, 1, by decide⟩, true, .warning⟩ ∧
      ((Environment.mk none none none none).set .delay (some " \u001f")).settings =
        ((Environment.mk none none none none).set .delay none).settings ∧
      ∀ settings, ((Environment.mk none none none none).set .level (some " ")).settings ≠
        .ok settings := by
  refine ⟨((settings_of_blanks _ .count _).1 _).mpr ⟨rfl, ?_⟩,
    ((settings_of_blanks _ .delay _).2 (List.all_eq_true.mp (by decide +kernel))).1 (by decide),
    ((settings_of_blanks _ .level _).2 (List.all_eq_true.mp (by decide +kernel))).2 rfl⟩
  have fit : ∀ c ∈ "\u2003 5\n".toList, Text.isBlank c = true → Text.isNumeralBlank c = true := by
    have all : "\u2003 5\n".toList.all
        (fun c => !Text.isBlank c || Text.isNumeralBlank c) = true := by decide +kernel
    intro c member blank
    simpa [blank] using List.all_eq_true.mp all c member
  rintro (⟨_, _, member, blank, separates⟩ | _)
  rw [fit _ member blank] at separates
  cases separates

/-- Blanks at an end of a level and separators around a count are not trimmed off, and a blank level
does not count as unset. -/
theorem untrimmed_texts_refused :
    (Environment.mk none none none none).settings = .ok ⟨⟨1, 1, by decide⟩, true, .warning⟩ ∧
      (Environment.mk none none none (some "")).settings = .error (.unknownLevel (.text "")) ∧
      (Environment.mk none none none (some " debug")).settings =
        .error (.unknownLevel (.text " DEBUG")) ∧
      (Environment.mk none none none (some (Text.trim " debug"))).settings =
        .ok ⟨⟨1, 1, by decide⟩, true, .debug⟩ ∧
      (Environment.mk (some "\u001c5") none none none).settings =
        .error (.notAnInteger .count "\u001c5") ∧
      (Environment.mk (some (Text.trim "\u001c5")) none none none).settings =
        .ok ⟨⟨5, 1, by decide⟩, true, .warning⟩ :=
  ⟨rfl, rfl, rfl, rfl, rfl, rfl⟩

end Environment

end GpuTelemetry
