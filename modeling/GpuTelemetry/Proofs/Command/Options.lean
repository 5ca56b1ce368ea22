import GpuTelemetry.Command.Options
import GpuTelemetry.Proofs.Results

/-!
# What the arguments of a command can leave

The options that a command ends up with come from the flags that it has, one after the other: a
property of options that no flag of a command spoils is one of every command line that is accepted
(`holds_of_options`). What commutes with the effect of every flag commutes with all that the words
of a command line add up to (`Commutes`).

Main statement: `metric_of_document`, by which only commands with a metric write documents.
-/

namespace GpuTelemetry.Command

variable {flags : List Flag} {P : Options → Prop}

/-! ## Flags in arguments -/

theorem mem_of_flagOf? {spelling : String} {flag : Flag}
    (found : flagOf? flags spelling = some flag) : flag ∈ flags :=
  List.mem_of_find?_eq_some found

theorem mem_of_completions {start : List Char} {flag : Flag} {spelling : String}
    (member : (flag, spelling) ∈ completions flags start) : flag ∈ flags := by
  obtain ⟨other, listed, made⟩ := List.mem_flatMap.mp member
  obtain ⟨_, _, same⟩ := List.mem_map.mp made
  cases same
  exact listed

/-- An argument that starts with a dash is sorted as an option of the command, if as one at all. -/
theorem mem_of_sortDashed {cs : List Char} {flag : Flag} {short : Bool}
    {attached? : Option (List Char)}
    (sorted : sortDashed flags cs = .ok (.option flag short attached?)) : flag ∈ flags := by
  have left : sortDashed.leftOver cs ≠ .option flag short attached? := by
    unfold sortDashed.leftOver
    split <;> exact nofun
  unfold sortDashed at sorted
  simp only at sorted
  -- An option is found by its full spelling, as the only one to start like that, or by its short
  -- one.
  split at sorted
  · next found =>
      cases sorted
      exact mem_of_flagOf? found
  · split at sorted
    · split at sorted
      · next only =>
          cases sorted
          exact mem_of_completions (only ▸ List.mem_singleton.mpr rfl)
      · exact absurd (Except.ok.inj sorted) left
      · cases sorted
    · split at sorted
      · next found =>
          cases sorted
          exact mem_of_flagOf? found
      · exact absurd (Except.ok.inj sorted) left

theorem mem_of_sortWord {text : String} {flag : Flag} {short : Bool}
    {attached? : Option (List Char)}
    (sorted : sortWord flags text = .ok (.option flag short attached?)) : flag ∈ flags := by
  unfold sortWord at sorted
  split at sorted
  · split at sorted
    · next found =>
        cases sorted
        exact mem_of_flagOf? found
    · exact mem_of_sortDashed sorted
  · cases sorted

/-- Sorted arguments whose options are among some flags. -/
structure Sorted (flags : List Flag) (words : List (String × Word)) : Prop where
  listed : ∀ text flag short attached?, (text, Word.option flag short attached?) ∈ words →
    flag ∈ flags

theorem Sorted.rest {word : String × Word} {rest : List (String × Word)}
    (sorted : Sorted flags (word :: rest)) : Sorted flags rest :=
  ⟨fun text flag short attached? behind =>
    sorted.listed text flag short attached? (List.mem_cons_of_mem _ behind)⟩

theorem Sorted.head {text : String} {flag : Flag} {short : Bool} {attached? : Option (List Char)}
    {rest : List (String × Word)}
    (sorted : Sorted flags ((text, .option flag short attached?) :: rest)) : flag ∈ flags :=
  sorted.listed text flag short attached? List.mem_cons_self

theorem sorted_of_sortWords {args : List String} {words : List (String × Word)}
    (given : sortWords flags args = .ok words) : Sorted flags words := by
  induction args generalizing words with
  | nil =>
      cases given
      exact ⟨nofun⟩
  | cons text rest ih =>
      unfold sortWords at given
      split at given
      · cases given
        refine ⟨fun other flag short attached? member => ?_⟩
        rcases List.mem_cons.mp member with same | behind
        · cases same
        · -- Behind the separator every word is plain.
          obtain ⟨_, _, same⟩ := List.mem_map.mp behind
          cases same
      · obtain ⟨word, sorted, given⟩ := ok_of_bind given
        obtain ⟨words, others, given⟩ := ok_of_bind given
        cases given
        refine ⟨fun other flag short attached? member => ?_⟩
        rcases List.mem_cons.mp member with same | behind
        · cases same
          exact mem_of_sortWord sorted
        · exact (ih others).listed other flag short attached? behind

/-- The options joined in one argument are all among the flags. -/
theorem mem_of_joined {flag : Flag} {short : Bool} {cs : List Char} {before : List Flag}
    {last : Flag} {text? : Option String} (listed : flag ∈ flags)
    (taken : joined flags flag short cs = .ok (before, last, text?)) :
    (∀ f ∈ before, f ∈ flags) ∧ last ∈ flags := by
  induction cs generalizing flag short before last text? with
  | nil =>
      unfold joined at taken
      split at taken <;> cases taken
      exact ⟨nofun, listed⟩
  | cons c rest ih =>
      unfold joined at taken
      split at taken
      · cases taken
        exact ⟨nofun, listed⟩
      · split at taken
        · cases taken
        · next other found =>
            -- The next character names another option of the command, or else this one is refused.
            have known : other ∈ flags := by
              split at found
              · exact mem_of_flagOf? found
              · cases found
            split at taken
            · cases taken
              exact ⟨List.forall_mem_singleton.mpr listed, known⟩
            · obtain ⟨⟨earlier, final, _⟩, taken, given⟩ := ok_of_bind taken
              cases given
              obtain ⟨switches, latest⟩ := ih known taken
              exact ⟨List.forall_mem_cons.mpr ⟨listed, switches⟩, latest⟩

/-- What is left to do for an argument with an option when the options joined in it are known. -/
def takeJoined (following? : Option String) (options : Options) :
    List Flag × Flag × Option String → Except Stop (Options × Bool)
  | (switches, last, text?) =>
    if last.takesText then
      match text?, following? with
      | some text, _ => do
        let texted ← takeText last text (← takeSwitches switches options)
        return (texted, false)
      | none, some text => do
        let texted ← takeText last text (← takeSwitches switches options)
        return (texted, true)
      | none, none => throw (.refused (.textMissing last))
    else do
      let switched ← takeSwitches (switches ++ [last]) options
      return (switched, false)

theorem takeOption_eq (flag : Flag) (short : Bool) (attached? : Option (List Char))
    (following? : Option String) (options : Options) :
    takeOption flags flag short attached? following? options =
      (match attached? with
        | none => .ok ([], flag, none)
        | some attached => (joined flags flag short attached).mapError .refused) >>=
          takeJoined following? options := by
  cases attached? <;> rfl

/-! ## Changes that no option sees -/

/-- A change of options that no option looks at: it may come before an option as well as after. -/
structure Commutes (change : Options → Options) : Prop where
  switch : ∀ flag o, takeSwitch flag (change o) = (takeSwitch flag o).map change
  text : ∀ flag given o, takeText flag given (change o) = (takeText flag given o).map change

namespace Commutes

variable {change : Options → Options} (commutes : Commutes change)
include commutes

theorem switches (switches : List Flag) (o : Options) :
    takeSwitches switches (change o) = (takeSwitches switches o).map change := by
  induction switches generalizing o with
  | nil => rfl
  | cons flag rest ih =>
      simp only [takeSwitches, commutes.switch]
      cases takeSwitch flag o with
      | error stop => rfl
      | ok switched => exact ih switched

/-- Switches and then an option with its text. -/
theorem texted (switches : List Flag) (last : Flag) (text : String) (taken : Bool) (o : Options) :
    (do
      let texted ← takeText last text (← takeSwitches switches (change o))
      return (texted, taken)) =
      (do
        let texted ← takeText last text (← takeSwitches switches o)
        return (texted, taken)).map (Prod.map change id) := by
  rw [commutes.switches]
  cases takeSwitches switches o with
  | error stop => rfl
  | ok switched =>
      show (takeText last text (change switched) >>= _) = _
      rw [commutes.text]
      show _ = Except.map _ (takeText last text switched >>= _)
      cases takeText last text switched <;> rfl

theorem joined (following? : Option String) (o : Options)
    (parts : List Flag × Flag × Option String) :
    takeJoined following? (change o) parts =
      (takeJoined following? o parts).map (Prod.map change id) := by
  obtain ⟨switches, last, text?⟩ := parts
  simp only [takeJoined]
  split
  · split
    · exact commutes.texted switches last _ false o
    · exact commutes.texted switches last _ true o
    · rfl
  · rw [commutes.switches]
    cases takeSwitches (switches ++ [last]) o <;> rfl

theorem option (flag : Flag) (short : Bool) (attached? : Option (List Char))
    (following? : Option String) (o : Options) :
    takeOption flags flag short attached? following? (change o) =
      (takeOption flags flag short attached? following? o).map (Prod.map change id) := by
  rw [takeOption_eq, takeOption_eq]
  cases attached? with
  | none => exact commutes.joined following? o ([], flag, none)
  | some attached =>
      cases parted : Command.joined flags flag short attached with
      | error e =>
          simp only [parted]
          rfl
      | ok parts =>
          simp only [parted]
          exact commutes.joined following? o parts

end Commutes

/-! ## What an option spares -/

/-- A property of options that no flag of a command spoils, nor an index. -/
structure Spared (flags : List Flag) (P : Options → Prop) : Prop where
  switch : ∀ flag ∈ flags, ∀ o next, takeSwitch flag o = .ok next → P o → P next
  text : ∀ flag ∈ flags, ∀ given o next, takeText flag given o = .ok next → P o → P next
  index : ∀ o text, P o → P { o with indices := o.indices ++ [text] }

namespace Spared

variable (spared : Spared flags P)
include spared

theorem switches {switches : List Flag} (listed : ∀ f ∈ switches, f ∈ flags) {o next : Options}
    (taken : takeSwitches switches o = .ok next) (holds : P o) : P next := by
  induction switches generalizing o with
  | nil =>
      cases taken
      exact holds
  | cons flag rest ih =>
      obtain ⟨known, others⟩ := List.forall_mem_cons.mp listed
      obtain ⟨mid, switched, taken⟩ := ok_of_bind taken
      exact ih others taken (spared.switch flag known o mid switched holds)

theorem option {flag : Flag} (listed : flag ∈ flags) {short : Bool} {attached? : Option (List Char)}
    {following? : Option String} {o next : Options} {took : Bool}
    (taken : takeOption flags flag short attached? following? o = .ok (next, took)) (holds : P o) :
    P next := by
  rw [takeOption_eq] at taken
  obtain ⟨⟨before, last, text?⟩, parted, taken⟩ := ok_of_bind taken
  have known : (∀ f ∈ before, f ∈ flags) ∧ last ∈ flags := by
    cases attached? with
    | none =>
        cases parted
        exact ⟨nofun, listed⟩
    | some attached => exact mem_of_joined listed (ok_of_mapError parted)
  simp only [takeJoined] at taken
  split at taken
  · -- The switches come first and then the text, attached or following.
    split at taken
    · obtain ⟨mid, switched, taken⟩ := ok_of_bind taken
      obtain ⟨final, texted, given⟩ := ok_of_bind taken
      cases given
      exact spared.text last known.2 _ mid _ texted (spared.switches known.1 switched holds)
    · obtain ⟨mid, switched, taken⟩ := ok_of_bind taken
      obtain ⟨final, texted, given⟩ := ok_of_bind taken
      cases given
      exact spared.text last known.2 _ mid _ texted (spared.switches known.1 switched holds)
    · cases taken
  · obtain ⟨final, switched, given⟩ := ok_of_bind taken
    cases given
    refine spared.switches ?_ switched holds
    exact List.forall_mem_append.mpr ⟨known.1, List.forall_mem_singleton.mpr known.2⟩

theorem plain (pass : Pass) (text : String) {found : Found} (holds : P found.options) :
    P (found.plain pass text).options := by
  unfold Found.plain
  split
  · exact holds
  · exact holds
  · exact spared.index found.options text holds

theorem words {pass : Pass} {words : List (String × Word)} (sorted : Sorted flags words)
    {found last : Found} (read : readWords flags pass words found = .ok last)
    (holds : P found.options) : P last.options := by
  -- Along the words that are read; the options change at plain words and at options only.
  fun_induction readWords flags pass words found generalizing last with
  | case1 found =>
      cases read
      exact holds
  | case2 text rest found ih => exact ih sorted.rest read (spared.plain pass text holds)
  | case3 text rest found ih =>
      refine ih sorted.rest read ?_
      unfold Found.separator
      split <;> exact holds
  | case4 text rest found ih => exact ih sorted.rest read holds
  | case5 name flag short attached? text rest found ih =>
      obtain ⟨⟨options, taken⟩, took, read⟩ := ok_of_bind read
      have kept := spared.option sorted.head took holds
      refine ih options taken sorted.rest.rest read ?_
      cases taken
      · exact spared.plain pass text kept
      · exact kept
  | case6 name flag short attached? rest found _ ih =>
      obtain ⟨⟨options, taken⟩, took, read⟩ := ok_of_bind read
      exact ih options sorted.rest read (spared.option sorted.head took holds)

theorem once {pass : Pass} {o : Options} {args : List String} {found : Found}
    (read : readOnce flags pass o args = .ok found) (holds : P o) : P found.options := by
  obtain ⟨words, sorted, read⟩ := ok_of_bind read
  exact spared.words (sorted_of_sortWords (ok_of_mapError sorted)) read holds

end Spared

/-- What no flag of a command spoils holds of all options that its arguments can leave. -/
theorem holds_of_options {c : Command} {args : List String} {o : Options}
    (spared : Spared c.flags P) (start : P {}) (accepted : c.options args = .ok o) : P o := by
  obtain ⟨first, once, accepted⟩ := ok_of_bind accepted
  obtain ⟨second, twice, accepted⟩ := ok_of_bind accepted
  have holds := spared.once twice (spared.once once start)
  split at accepted
  · cases accepted
    exact holds
  · cases accepted

/-! ## Documents -/

/-- Only a command with output formats has its format changed. -/
theorem spared_format (flags : List Flag) :
    Spared flags fun o => o.format = .document → .format ∈ flags := by
  refine ⟨fun flag _ o next taken holds => ?_, fun flag listed given o next taken holds => ?_,
    fun _ _ holds => holds⟩
  · cases flag <;> cases taken <;> exact holds
  · -- Only the text for the format changes it, and then the command has formats.
    by_cases format : flag = .format
    · exact fun _ => format ▸ listed
    · have same : next.format = o.format := by
        unfold takeText at taken
        split at taken
        · cases taken
          cases flag <;> first | rfl | exact absurd rfl format
        · cases flag with
          | samples =>
              obtain ⟨n, _, given⟩ := ok_of_bind taken
              cases given
              rfl
          | delay =>
              obtain ⟨n, _, given⟩ := ok_of_bind taken
              cases given
              rfl
          | format => exact absurd rfl format
          | help =>
              cases taken
              rfl
          | verbose =>
              cases taken
              rfl
      rw [same]
      exact holds

/-- Only commands with a metric write documents. -/
theorem metric_of_document {c : Command} {args : List String} {o : Options}
    (accepted : c.options args = .ok o) (document : o.format = .document) :
    ∃ metric, c.metric? = some metric := by
  have listed : Flag.format ∈ c.flags :=
    holds_of_options (spared_format c.flags) nofun accepted document
  cases c with
  | power => exact ⟨_, rfl⟩
  | utilization => exact ⟨_, rfl⟩
  | frequency => exact ⟨_, rfl⟩
  | listing => exact absurd listed (by decide)

end GpuTelemetry.Command
