import Mathlib.Control.Monad.Basic
import GpuTelemetry.Command.Execution
import GpuTelemetry.Proofs.Command.Options
import GpuTelemetry.Proofs.Output
import GpuTelemetry.Proofs.Settings
import GpuTelemetry.Simulated

/-!
# Verbosity

The option for more notes and the level of the environment choose which notes are shown. Neither
has any other effect: what a run does apart from its words for the standard error, its *deeds*, is
the same with and without them.

Two command lines are the same but for that option if they are read as options that differ in
nothing else (`SameButVerbose`). One in front of any arguments makes such a pair: reading commutes
with turning the option on (`readWords_loud`), as no other option and no index looks at it.

Main statement: `verbosity_changes_no_deed`.
-/

namespace GpuTelemetry

variable {σ α : Type}

/-- What an event writes, if anything, it writes to the standard error. -/
def Event.forErrors : Event → Bool
  | .note _ | .showNotes _ | .complain _ => true
  | .call .. | .pause _ | .print _ => false

/-- The calls, the pauses and the printed texts of a run, in the order in which they happened. -/
def Outcome.deeds (o : Outcome σ α) : List Event :=
  o.events.filter fun event => !event.forErrors

/-- All acts are deeds. -/
theorem Outcome.acts_eq_filter_deeds (o : Outcome σ α) : o.acts = o.deeds.filter (·.isAct) := by
  unfold acts deeds
  rw [List.filter_filter]
  refine List.filter_congr fun event _ => ?_
  cases event <;> rfl

/-- The standard output is written by deeds alone. -/
theorem Console.output_deeds (o : Outcome σ α) : output o.deeds = output o.events := by
  unfold output Outcome.deeds
  induction o.events with
  | nil => rfl
  | cons event rest ih =>
      cases event <;> simpa [Event.forErrors, outputOf, String.join_cons] using ih

/-- Two outcomes that differ in nothing but words for the standard error. -/
structure Outcome.SameDeeds (o p : Outcome σ α) : Prop where
  result : o.result = p.result
  state : o.state = p.state
  deeds : o.deeds = p.deeds

theorem Outcome.SameDeeds.refl (o : Outcome σ α) : o.SameDeeds o := ⟨rfl, rfl, rfl⟩

theorem Outcome.SameDeeds.symm {o p : Outcome σ α} (same : o.SameDeeds p) : p.SameDeeds o :=
  ⟨same.result.symm, same.state.symm, same.deeds.symm⟩

theorem Outcome.SameDeeds.trans {o p q : Outcome σ α} (one : o.SameDeeds p)
    (two : p.SameDeeds q) : o.SameDeeds q :=
  ⟨one.result.trans two.result, one.state.trans two.state, one.deeds.trans two.deeds⟩

/-- Something written to the standard error first makes no difference to the deeds. -/
theorem Run.sameDeeds_behind {event : Event} (silent : event.forErrors = true)
    (next : Unit → Run σ α) (s : σ) :
    ((Run.emit event >>= next) s).SameDeeds (next () s) := by
  rw [Run.bind_of_ok (a := ()) next rfl]
  refine ⟨rfl, rfl, ?_⟩
  simp [Outcome.deeds, silent]

namespace Command

/-! ## Reading with the option turned on -/

def Options.loud (o : Options) : Options := { o with verbose := true }

def Found.loud (found : Found) : Found := { found with options := found.options.loud }

variable {flags : List Flag}

/-- No option looks at whether this one is on. -/
theorem commutes_loud : Commutes Options.loud where
  switch flag o := by cases flag <;> rfl
  text flag given o := by
    unfold takeText
    split
    · cases flag <;> rfl
    · cases flag with
      | samples => cases number .samples 1 given <;> rfl
      | delay => cases number .delay 0 given <;> rfl
      | format => cases Format.ofWord? given <;> rfl
      | help => rfl
      | verbose => rfl

theorem plain_loud (pass : Pass) (text : String) (found : Found) :
    found.loud.plain pass text = (found.plain pass text).loud := by
  obtain ⟨options, kept, place⟩ := found
  cases pass <;> cases place <;> rfl

theorem separator_loud (pass : Pass) (text : String) (found : Found) :
    found.loud.separator pass text = (found.separator pass text).loud := by
  obtain ⟨options, kept, place⟩ := found
  cases pass <;> cases place <;> rfl

/-- Nothing that is read depends on whether the option has been turned on before. -/
theorem readWords_loud (pass : Pass) (words : List (String × Word)) (found : Found) :
    readWords flags pass words found.loud = (readWords flags pass words found).map Found.loud := by
  -- Along the words that are read: each of them commutes with turning the option on.
  fun_induction readWords flags pass words found with
  | case1 found => rfl
  | case2 text rest found ih =>
      rw [← ih, ← plain_loud]
      rfl
  | case3 text rest found ih =>
      rw [← ih, ← separator_loud]
      rfl
  | case4 text rest found ih =>
      rw [← ih]
      rfl
  | case5 name flag short attached? text rest found ih =>
      simp only [readWords]
      show takeOption flags flag short attached? (some text) found.options.loud >>= _ = _
      rw [commutes_loud.option]
      cases takeOption flags flag short attached? (some text) found.options with
      | error stop => rfl
      | ok given =>
          obtain ⟨options, taken⟩ := given
          refine Eq.trans ?_ (ih options taken)
          cases taken
          · exact congrArg (readWords flags pass rest)
              (plain_loud pass text { found.endRow with options })
          · rfl
  | case6 name flag short attached? rest found last ih =>
      rw [readWords.eq_6 _ _ _ _ _ _ _ _ last]
      show takeOption flags flag short attached? none found.options.loud >>= _ = _
      rw [commutes_loud.option]
      cases takeOption flags flag short attached? none found.options with
      | error stop => rfl
      | ok given => exact ih given.1

theorem readOnce_loud (pass : Pass) (o : Options) (args : List String) :
    readOnce flags pass o.loud args = (readOnce flags pass o args).map Found.loud := by
  unfold readOnce
  cases sortWords flags args with
  | error e => rfl
  | ok words => exact readWords_loud pass words { options := o }

variable {c : Command} {spelling : String}

theorem sortWord_verbose (c : Command) (listed : spelling ∈ Flag.verbose.spellings) :
    spelling ≠ "--" ∧
      sortWord c.flags spelling = .ok (.option .verbose (isShort spelling) none) := by
  simp only [Flag.spellings, List.mem_cons, List.not_mem_nil, or_false] at listed
  rcases listed with rfl | rfl
  · exact ⟨by decide, by cases c <;> rfl⟩
  · exact ⟨by decide, by cases c <;> rfl⟩

/-- The option in front of all words does nothing but turn itself on. -/
theorem readWords_verbose (pass : Pass) (short : Bool) (words : List (String × Word))
    (o : Options) :
    readWords flags pass ((spelling, .option .verbose short none) :: words) { options := o } =
      readWords flags pass words { options := o.loud } := by
  rcases words with _ | ⟨⟨text, word⟩, rest⟩
  · rfl
  · cases word <;> rfl

/-- Arguments are read alike with the option in front of them, and then it is on. -/
theorem options_verbose (c : Command) (listed : spelling ∈ Flag.verbose.spellings)
    (args : List String) : c.options (spelling :: args) = (c.options args).map Options.loud := by
  obtain ⟨other, sorted⟩ := sortWord_verbose c listed
  have first : readOnce c.flags .first {} (spelling :: args) =
      (readOnce c.flags .first {} args).map Found.loud := by
    rw [← readOnce_loud]
    unfold readOnce
    -- The option stands alone in its argument and has no text to take from the next one.
    rw [sortWords, if_neg other, sorted]
    cases sortWords c.flags args with
    | error e => rfl
    | ok words => exact readWords_verbose .first _ words {}
  unfold options
  rw [first]
  cases readOnce c.flags .first {} args with
  | error stop => rfl
  | ok once =>
      show readOnce c.flags .second once.options.loud once.kept >>= _ = _
      rw [readOnce_loud]
      show _ = Except.map Options.loud (readOnce c.flags .second once.options once.kept >>= _)
      cases readOnce c.flags .second once.options once.kept with
      | error stop => rfl
      | ok twice => rcases twice with ⟨last, _ | ⟨text, left⟩, place⟩ <;> rfl

/-! ## Runs with more or fewer notes -/

/-- What is read from two command lines that differ at most in whether the option is on; both may
also be refused. -/
inductive SameButVerbose : Except Stop Options → Except Stop Options → Prop
  | help : SameButVerbose (.error .help) (.error .help)
  | refused (error error' : UsageError) :
      SameButVerbose (.error (.refused error)) (.error (.refused error'))
  | accepted (o : Options) (verbose : Bool) : SameButVerbose (.ok o) (.ok { o with verbose })

theorem SameButVerbose.loud (read : Except Stop Options) :
    SameButVerbose read (read.map Options.loud) := by
  rcases read with stop | o
  · cases stop with
    | help => exact .help
    | refused error => exact .refused error error
  · exact .accepted o true

variable {m : Machine} {env : Environment} {backend : Except Failure (Backend σ)}

/-- All of a command but the choice of the notes to show looks neither at the option nor at the
level. -/
theorem execute_eq (c : Command) (m : Machine) (o : Options) (settings : Settings Bool)
    (backend : Except Failure (Backend σ)) :
    ∃ rest : Run (Sessions σ) ExitStatus, ∀ verbose level,
      ∃ shown, c.execute m { o with verbose } { settings with level } backend =
        Run.emit (.showNotes shown) >>= fun _ => rest := by
  refine ⟨do
    let window ← Run.ofExcept ((c.window o settings).mapError .badWindow)
    c.warn window settings.advance
    inSession backend (c.body m o window settings.advance), fun verbose level => ?_⟩
  exact ⟨if verbose then .debug else level, rfl⟩

theorem sameDeeds_execute (o : Options) (settings : Settings Bool) (verbose : Bool)
    (level : LogLevel) (s : Sessions σ) :
    (c.execute m o settings backend s).SameDeeds
      (c.execute m { o with verbose } { settings with level } backend s) := by
  obtain ⟨rest, executes⟩ := execute_eq c m o settings backend
  obtain ⟨shown, one⟩ := executes o.verbose settings.level
  obtain ⟨shown', other⟩ := executes verbose level
  have first : (c.execute m o settings backend s).SameDeeds (rest s) :=
    one ▸ Run.sameDeeds_behind rfl (fun _ => rest) s
  have second : (c.execute m { o with verbose } { settings with level } backend s).SameDeeds
      (rest s) :=
    other ▸ Run.sameDeeds_behind rfl (fun _ => rest) s
  exact first.trans second.symm

/-- An accepted command in environments whose levels are valid: the settings are refused for the
same reason in both, or the runs differ in the notes that they show. -/
theorem sameDeeds_of_accepted {args args' : List String} {o : Options} {verbose : Bool}
    {level? : Option String} {level level' : LogLevel} (accepted : c.options args = .ok o)
    (accepted' : c.options args' = .ok { o with verbose }) (named : env.level = .ok level)
    (named' : { env with level? := level? }.level = .ok level') (s : Sessions σ) :
    (c.run m args env backend s).SameDeeds
      (c.run m args' { env with level? := level? } backend s) := by
  have sampled : { env with level? := level? }.sampling = env.sampling := rfl
  unfold run
  rw [accepted, accepted']
  rcases sampling : env.sampling with error | ⟨window, advance⟩
  · -- The level is looked at last, so an error of the other settings is the same in both.
    have invalid : env.settings = .error error := by
      rw [Environment.settings_eq, sampling]
      rfl
    have invalid' : { env with level? := level? }.settings = .error error := by
      rw [Environment.settings_eq, sampled, sampling]
      rfl
    rw [invalid, invalid']
    exact .refl _
  · have valid : env.settings = .ok ⟨window, advance, level⟩ :=
      Environment.settings_eq_ok_iff.mpr ⟨sampling, named⟩
    have valid' : { env with level? := level? }.settings = .ok ⟨window, advance, level'⟩ :=
      Environment.settings_eq_ok_iff.mpr ⟨sampled.trans sampling, named'⟩
    rw [valid, valid']
    exact sameDeeds_execute o ⟨window, advance, level⟩ verbose level' s

/-- Neither the option for more notes nor the level of the environment, as long as it is valid, has
an effect on how a command ends, on its calls and pauses, on what it prints or on the state it
leaves, whatever backend it runs on and wherever it fails. -/
theorem verbosity_changes_no_deed (c : Command) :
    (∀ spelling ∈ Flag.verbose.spellings, ∀ args,
      SameButVerbose (c.options args) (c.options (spelling :: args))) ∧
    ∀ (m : Machine) (args args' : List String) (env : Environment) (level? : Option String)
      (backend : Except Failure (Backend σ)) (s : Sessions σ) (level level' : LogLevel),
      SameButVerbose (c.options args) (c.options args') →
      env.level = .ok level → { env with level? := level? }.level = .ok level' →
      let out := c.run m args env backend s
      let out' := c.run m args' { env with level? := level? } backend s
      out.result = out'.result ∧ out.state = out'.state ∧ out.deeds = out'.deeds ∧
        out.acts = out'.acts ∧ Console.output out.events = Console.output out'.events := by
  refine ⟨fun spelling listed args => ?_,
    fun m args args' env level? backend s level level' same named named' => ?_⟩
  · rw [options_verbose c listed]
    exact .loud (c.options args)
  · intro out out'
    have same : out.SameDeeds out' := by
      generalize parsed : c.options args = read at same
      generalize parsed' : c.options args' = read' at same
      cases same with
      | help =>
          simp only [out, out', run, parsed, parsed']
          exact .refl _
      | refused error error' =>
          -- The complaints may differ; they are written to the standard error.
          simp only [out, out', run, parsed, parsed']
          exact ⟨rfl, rfl, rfl⟩
      | accepted o verbose => exact sameDeeds_of_accepted parsed parsed' named named' s
    refine ⟨same.result, same.state, same.deeds, ?_, ?_⟩
    · rw [out.acts_eq_filter_deeds, out'.acts_eq_filter_deeds, same.deeds]
    · rw [← Console.output_deeds out, ← Console.output_deeds out', same.deeds]

/-- An averaged reading with the option and without: it pauses and fails at the same place, though
only one of the two runs tells of it on the standard error. -/
theorem failing_average_in_detail :
    let s : Sessions Simulated := { backends := { devices := [⟨"A", 0, 0, []⟩] } }
    let quiet : Environment := { level? := some "error" }
    let out := Command.utilization.run ⟨"host", 0⟩ ["0"] quiet (.ok (Simulated.backend 0)) s
    let out' :=
      Command.utilization.run ⟨"host", 0⟩ ["--verb", "0"] {} (.ok (Simulated.backend 0)) s
    (out.result = out'.result ∧ out.state = out'.state ∧ out.deeds = out'.deeds ∧
      out.acts = out'.acts ∧ Console.output out.events = Console.output out'.events) ∧
    Console.output out.events =
      "Error: Failed to get gpu_util samples for device 0: no samples available\n" ∧
    Console.errors "" out.events = "" ∧ Console.errors "" out'.events ≠ "" := by
  intro s quiet out out'
  have same : SameButVerbose (Command.utilization.options ["0"])
      (Command.utilization.options ["--verb", "0"]) :=
    .accepted { indices := ["0"] } true
  have named : ({ level? := some "error" } : Environment).level = .ok .error := rfl
  have named' : ({} : Environment).level = .ok .warning := rfl
  refine ⟨?_, by decide +kernel, by decide +kernel, by decide +kernel⟩
  exact (verbosity_changes_no_deed .utilization).2 ⟨"host", 0⟩ ["0"] ["--verb", "0"] quiet none
    (.ok (Simulated.backend 0)) s .error .warning same named named'

end Command

end GpuTelemetry
