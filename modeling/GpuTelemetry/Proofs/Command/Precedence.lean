import Mathlib.Control.Monad.Basic
import GpuTelemetry.Proofs.Command.Statuses
import GpuTelemetry.Proofs.Settings

/-!
# Precedence of the settings

A part of the sample window comes from an option, else from the environment, else from a default.
What is overruled has no influence at all: two environments that differ only in variables that a
command does not look at, or has options for, make for the same run (`Overrules`).

Main statement: `options_overrule`, which also tells which accepted options leave a window: all but
those of a command that averages in which an option for the window is left blank.
-/

namespace GpuTelemetry

variable {σ : Type}

namespace Environment

variable {env env' : Environment}

section Valid

variable {settings settings' : Settings Bool} (valid : env.settings = .ok settings)
  (valid' : env'.settings = .ok settings')
include valid valid'

theorem settings_level_congr (same : env.level? = env'.level?) :
    settings.level = settings'.level :=
  eq_of_ok (level_congr same) (settings_eq_ok_iff.mp valid).2 (settings_eq_ok_iff.mp valid').2

theorem settings_advance_congr (same : env.advance? = env'.advance?) :
    settings.advance = settings'.advance := by
  obtain ⟨_, _, cursor⟩ := sampling_eq_ok_iff.mp (settings_eq_ok_iff.mp valid).1
  obtain ⟨_, _, cursor'⟩ := sampling_eq_ok_iff.mp (settings_eq_ok_iff.mp valid').1
  exact eq_of_ok (truth_congr (filled?_congr .advance same) _) cursor cursor'

theorem settings_count_congr (same : env.count? = env'.count?) :
    settings.window.count = settings'.window.count := by
  obtain ⟨counted, _, _⟩ := sampling_eq_ok_iff.mp (settings_eq_ok_iff.mp valid).1
  obtain ⟨counted', _, _⟩ := sampling_eq_ok_iff.mp (settings_eq_ok_iff.mp valid').1
  exact Int.ofNat.inj (eq_of_ok (integer_congr (filled?_congr .count same) _) counted counted')

theorem settings_delay_congr (same : env.delay? = env'.delay?) :
    settings.window.delay = settings'.window.delay := by
  obtain ⟨_, delayed, _⟩ := sampling_eq_ok_iff.mp (settings_eq_ok_iff.mp valid).1
  obtain ⟨_, delayed', _⟩ := sampling_eq_ok_iff.mp (settings_eq_ok_iff.mp valid').1
  exact Int.ofNat.inj (eq_of_ok (integer_congr (filled?_congr .delay same) _) delayed delayed')

end Valid

end Environment

/-- A metric that is read at one instant is read without a window and without a cursor. -/
theorem Session.report_of_instant {metric : Metric} (instant : metric.averaged = false)
    (h : Session σ) (window window' : Window) (advance advance' : Bool) :
    h.report ⟨h, window, advance⟩ metric = h.report ⟨h, window', advance'⟩ metric := by
  cases metric with
  | power => rfl
  | frequency => rfl
  | _ => cases instant

namespace Command

variable {c : Command} {m : Machine} {options : Options} {settings settings' : Settings Bool}

/-- Options leave the same window on top of two, if each part comes from an option or is the same in
both. -/
theorem Options.window_congr {w w' : Window}
    (count : options.samples = .absent → w.count = w'.count)
    (delay : options.delay = .absent → w.delay = w'.delay) :
    options.window w = options.window w' := by
  obtain ⟨many, seconds, positive⟩ := w
  obtain ⟨many', seconds', positive'⟩ := w'
  unfold Options.window
  cases samples : options.samples with
  | absent =>
      -- The count comes from the settings below, which agree on it.
      cases count samples
      cases given : options.delay with
      | absent =>
          cases delay given
          rfl
      | blank => rfl
      | value d => rfl
  | blank => rfl
  | value n =>
      cases given : options.delay with
      | absent =>
          cases delay given
          rfl
      | blank => rfl
      | value d => rfl

/-- Without an averaged metric, the body of a command has no use for a window or a cursor. -/
theorem body_of_instant (instant : c.windowed = false) (window window' : Window)
    (advance advance' : Bool) (h : Session σ) :
    c.body m options window advance h = c.body m options window' advance' h := by
  cases measured : c.metric? with
  | none => simp only [body, measured]
  | some metric =>
      have notAveraged : metric.averaged = false := by
        simpa [windowed, measured] using instant
      have reported := Session.report_of_instant notAveraged h window window' advance advance'
      have printed : printReport h ⟨h, window, advance⟩ metric =
          printReport h ⟨h, window', advance'⟩ metric := by
        funext count index
        simp only [printReport, reported]
      simp only [body, measured, printReports, reported, printed]

/-- In what two environments may differ for a command with options: in variables for which an option
is given, and in all that have to do with sampling if the command does not average. -/
structure Overrules (c : Command) (options : Options) (env env' : Environment) : Prop where
  level : env.level? = env'.level?
  advance : c.windowed = true → env.advance? = env'.advance?
  count : c.windowed = true → options.samples = .absent → env.count? = env'.count?
  delay : c.windowed = true → options.delay = .absent → env.delay? = env'.delay?

/-- What is overruled has no influence on the course of a command. -/
theorem Overrules.execute {env env' : Environment} (overrules : c.Overrules options env env')
    (valid : env.settings = .ok settings) (valid' : env'.settings = .ok settings')
    (backend : Except Failure (Backend σ)) :
    c.execute m options settings backend = c.execute m options settings' backend := by
  have level : settings.level = settings'.level :=
    Environment.settings_level_congr valid valid' overrules.level
  by_cases windowed : c.windowed = true
  · -- The window is the same, whichever part of it comes from where, and so is the cursor setting.
    have advance : settings.advance = settings'.advance :=
      Environment.settings_advance_congr valid valid' (overrules.advance windowed)
    have effective : options.window settings.window = options.window settings'.window :=
      Options.window_congr
        (fun absent => Environment.settings_count_congr valid valid'
          (overrules.count windowed absent))
        (fun absent => Environment.settings_delay_congr valid valid'
          (overrules.delay windowed absent))
    simp only [Command.execute, window, if_pos windowed, level, advance, effective]
  · have instant : c.windowed = false := by simpa using windowed
    have silent : ∀ (window : Window) (advance : Bool),
        c.warn (σ := Sessions σ) window advance = pure () := by
      intro window advance
      simp [warn, instant]
    have told : c.body m options settings.window settings.advance =
        c.body (σ := σ) m options settings'.window settings'.advance :=
      funext (body_of_instant instant _ _ _ _)
    simp only [Command.execute, window, if_neg windowed, level, silent]
    show Run.emit _ >>= (fun _ => pure settings.window >>= _) =
      Run.emit _ >>= (fun _ => pure settings'.window >>= _)
    simp only [pure_bind, told]

/-- An accepted command in valid environments runs alike in all that differ in nothing but what it
overrules, and help and refusals do not depend on the environment at all. -/
theorem options_overrule (c : Command) (m : Machine) (args : List String) (env env' : Environment)
    (settings settings' : Settings Bool) (valid : env.settings = .ok settings)
    (valid' : env'.settings = .ok settings') (backend : Except Failure (Backend σ))
    (s : Sessions σ) :
    ((∀ options, c.options args = .ok options → c.Overrules options env env') →
      c.run m args env backend s = c.run m args env' backend s) ∧
    Window.ofValues (.int settings.window.count) (.int settings.window.delay) =
      .ok settings.window ∧
    ∀ options, c.options args = .ok options →
      (¬ c.LeftBlank options → ∃ window, c.window options settings = .ok window) ∧
      (c.LeftBlank options → ∃ error, c.window options settings = .error error ∧
        (c.run m args env backend s).Alike ⟨.error (.badWindow error), s, []⟩) := by
  refine ⟨fun overruled => ?_, Window.ofInts_eq_ok_iff.mpr ⟨rfl, rfl⟩,
    fun options accepted => ⟨fun filled => window_of_not_leftBlank filled settings,
      fun blank => ?_⟩⟩
  · unfold run
    rcases parsed : c.options args with stop | options
    · -- Help and refusals are printed before the environment is looked at.
      cases stop <;> rfl
    · rw [valid, valid']
      exact congrFun ((overruled options parsed).execute valid valid' backend) s
  · obtain ⟨error, without⟩ := window_of_leftBlank blank settings
    exact ⟨error, without, run_of_badWindow accepted valid without s⟩

/-- A count of nine samples in the environment is overruled by an option for two; the delay of three
seconds comes from the environment in both runs. -/
theorem samples_overrule_environment :
    let s : Sessions Simulated :=
      { backends := { devices := [⟨"A", 0, 0, [(.utilization, [40, 60])]⟩] } }
    let args := ["0", "--samples=2"]
    let env : Environment := { delay? := some "3" }
    let env' : Environment := { count? := some " 9", delay? := some "3" }
    let out := Command.utilization.run ⟨"host", 0⟩ args env (.ok (Simulated.backend 0)) s
    let out' := Command.utilization.run ⟨"host", 0⟩ args env' (.ok (Simulated.backend 0)) s
    out = out' ∧ out.events.filterMap Event.pause? = [3] ∧
      Console.output out.events = "0-A-gpu_util-50\n" := by
  intro s args env env' out out'
  have accepted : Command.utilization.options args =
      .ok { samples := .value ⟨2, by decide⟩, indices := ["0"] } := rfl
  have valid : ({ delay? := some "3" } : Environment).settings =
      .ok ⟨⟨1, 3, by decide⟩, true, .warning⟩ := rfl
  have valid' : ({ count? := some " 9", delay? := some "3" } : Environment).settings =
      .ok ⟨⟨9, 3, by decide⟩, true, .warning⟩ := rfl
  refine ⟨?_, by decide +kernel, by decide +kernel⟩
  refine (options_overrule .utilization ⟨"host", 0⟩ args env env' _ _ valid valid'
    (.ok (Simulated.backend 0)) s).1 fun options given => ?_
  cases accepted.symm.trans given
  exact ⟨rfl, fun _ => rfl, nofun, fun _ _ => rfl⟩

/-- A `--` in the place of a number of samples is accepted, in a valid environment, and leaves no
window: the command breaks out before it turns to the backend. -/
theorem blank_samples_leave_no_window :
    let s : Sessions Simulated := { backends := {} }
    let options : Options := { samples := .blank }
    let settings : Settings Bool := ⟨⟨1, 1, by decide⟩, true, .warning⟩
    let out := Command.utilization.run ⟨"host", 0⟩ ["-n--"] {} (.ok (Simulated.backend 0)) s
    Command.utilization.options ["-n--"] = .ok options ∧
      ({} : Environment).settings = .ok settings ∧
      Command.utilization.window options settings =
        .error (.notAnInteger .count (.list [])) ∧
      out.result = .error (.badWindow (.notAnInteger .count (.list []))) ∧ out.calls = [] := by
  intro s options settings out
  exact ⟨rfl, rfl, rfl, rfl, rfl⟩

end Command

end GpuTelemetry
