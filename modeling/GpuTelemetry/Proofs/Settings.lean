import GpuTelemetry.Proofs.Results
import GpuTelemetry.Settings.Environment

/-!
# What settings take from the environment

The settings of an environment have two parts: how is sampled (`Environment.sampling`), which is
checked first and depends on three variables, and the level of notes (`Environment.level`), which
depends on the fourth alone. Main statements:

* `settings_eq`: the settings are the two parts, read one after the other;
* `settings_eq_ok_iff` and `sampling_eq_ok_iff`: valid settings are what the variables are read as;
* `settings_congr`: environments with the same variables filled in have the same settings.
-/

namespace GpuTelemetry

/-- Two integers make a window if they are its numbers. -/
theorem Window.ofInts_eq_ok_iff {count delay : Int} {window : Window} :
    ofInts count delay = .ok window ↔ count = window.count ∧ delay = window.delay := by
  have positive := window.count_pos
  unfold ofInts
  constructor
  · intro made
    split at made
    · split at made
      · cases made
        constructor <;> dsimp only <;> omega
      · cases made
    · cases made
  · rintro ⟨rfl, rfl⟩
    rw [dif_pos (by omega), if_pos (by omega)]
    rfl

namespace Environment

variable {env : Environment}

/-- The window and the cursor setting: all texts first, then the ranges. -/
def sampling (env : Environment) : Except Settings.Error (Window × Bool) := do
  let count ← env.integer .count Settings.defaultCount
  let delay ← env.integer .delay Settings.defaultDelay
  let advance ← env.truth .advance Settings.defaultAdvance
  let window ← (Window.ofInts count delay).mapError .window
  return (window, advance)

/-- The level whose name is set. -/
def level (env : Environment) : Except Settings.Error LogLevel :=
  Settings.levelOf (.text env.levelName)

theorem settings_eq (env : Environment) :
    env.settings = do
      let (window, advance) ← env.sampling
      let level ← env.level
      return ⟨window, advance, level⟩ := by
  simp only [settings, sampling, level, Settings.ofValues, bind_assoc, pure_bind]
  rfl

theorem sampling_eq_ok_iff {window : Window} {advance : Bool} :
    env.sampling = .ok (window, advance) ↔
      env.integer .count Settings.defaultCount = .ok (window.count : Int) ∧
      env.integer .delay Settings.defaultDelay = .ok (window.delay : Int) ∧
      env.truth .advance Settings.defaultAdvance = .ok advance := by
  unfold sampling
  constructor
  · intro given
    obtain ⟨count, counts, given⟩ := ok_of_bind given
    obtain ⟨delay, delays, given⟩ := ok_of_bind given
    obtain ⟨cursor, cursors, given⟩ := ok_of_bind given
    obtain ⟨made, makes, given⟩ := ok_of_bind given
    cases given
    obtain ⟨rfl, rfl⟩ := Window.ofInts_eq_ok_iff.mp (ok_of_mapError makes)
    exact ⟨counts, delays, cursors⟩
  · rintro ⟨counts, delays, cursors⟩
    have makes : Window.ofInts window.count window.delay = .ok window :=
      Window.ofInts_eq_ok_iff.mpr ⟨rfl, rfl⟩
    rw [counts, delays, cursors]
    show (Window.ofInts window.count window.delay).mapError Settings.Error.window >>= _ = _
    rw [makes]
    rfl

theorem settings_eq_ok_iff {settings : Settings Bool} :
    env.settings = .ok settings ↔
      env.sampling = .ok (settings.window, settings.advance) ∧
      env.level = .ok settings.level := by
  rw [settings_eq]
  constructor
  · intro given
    obtain ⟨⟨window, advance⟩, sampled, given⟩ := ok_of_bind given
    obtain ⟨level, named, given⟩ := ok_of_bind given
    cases given
    exact ⟨sampled, named⟩
  · rintro ⟨sampled, named⟩
    rw [sampled]
    show env.level >>= _ = _
    rw [named]
    rfl

/-! ## What settings depend on -/

section Congr

variable {env' : Environment} {key : Settings.Variable}

theorem filled?_congr (key : Settings.Variable) (same : env.text? key = env'.text? key) :
    env.filled? key = env'.filled? key := by
  simp only [filled?, same]

theorem integer_congr (same : env.filled? key = env'.filled? key) (default : Int) :
    env.integer key default = env'.integer key default := by
  simp only [integer, same]

theorem truth_congr (same : env.filled? key = env'.filled? key) (default : Bool) :
    env.truth key default = env'.truth key default := by
  simp only [truth, same]

theorem level_congr (same : env.level? = env'.level?) : env.level = env'.level := by
  simp only [level, levelName, same]

/-- Settings depend on what is filled in for the window and for the cursor, and on the level. -/
theorem settings_congr (same : ∀ key, key ≠ .level → env.filled? key = env'.filled? key)
    (level : env.level? = env'.level?) : env.settings = env'.settings := by
  have sampled : env.sampling = env'.sampling := by
    unfold sampling
    rw [integer_congr (same .count (by decide)), integer_congr (same .delay (by decide)),
      truth_congr (same .advance (by decide))]
  rw [settings_eq, settings_eq, sampled, level_congr level]

end Congr

end Environment

end GpuTelemetry
