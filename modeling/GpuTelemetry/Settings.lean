import GpuTelemetry.Note
import GpuTelemetry.Window

/-!
# Settings

The settings of a program: the sample window, whether the cursor advances and the log level. They
are built from values of any type. The window is checked first, then the level; what is given for
the cursor is kept as it is, of whatever type it may be.
-/

namespace GpuTelemetry

/-- Checked settings. The cursor setting has the type in which it was given. -/
structure Settings (γ : Type) where
  window : Window
  advance : γ
  level : LogLevel

namespace Settings

/-- The variables of the environment that settings are read from. -/
inductive Variable where
  | count
  | delay
  | advance
  | level
  deriving Repr, DecidableEq

def Variable.name : Variable → String
  | .count => "GPUTELEM_SAMPLE_COUNT"
  | .delay => "GPUTELEM_SAMPLE_DELAY"
  | .advance => "GPUTELEM_ADVANCE_CURSOR"
  | .level => "GPUTELEM_LOG_LEVEL"

/-- Why something given for the settings is refused. -/
inductive Error where
  | window (error : Window.Error)
  /-- A list or a table, which is no key of the level names. -/
  | noKey (given : Value)
  | unknownLevel (given : Value)
  | notAnInteger (key : Variable) (text : String)
  | notABoolean (key : Variable) (text : String)

def Error.message : Error → String
  | .window error => error.message
  | .noKey given => "unhashable type: '" ++ given.typeName ++ "'"
  | .unknownLevel given => "unknown log level " ++ given.shown
  | .notAnInteger key text => key.name ++ " must be an integer, got " ++ Text.quote text
  | .notABoolean key text => key.name ++ " must be a boolean, got " ++ Text.quote text

def defaultCount : Int := 1

def defaultDelay : Int := 1

/-- The cursor advances unless it is set otherwise. -/
def defaultAdvance : Bool := true

def defaultLevel : LogLevel := .warning

def levelOf : Value → Except Error LogLevel
  | .text name =>
    match LogLevel.ofName? name with
    | some level => .ok level
    | none => .error (.unknownLevel (.text name))
  | .list items => .error (.noKey (.list items))
  | .table entries => .error (.noKey (.table entries))
  | other => .error (.unknownLevel other)

/-- The settings of given values: the window is checked before the level. -/
def ofValues {γ : Type} (count delay : Value) (advance : γ) (level : Value) :
    Except Error (Settings γ) := do
  let window ← (Window.ofValues count delay).mapError .window
  let level ← levelOf level
  return ⟨window, advance, level⟩

end Settings

end GpuTelemetry
