import GpuTelemetry.Settings
import GpuTelemetry.Text.Case

/-!
# Settings from the environment

Each setting has a variable. A count or a delay is a numeral, the cursor setting a truth word in any
letter case with blanks around it; a variable that is unset or blank means the default. A log level
is a level name in any letter case, and no blank is allowed in it.

All texts are read before any value is checked: the count, the delay, the cursor setting, then the
range of the count, the range of the delay and the level.
-/

namespace GpuTelemetry

structure Environment where
  count? : Option String := none
  delay? : Option String := none
  advance? : Option String := none
  level? : Option String := none
  deriving Repr, DecidableEq

namespace Environment

/-- The text of a variable, if it is set. -/
def text? (env : Environment) : Settings.Variable → Option String
  | .count => env.count?
  | .delay => env.delay?
  | .advance => env.advance?
  | .level => env.level?

/-- The environment in which the variables have the texts found under their names. -/
def ofNames (find? : String → Option String) : Environment where
  count? := find? Settings.Variable.count.name
  delay? := find? Settings.Variable.delay.name
  advance? := find? Settings.Variable.advance.name
  level? := find? Settings.Variable.level.name

def yesWords : List String := ["1", "true", "yes", "on"]

def noWords : List String := ["0", "false", "no", "off"]

/-- What a truth word stands for; blanks around it and letter case do not count. -/
def truth? (text : String) : Option Bool :=
  let word := Text.lower (Text.trim text)
  if yesWords.contains word then some true
  else if noWords.contains word then some false
  else none

/-- The text of a variable, if it is set to something that is not blank. -/
def filled? (env : Environment) (key : Settings.Variable) : Option String :=
  (env.text? key).filter fun text => Text.trim text != ""

def integer (env : Environment) (key : Settings.Variable) (default : Int) :
    Except Settings.Error Int :=
  match env.filled? key with
  | none => .ok default
  | some text =>
    match Numeral.read text with
    | some n => .ok n
    | none => .error (.notAnInteger key text)

def truth (env : Environment) (key : Settings.Variable) (default : Bool) :
    Except Settings.Error Bool :=
  match env.filled? key with
  | none => .ok default
  | some text =>
    match truth? text with
    | some b => .ok b
    | none => .error (.notABoolean key text)

/-- The name of the level that is set, in upper case. -/
def levelName (env : Environment) : String :=
  Text.upper (env.level?.getD Settings.defaultLevel.name)

def settings (env : Environment) : Except Settings.Error (Settings Bool) := do
  let count ← env.integer .count Settings.defaultCount
  let delay ← env.integer .delay Settings.defaultDelay
  let advance ← env.truth .advance Settings.defaultAdvance
  Settings.ofValues (.int count) (.int delay) advance (.text env.levelName)

end Environment

end GpuTelemetry
