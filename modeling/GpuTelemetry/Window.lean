import GpuTelemetry.Value

/-!
# Sample windows

How many samples an averaged reading takes and how long it waits between two of them. A window
holds at least one sample and its delay is not negative, so a built window needs no further check.
Building one from setting values checks the types of both values first and their ranges second.
-/

namespace GpuTelemetry

/-- The number of samples of an averaged reading and the seconds between two of them. -/
structure Window where
  count : Nat
  delay : Nat
  count_pos : 0 < count
  deriving DecidableEq

namespace Window

inductive Part where
  | count
  | delay
  deriving Repr, DecidableEq

def Part.name : Part → String
  | .count => "sample_count"
  | .delay => "inter_sample_delay_seconds"

/-- Why two values make no window. -/
inductive Error where
  | notAnInteger (part : Part) (given : Value)
  | notPositive (count : Int)
  | negative (delay : Int)
  deriving Repr, DecidableEq

/-- What is wrong with the values. Numbers that have been read from a text are never too long to be
written here. -/
def Error.message : Error → String
  | .notAnInteger part given => part.name ++ " must be an int, got " ++ given.shown
  | .notPositive count => Part.count.name ++ " must be positive, got " ++ Numeral.text count
  | .negative delay => Part.delay.name ++ " must be non-negative, got " ++ Numeral.text delay

/-- The window of one sample, which needs no delay. -/
def single : Window := ⟨1, 0, by decide⟩

def defaultCount : Int := 1

def defaultDelay : Int := 0

/-- The window of a count and a delay; the count is checked first. -/
def ofInts (count delay : Int) : Except Error Window :=
  if h : 0 < count.toNat then
    if 0 ≤ delay then .ok ⟨count.toNat, delay.toNat, h⟩ else .error (.negative delay)
  else .error (.notPositive count)

/-- The integer given for a part. Truth values are no integers here. -/
def integer (part : Part) : Value → Except Error Int
  | .int n => .ok n
  | other => .error (.notAnInteger part other)

/-- The window of two setting values: types first, then ranges. -/
def ofValues (count delay : Value) : Except Error Window := do
  let count ← integer .count count
  let delay ← integer .delay delay
  ofInts count delay

end Window

end GpuTelemetry
