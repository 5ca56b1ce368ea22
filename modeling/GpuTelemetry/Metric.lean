/-!
# Metrics

The five quantities that can be read from a device. Two of them are read at one instant, the other
three come from a buffer of samples and are averaged over a window.
-/

namespace GpuTelemetry

inductive Metric where
  | power
  | frequency
  | utilization
  | memoryUtilization
  | totalPower
  deriving Repr, DecidableEq

namespace Metric

/-- Every metric, in the order in which they are listed. -/
def all : List Metric :=
  [.power, .frequency, .utilization, .memoryUtilization, .totalPower]

/-- The label of a metric in report lines and in hand-off messages. -/
def label : Metric → String
  | .power => "gpu_power"
  | .frequency => "gpu_freq"
  | .utilization => "gpu_util"
  | .memoryUtilization => "memory_util"
  | .totalPower => "total_power"

/-- The long name of a metric, which also tells how it is read. -/
def title : Metric → String
  | .power => "INSTANTANEOUS_POWER"
  | .frequency => "INSTANTANEOUS_FREQUENCY"
  | .utilization => "AVERAGED_UTILIZATION"
  | .memoryUtilization => "AVERAGED_MEMORY_UTILIZATION"
  | .totalPower => "AVERAGED_TOTAL_POWER"

def unit : Metric → String
  | .power | .totalPower => "mW"
  | .frequency => "MHz"
  | .utilization | .memoryUtilization => "%"

/-- A metric that comes from the sample buffer. -/
def averaged : Metric → Bool
  | .power | .frequency => false
  | .utilization | .memoryUtilization | .totalPower => true

def ofLabel? (label : String) : Option Metric :=
  all.find? (·.label == label)

@[simp] theorem ofLabel?_label (m : Metric) : ofLabel? m.label = some m := by
  cases m <;> decide

end Metric

end GpuTelemetry
