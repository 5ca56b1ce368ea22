import GpuTelemetry.Backend

/-!
# Devices and reports

A device that has been looked up, and the report of one metric of one device.
-/

namespace GpuTelemetry

/-- A device that has been looked up: its index, its name and the backend's handle of it. -/
structure Device where
  index : Int
  name : String
  native : Native
  deriving Repr, DecidableEq

/-- One value of one metric of one device. -/
structure Report where
  index : Int
  name : String
  label : String
  value : Int
  deriving Repr, DecidableEq

def Report.of (device : Device) (metric : Metric) (value : Int) : Report :=
  ⟨device.index, device.name, metric.label, value⟩

end GpuTelemetry
