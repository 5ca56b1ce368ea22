import GpuTelemetry.Feed
import GpuTelemetry.Report.Line

/-!
# A survey of all devices

A first look at a machine: the power draw of every device, then, in a second session, the averaged
utilization and the clock of each.
-/

namespace GpuTelemetry.Survey

variable {σ : Type}

/-- The window over which utilization is averaged. -/
def window : Window := ⟨5, 1, by decide⟩

/-- The line for a device, unless one of its readings is too long to be written. -/
def write (name : String) (utilization clock : Int) : Except Fault String :=
  Numeral.writing [utilization, clock] s!"{name}: {utilization}% at {clock} MHz"

/-- Prints the utilization and the clock of a device. -/
def printDevice (sampler : Sampler σ) (device : Device) : Run (Sessions σ) Unit := do
  let utilization ← sampler.average device .utilization window
  let clock ← sampler.frequency device
  Run.print (← Run.ofExcept (write device.name utilization clock))

/-- Surveys all devices, on one backend for the power and on another for the rest. -/
def run (create : BackendId → Except Failure (Backend σ)) : Run (Sessions σ) Unit := do
  let first ← Run.ofExcept ((create 0).mapError .failed)
  let reports ← collect first .power none none true
  let _ ← Run.each (fun report : Report => do Run.print (← Run.ofExcept report.write)) reports
  let second ← Run.ofExcept ((create 1).mapError .failed)
  Session.within second fun h => do
    let devices ← h.resolveAll
    let _ ← Run.each (printDevice ⟨h, window, true⟩) devices
    return ()

end GpuTelemetry.Survey
