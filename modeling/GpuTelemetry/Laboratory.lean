import GpuTelemetry.Nvml.Backend
import GpuTelemetry.Simulated
import GpuTelemetry.Workbench

/-!
# The laboratory

A workbench whose backends are simulated devices and an NVML driver, and on which the simulation and
the driver can be changed between two steps. The simulated backends are there from the start and
have the first numbers; each backend created on the driver has a number of its own, and all of them
share the one driver.
-/

namespace GpuTelemetry

/-- The state behind all backends of a laboratory. -/
structure Equipment where
  simulated : List Simulated := []
  driver : Nvml.Driver := {}

namespace Equipment

def simulation (id : BackendId) (e : Equipment) : Simulated := (e.simulated[id]?).getD {}

/-- The equipment with other simulated devices in the place of a number. -/
def setSimulation (id : BackendId) (s : Simulated) (e : Equipment) : Equipment :=
  { e with simulated := e.simulated.set id s }

def simulatedBackend (id : BackendId) : Backend Equipment :=
  (Simulated.backend id).zoom (simulation id) (setSimulation id)

/-- A backend seen as one of the equipment's driver. -/
def driverBackend (b : Backend Nvml.Driver) : Backend Equipment :=
  b.zoom (·.driver) fun driver e => { e with driver }

end Equipment

/-- A workbench with equipment, and the number of the next backend. -/
structure Laboratory where
  bench : Workbench Equipment
  nextId : BackendId

namespace Laboratory

inductive Step where
  | onBench (step : Workbench.Step)
  | create (name : String)
  | inject (backend : String) (operation : Simulated.Operation) (failure : Simulated.Injected)
  | mend (backend : String)
  | replaceDevices (backend : String) (devices : List Simulated.Device)
  | queries (backend : String)
  /-- Puts another driver in the place of the old one. Scripts go on where they were. -/
  | replaceDriver (driver : Nvml.Driver)

/-- A laboratory with named simulated devices and a driver. -/
def setUp (simulated : List (String × Simulated)) (driver : Nvml.Driver) : Laboratory where
  bench :=
    { sessions := { backends := ⟨simulated.map (·.2), driver⟩ }
      backends := simulated.zipIdx.map fun ((name, _), id) =>
        (name, Equipment.simulatedBackend id) }
  nextId := simulated.length

def onBench {α : Type} (run : Run (Workbench Equipment) α) : Run Laboratory α :=
  Run.zoom (·.bench) (fun bench lab => { lab with bench }) run

def adjust (change : Equipment → Equipment) : Run Laboratory Unit :=
  onBench <| Run.modify fun bench =>
    { bench with sessions := { bench.sessions with backends := change bench.sessions.backends } }

/-- The number of the simulated backend with a name. -/
def simulatedId (name : String) : Run Laboratory BackendId := do
  let b ← onBench (Workbench.named (·.backends) name)
  if b.id < (← Run.get).bench.sessions.backends.simulated.length then return b.id
  else Run.fault (.unknownName name)

def adjustSimulated (name : String) (change : Simulated → Simulated) : Run Laboratory Unit := do
  let id ← simulatedId name
  adjust fun e => e.setSimulation id (change (e.simulation id))

def take : Step → Run Laboratory Workbench.Answer
  | .onBench step => onBench (Workbench.take step)
  | .create name => do
    let lab ← Run.get
    let b ← Run.ofExcept
      ((Nvml.create lab.bench.sessions.backends.driver lab.nextId).mapError .failed)
    Run.modify fun lab =>
      { lab with
        bench :=
          { lab.bench with
            backends := Register.assign name (Equipment.driverBackend b) lab.bench.backends }
        nextId := lab.nextId + 1 }
    return .nothing
  | .inject name operation failure => do
    adjustSimulated name (·.inject operation failure)
    return .nothing
  | .mend name => do
    adjustSimulated name (·.mend)
    return .nothing
  | .replaceDevices name devices => do
    adjustSimulated name fun s => { s with devices }
    return .nothing
  | .queries name => do
    let id ← simulatedId name
    return .queries ((← Run.get).bench.sessions.backends.simulation id).queries
  | .replaceDriver driver => do
    adjust fun e => { e with driver := { driver with given := e.driver.given } }
    return .nothing

end Laboratory

end GpuTelemetry
