import GpuTelemetry.Feed
import GpuTelemetry.Register

/-!
# The workbench

Sessions, samplers, devices and feeds made step by step and kept under names. A step uses what
earlier steps have made, in any order and as long after as it likes: a sampler or a feed refers to
its session and finds it in whatever phase it is by then. A step that ends in a fault leaves the
bench usable.
-/

namespace GpuTelemetry

/-- Backends and what has been made on them, by name. -/
structure Workbench (σ : Type) where
  sessions : Sessions σ
  backends : List (String × Backend σ) := []
  handles : List (String × Session σ) := []
  samplers : List (String × Sampler σ) := []
  devices : List (String × Device) := []
  feeds : List (String × Feed σ) := []

namespace Workbench

inductive Step where
  /-- Asks a backend directly, without a session. -/
  | ask (backend : String) (request : Request)
  | vendor (backend : String)
  | make (name backend : String)
  | start (session : String)
  | finish (session : String)
  | enter (session : String)
  | leave (session : String)
  | isOpen (session : String)
  | vendorWhileOpen (session : String)
  | count (session : String)
  | resolve (session : String) (index : Int) (count? : Option Int) (name? : Option String)
  | resolveAll (session : String)
  | device (name : String) (device : Device)
  | sampler (name session : String) (window? : Option Window) (advance : Bool)
  | sample (sampler device : String) (metric : Metric) (window? : Option Window)
  | average (sampler device : String) (metric : Metric) (window? : Option Window)
  | power (sampler device : String)
  | frequency (sampler device : String)
  | feed (name session sampler : String) (metric : Metric) (indices? : Option (List Int))
      (count? : Option Int)
  | next (feed : String)
  | collect (backend : String) (metric : Metric) (index? : Option Int) (window? : Option Window)
      (advance : Bool)

inductive Answer where
  | nothing
  | truth (b : Bool)
  | number (n : Int)
  | text (s : String)
  | native (native : Native)
  | samples (samples : List Sample)
  | device (device : Device)
  | devices (devices : List Device)
  | report (report : Report)
  | reports (reports : List Report)
  | ended
  | queries (queries : List (Native × Metric × Int))
  deriving Repr, DecidableEq

def Answer.ofRequest : (request : Request) → request.Answer → Answer
  | .start, _ | .shutdown, _ => .nothing
  | .deviceCount, n | .powerOf _, n | .clockOf _, n => .number n
  | .handleAt _, handle => .native handle
  | .nameOf _, name => .text name
  | .samplesOf .., rows => .samples rows

variable {σ α : Type}

def onSessions (run : Run (Sessions σ) α) : Run (Workbench σ) α :=
  Run.zoom (·.sessions) (fun sessions bench => { bench with sessions }) run

/-- What a register of the workbench holds under a name. -/
def named (register : Workbench σ → List (String × α)) (name : String) : Run (Workbench σ) α := do
  match (register (← Run.get)).lookup name with
  | some a => return a
  | none => Run.fault (.unknownName name)

/-- The next report of a named feed. A feed that ends, or ends in a fault, stays at its end. -/
def nextOf (name : String) : Run (Workbench σ) Answer := do
  let feed ← named (·.feeds) name
  let setStage (stage : Feed.Stage) : Run (Workbench σ) Unit := Run.modify fun bench =>
    { bench with feeds := Register.assign name { feed with stage } bench.feeds }
  match ← Run.attempt (onSessions feed.next) with
  | .ok (some (report, stage)) => do
    setStage stage
    return .report report
  | .ok none => do
    setStage .ended
    return .ended
  | .error fault => do
    setStage .ended
    Run.fault fault

/-- Keeps a device under a name, if one is given. -/
def keepDevice (name? : Option String) (device : Device) : Run (Workbench σ) Unit :=
  match name? with
  | some name => Run.modify fun bench =>
    { bench with devices := Register.assign name device bench.devices }
  | none => return ()

def take : Step → Run (Workbench σ) Answer
  | .ask backend request => do
    let b ← named (·.backends) backend
    let answer ← onSessions (b.ask none request)
    return Answer.ofRequest request answer
  | .vendor backend => do
    let b ← named (·.backends) backend
    return .text b.vendor
  | .make name backend => do
    let b ← named (·.backends) backend
    let h ← onSessions (Session.make b)
    Run.modify fun bench => { bench with handles := Register.assign name h bench.handles }
    return .nothing
  | .start session => do
    let h ← named (·.handles) session
    onSessions h.start
    return .truth true
  | .finish session => do
    let h ← named (·.handles) session
    onSessions h.finish
    return .nothing
  | .enter session => do
    let h ← named (·.handles) session
    onSessions h.enter
    return .truth true
  | .leave session => do
    let h ← named (·.handles) session
    onSessions h.finish
    return .nothing
  | .isOpen session => do
    let h ← named (·.handles) session
    let phase ← onSessions h.phase
    return .truth (phase == .opened)
  | .vendorWhileOpen session => do
    let h ← named (·.handles) session
    let vendor ← onSessions h.vendor
    return .text vendor
  | .count session => do
    let h ← named (·.handles) session
    let count ← onSessions h.countDevices
    return .number count
  | .resolve session index count? name? => do
    let h ← named (·.handles) session
    let device ← onSessions (h.resolve index count?)
    keepDevice name? device
    return .device device
  | .resolveAll session => do
    let h ← named (·.handles) session
    let devices ← onSessions h.resolveAll
    return .devices devices
  | .device name device => do
    keepDevice (some name) device
    return .nothing
  | .sampler name session window? advance => do
    let h ← named (·.handles) session
    let sampler : Sampler σ := ⟨h, window?.getD .single, advance⟩
    Run.modify fun bench => { bench with samplers := Register.assign name sampler bench.samplers }
    return .nothing
  | .sample sampler device metric window? => do
    let s ← named (·.samplers) sampler
    let d ← named (·.devices) device
    let value ← onSessions (s.sample d metric window?)
    return .number value
  | .average sampler device metric window? => do
    let s ← named (·.samplers) sampler
    let d ← named (·.devices) device
    let value ← onSessions (s.averageOver d metric window?)
    return .number value
  | .power sampler device => do
    let s ← named (·.samplers) sampler
    let d ← named (·.devices) device
    let value ← onSessions (s.power d)
    return .number value
  | .frequency sampler device => do
    let s ← named (·.samplers) sampler
    let d ← named (·.devices) device
    let value ← onSessions (s.frequency d)
    return .number value
  | .feed name session sampler metric indices? count? => do
    let h ← named (·.handles) session
    let s ← named (·.samplers) sampler
    let feed : Feed σ := ⟨h, s, metric, .unstarted indices? count?⟩
    Run.modify fun bench => { bench with feeds := Register.assign name feed bench.feeds }
    return .nothing
  | .next feed => nextOf feed
  | .collect backend metric index? window? advance => do
    let b ← named (·.backends) backend
    let reports ← onSessions (GpuTelemetry.collect b metric index? window? advance)
    return .reports reports

end Workbench

end GpuTelemetry
