import GpuTelemetry.Command.Options
import GpuTelemetry.Feed
import GpuTelemetry.Otlp.Document
import GpuTelemetry.Report.Line
import GpuTelemetry.Settings.Environment

/-!
# Executing a command

A command reads its arguments, then the environment, and only then turns to the backend: it opens a
session, counts the devices, visits the chosen ones and closes the session again, whatever happens
in between. Reports are printed as lines while they come in, or as one document at the end.

The exit status is 0 for success, 2 for refused arguments or settings, 1 if no session can be opened
and 255 if a later operation fails.
-/

namespace GpuTelemetry.Command

inductive ExitStatus where
  | success
  | unavailable
  | usage
  | failed
  deriving Repr, DecidableEq

def ExitStatus.code : ExitStatus → Nat
  | .success => 0
  | .unavailable => 1
  | .usage => 2
  | .failed => 255

/-- The machine that a command runs on, as far as it shows in the output. -/
structure Machine where
  host : String
  /-- Nanoseconds since 1970. -/
  time : Int
  deriving Repr, DecidableEq

variable {σ : Type}

def failureLine (f : Failure) : String := "Error: Failed to " ++ f.message

def refuse (c : Command) (error : UsageError) : Run σ ExitStatus := do
  Run.emit (.complain (c.usage ++ c.name ++ ": error: " ++ error.message ++ "\n"))
  return .usage

/-- A number of devices from which on they cannot be counted. -/
def countLimit : Int := 0x8000000000000000

/-- A number of devices from which on a list of their indices is taken to have no room. How long a
list can be depends on the memory of the machine; this bound is chosen, so that all numbers of 32
bits are below it. -/
def listLimit : Int := 0x100000000

/-- The indices that are visited: the one given, or every one below the number of devices. -/
def chosen (count : Int) : List String → Run σ Indices
  | [] =>
    if countLimit ≤ count then Run.fault .tooManyDevices
    else if listLimit ≤ count then Run.fault .outOfMemory
    else return .below count
  | text :: _ =>
    match Numeral.read text with
    | some index => return .listed [index]
    | none => Run.fail (.notAnIndex text)

def printDevice (h : Session σ) (count index : Int) : Run (Sessions σ) Unit := do
  let device ← h.resolveBelow count index
  Run.print (← Run.ofExcept device.write)

def printReport (h : Session σ) (sampler : Sampler σ) (metric : Metric) (count index : Int) :
    Run (Sessions σ) Unit := do
  let report ← h.report sampler metric count index
  Run.print (← Run.ofExcept report.write)

/-- Prints reports, each as soon as it is there or all in one document. -/
def printReports (m : Machine) (format : Format) (h : Session σ) (sampler : Sampler σ)
    (metric : Metric) (count : Int) (indices : Indices) : Run (Sessions σ) Unit :=
  match format with
  | .line => do
    let _ ← indices.visit (printReport h sampler metric count)
    return ()
  | .document => do
    let reports ← indices.visit (h.report sampler metric count)
    let request ← Run.ofExcept (Otlp.Request.ofReports (Otlp.hostName none m.host) m.time reports)
    Run.print (Otlp.Document.ofRequest request).pretty

def body (c : Command) (m : Machine) (options : Options) (window : Window) (advance : Bool)
    (h : Session σ) : Run (Sessions σ) ExitStatus := do
  let count ← h.countDevices
  if 1 < options.indices.length then
    Run.print "Error: only zero or one argument supported"
    return .success
  else
    let indices ← chosen count options.indices
    match c.metric? with
    | none =>
      let _ ← indices.visit (printDevice h count)
      return .success
    | some metric =>
      printReports m options.format h ⟨h, window, advance⟩ metric count indices
      return .success

/-- A run in which a failure is printed and becomes an exit status. -/
def reporting (run : Run σ ExitStatus) : Run σ ExitStatus := do
  match ← Run.attempt run with
  | .ok status => return status
  | .error (.failed failure) =>
    Run.note .aborting
    Run.print (failureLine failure)
    return .failed
  | .error other => Run.fault other

/-- Opens the session of a command; a failure to do so is printed and ends the command. -/
def inSession (backend : Except Failure (Backend σ))
    (body : Session σ → Run (Sessions σ) ExitStatus) : Run (Sessions σ) ExitStatus := do
  match backend with
  | .error failure =>
    Run.print (failureLine failure)
    return .unavailable
  | .ok b =>
    let h ← Session.make b
    match ← Run.attempt h.start with
    | .ok () => Run.ensuring (reporting (body h)) h.finish
    | .error (.failed failure) =>
      Run.print (failureLine failure)
      return .unavailable
    | .error other => Run.fault other

/-- The window that a command samples over. Its options matter only if the command averages. -/
def window (c : Command) (options : Options) (settings : Settings Bool) :
    Except Window.Error Window :=
  if c.windowed then options.window settings.window else .ok settings.window

/-- Leaves a note if several samples are to be averaged without a delay and with an advancing
cursor. -/
def warn (c : Command) (window : Window) (advance : Bool) : Run σ Unit :=
  if c.windowed ∧ 1 < window.count ∧ window.delay = 0 ∧ advance then
    Run.note (.noDelay window.count)
  else return ()

def execute (c : Command) (m : Machine) (options : Options) (settings : Settings Bool)
    (backend : Except Failure (Backend σ)) : Run (Sessions σ) ExitStatus := do
  Run.emit (.showNotes (if options.verbose then .debug else settings.level))
  let window ← Run.ofExcept ((c.window options settings).mapError .badWindow)
  c.warn window settings.advance
  inSession backend (c.body m options window settings.advance)

/-- Runs a command with arguments, in an environment, on a backend that may not be available. -/
def run (c : Command) (m : Machine) (args : List String) (env : Environment)
    (backend : Except Failure (Backend σ)) : Run (Sessions σ) ExitStatus :=
  match c.options args with
  | .error .help => do
    Run.print c.help
    return .success
  | .error (.refused error) => c.refuse error
  | .ok options =>
    match env.settings with
    | .error error => c.refuse (.settings error)
    | .ok settings => c.execute m options settings backend

end GpuTelemetry.Command
