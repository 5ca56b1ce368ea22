import GpuTelemetry.Metric
import GpuTelemetry.Session.Phase

/-!
# Notes

A note is what the library writes to its log while it works. Each has a level, the part of the
library that writes it and a text. Which notes are shown is up to the level in force: a note is
shown when its severity reaches that of the level, so the level `unset` lets everything through.
-/

namespace GpuTelemetry

/-- The names of log levels. Some levels have two names. -/
inductive LogLevel where
  | critical
  | fatal
  | error
  | warn
  | warning
  | info
  | debug
  | unset
  deriving Repr, DecidableEq

namespace LogLevel

def all : List LogLevel := [.critical, .fatal, .error, .warn, .warning, .info, .debug, .unset]

def name : LogLevel → String
  | .critical => "CRITICAL"
  | .fatal => "FATAL"
  | .error => "ERROR"
  | .warn => "WARN"
  | .warning => "WARNING"
  | .info => "INFO"
  | .debug => "DEBUG"
  | .unset => "NOTSET"

def severity : LogLevel → Nat
  | .critical | .fatal => 50
  | .error => 40
  | .warn | .warning => 30
  | .info => 20
  | .debug => 10
  | .unset => 0

/-- The level that a text names, letter case included. -/
def ofName? (name : String) : Option LogLevel :=
  all.find? (·.name == name)

@[simp] theorem ofName?_name (l : LogLevel) : ofName? l.name = some l := by
  cases l <;> decide

end LogLevel

/-- What the library notes while it works. -/
inductive Note where
  | opened (vendor : String)
  | closed (vendor : String)
  | closeIgnored (phase : Session.Phase)
  /-- The backend declined to shut down; the session is closed all the same. -/
  | shutdownFailed (vendor reason : String)
  | present (count : Int)
  | sampled (index : Int) (metric : Metric) (position total : Nat) (value : Int)
  /-- The vendor library returned rows of its sample buffer. -/
  | fetched (rows : Nat) (metric : Metric) (since : Int)
  /-- Several samples are to be averaged without a delay. -/
  | noDelay (count : Nat)
  /-- A command gives up after a failure. -/
  | aborting
  deriving Repr, DecidableEq

namespace Note

def level : Note → LogLevel
  | .shutdownFailed .. | .noDelay _ => .warning
  | _ => .debug

/-- The part of the library that writes a note. -/
def source : Note → String
  | .opened _ | .closed _ | .closeIgnored _ | .shutdownFailed .. => "gputelem.session"
  | .present _ => "gputelem.resolver"
  | .sampled .. => "gputelem.sampler"
  | .fetched .. => "gputelem.nvml"
  | .noDelay _ | .aborting => "gputelem.cli"

def text : Note → String
  | .opened vendor => s!"{vendor} backend session opened"
  | .closed vendor => s!"{vendor} backend session closed"
  | .closeIgnored phase => s!"close() on {phase.word} session ignored"
  | .shutdownFailed vendor reason => s!"Failed to shut down {vendor} backend: {reason}"
  | .present count => s!"{count} device(s) present"
  | .sampled index metric position total value =>
    s!"device {index} {metric.label} sample {position}/{total}: {value}"
  | .fetched rows metric since => s!"{rows} {metric.label} samples since {since}"
  | .noDelay count => s!"averaging {count} samples with no delay; NVML may report no new samples"
  | .aborting => "aborting after failed query"

/-- A note that is shown when a given level is in force. -/
def shownAt (level : LogLevel) (note : Note) : Bool :=
  level.severity ≤ note.level.severity

end Note

end GpuTelemetry
