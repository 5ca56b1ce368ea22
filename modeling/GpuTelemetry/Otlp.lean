import GpuTelemetry.Failure
import GpuTelemetry.Report

/-!
# Metrics requests

The request that hands a batch of reports over to an OpenTelemetry collector: one resource, the
host, with one scope, in which each metric label has one gauge with a data point for every report.
Integers are kept in types that hold just what their field can carry, so a request that has been
built can always be written.

`Otlp.Request.ofReports` builds it. Labels appear in the order in which the reports first name
them, and the points of a label in the order of the reports.
-/

namespace GpuTelemetry.Otlp

/-- An integer that fits a signed field of 64 bits. -/
structure Signed where
  val : Int
  lower : -0x8000000000000000 ≤ val
  upper : val < 0x8000000000000000
  deriving DecidableEq

/-- An integer that fits an unsigned field of 64 bits. -/
structure Unsigned where
  val : Nat
  upper : val < 0x10000000000000000
  deriving DecidableEq

def Signed.ofInt (n : Int) : Except Fault Signed :=
  if lower : -0x8000000000000000 ≤ n then
    if upper : n < 0x8000000000000000 then .ok ⟨n, lower, upper⟩
    else .error (.outOfField (.inRequest n))
  else .error (.outOfField (.inRequest n))

def Unsigned.ofInt (n : Int) : Except Fault Unsigned :=
  match n with
  | .ofNat k =>
    if upper : k < 0x10000000000000000 then .ok ⟨k, upper⟩
    else .error (.outOfField (.inRequest n))
  | .negSucc _ => .error (.outOfField (.inRequest n))

inductive AttributeValue where
  | text (s : String)
  | int (n : Signed)
  deriving DecidableEq

structure Attribute where
  key : String
  value : AttributeValue
  deriving DecidableEq

/-- A value at a time, with the attributes of the device it belongs to. -/
structure DataPoint where
  time : Unsigned
  value : Signed
  attributes : List Attribute
  deriving DecidableEq

structure Gauge where
  name : String
  unit : String
  points : List DataPoint
  deriving DecidableEq

/-- The library in whose name metrics are handed over. -/
structure Scope where
  name : String
  version : String
  deriving DecidableEq

/-- The metrics of one scope of one resource. -/
structure Request where
  resource : List Attribute
  scope : Scope
  gauges : List Gauge
  deriving DecidableEq

def ownScope : Scope := ⟨"gputelem", "0.1.0"⟩

/-- The unit of the metric with a label; a label of no metric has no unit. -/
def unitOf (label : String) : String :=
  match Metric.ofLabel? label with
  | some metric => metric.unit
  | none => ""

def resourceOf (host : String) : List Attribute :=
  [⟨"host.name", .text host⟩, ⟨"telemetry.sdk.name", .text ownScope.name⟩,
    ⟨"telemetry.sdk.version", .text ownScope.version⟩]

/-- The data point of a report. Of several integers that do not fit, the first in the order index,
time, value is the one at fault. -/
def DataPoint.ofReport (time : Int) (r : Report) : Except Fault DataPoint := do
  let index ← Signed.ofInt r.index
  let time ← Unsigned.ofInt time
  let value ← Signed.ofInt r.value
  return ⟨time, value, [⟨"gpu.index", .int index⟩, ⟨"gpu.name", .text r.name⟩]⟩

/-- The gauges with one more point, behind the others of its label or in a new gauge at the end. -/
def insertPoint (label : String) (point : DataPoint) : List Gauge → List Gauge
  | [] => [⟨label, unitOf label, [point]⟩]
  | gauge :: rest =>
    if gauge.name = label then { gauge with points := gauge.points ++ [point] } :: rest
    else gauge :: insertPoint label point rest

/-- The gauges of reports, on top of some that are there already. -/
def gaugesOf (time : Int) : List Gauge → List Report → Except Fault (List Gauge)
  | gauges, [] => .ok gauges
  | gauges, r :: rest => do
    let point ← DataPoint.ofReport time r
    gaugesOf time (insertPoint r.label point gauges) rest

/-- The name of the host: the one given, unless it is empty, or else that of this machine. -/
def hostName (given? : Option String) (machine : String) : String :=
  match given? with
  | some name => if name = "" then machine else name
  | none => machine

/-- The request for reports sampled at a time on a host. -/
def Request.ofReports (host : String) (time : Int) (reports : List Report) :
    Except Fault Request := do
  let gauges ← gaugesOf time [] reports
  return ⟨resourceOf host, ownScope, gauges⟩

end GpuTelemetry.Otlp
