import GpuTelemetry.Nvml
import GpuTelemetry.Text.Quoted

/-!
# The backend on the NVML driver

Requests served by the driver. An error code becomes a refusal in the wording of the driver, a name
given as bytes has to be well-formed UTF-8, and a sample value is read from the alternative that its
type selects. A sample given in floating point is rounded toward zero.
-/

namespace GpuTelemetry.Nvml

def declined (code : ErrorCode) : Refusal := .declined (errorText code)

def RawName.decode : RawName → Except Refusal String
  | .text s => .ok s
  | .bytes bs =>
    match String.fromUTF8? ⟨bs.toArray⟩ with
    | some s => .ok s
    | none => .error (.declined ("device name is not valid UTF-8: " ++ Text.quoteBytes bs))

/-- The integer part of a floating-point sample. -/
def whole (x : Binary64) : Except Refusal Int :=
  match x with
  | .nan => .error .notANumber
  | .infinite _ => .error .infinite
  | .finite negative significand exponent =>
    .ok (Binary64.integerPart negative significand exponent)

/-- The alternative of a sample value that its type selects. -/
def Union.select (u : Union) (valueType : Int) : Except Refusal Int :=
  match valueType with
  | 0 => whole u.double
  | 1 => .ok u.unsignedInt
  | 2 => .ok u.unsignedLong
  | 3 => .ok u.unsignedLongLong
  | 4 => .ok u.signedLongLong
  | other => .error (.declined s!"unsupported sample value type {other}")

/-- The samples of a batch; the first value that cannot be read refuses them all. -/
def Batch.samples (b : Batch) : Except Refusal (List Sample) :=
  b.rows.mapM fun row => do return ⟨row.timestamp, ← row.value.select b.valueType⟩

def answer (request : Request) (d : Driver) : Reply Driver request.Answer :=
  match request with
  | .start => ⟨(Driver.status d.startError?).mapError declined, d, []⟩
  | .shutdown => ⟨(Driver.status d.shutdownError?).mapError declined, d, []⟩
  | .deviceCount => ⟨d.count.mapError declined, d, []⟩
  | .handleAt index => ⟨(d.handleAt index).mapError declined, d, []⟩
  | .nameOf native => ⟨((d.property native (·.name)).mapError declined).bind RawName.decode, d, []⟩
  | .powerOf native => ⟨(d.property native (·.power)).mapError declined, d, []⟩
  | .clockOf native => ⟨(d.property native (·.clock)).mapError declined, d, []⟩
  | .samplesOf native metric since =>
    match samplingType? metric with
    | none => .decline d s!"{metric.label} is not a sampled metric"
    | some samplingType =>
      match d.samples native samplingType since with
      | (.error code, d) => .refuse d (declined code)
      | (.ok batch, d) => ⟨batch.samples, d, [.fetched batch.rows.length metric since]⟩

def backend (id : BackendId) : Backend Driver := ⟨id, "NVIDIA", answer⟩

/-- The backend on the driver, which can only be had if the binding to the library is there. -/
def create (d : Driver) (id : BackendId) : Except Failure (Backend Driver) :=
  if d.installed then .ok (backend id) else .error .libraryMissing

end GpuTelemetry.Nvml
