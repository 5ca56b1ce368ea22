import GpuTelemetry.Metric
import GpuTelemetry.Numeral
import GpuTelemetry.Session.Phase
import GpuTelemetry.Window

/-!
# Failures

What can go wrong, by cause. A `Refusal` is a backend's own answer that it cannot serve a request.
A `Failure` is what callers are told when an operation of the library fails: which operation, and in
what detail. A `Fault` is anything that ends a run, a failure or one of the rarer causes. The
wording of each stands in one function.

Texts may hold integers of any size, but a run comes to a fault of its own when it has to write one
that is too long: what it makes of a text is made by `Numeral.writing`.
-/

namespace GpuTelemetry

/-- Why a backend could not serve a request. -/
inductive Refusal where
  /-- The vendor library declined, in its own words. -/
  | declined (text : String)
  | notANumber
  /-- A sample has no integer part because it is infinite. -/
  | infinite
  | noSuchSlot
  /-- A handle that is too large to be a place in any list. -/
  | slotTooLarge
  /-- A handle of a type that the backend does not use. -/
  | notASlot (typeName : String)
  deriving Repr, DecidableEq

def Refusal.message : Refusal → String
  | .declined text => text
  | .notANumber => "cannot convert float NaN to integer"
  | .infinite => "cannot convert float infinity to integer"
  | .noSuchSlot => "list index out of range"
  | .slotTooLarge => "cannot fit 'int' into an index-sized integer"
  | .notASlot typeName => "list indices must be integers or slices, not " ++ typeName

/-- The kinds of failure that callers tell apart. -/
inductive FailureKind where
  | general
  | unavailable
  | queryFailed
  | deviceNotFound
  | nameTooLong
  | sampleFailed
  deriving Repr, DecidableEq

/-- A failure as callers see it: its kind, the operation that failed and the detail. -/
structure Notice where
  kind : FailureKind
  operation : String
  detail : String
  deriving Repr, DecidableEq

/-- The wording of a notice: the operation, a colon and the detail. -/
def Notice.message (n : Notice) : String :=
  n.operation ++ ": " ++ n.detail

/-- A failed operation, by cause. A `reason` is the wording of the backend's refusal. -/
inductive Failure where
  | startFailed (vendor reason : String)
  | libraryMissing
  | countFailed (reason : String)
  | outOfRange (index count : Int)
  | notAnIndex (text : String)
  | handleFailed (index : Int) (reason : String)
  | nameFailed (index : Int) (reason : String)
  | nameEmpty (index : Int)
  | nameTooLong (index : Int) (bytes : Nat)
  | powerFailed (index : Int) (reason : String)
  | clockFailed (index : Int) (reason : String)
  | samplesFailed (metric : Metric) (index : Int) (reason : String)
  | samplesEmpty (metric : Metric) (index : Int)
  deriving Repr, DecidableEq

namespace Failure

/-- The most bytes that a device name may have. -/
def nameLimit : Nat := 63

def kind : Failure → FailureKind
  | .startFailed .. | .libraryMissing => .unavailable
  | .countFailed .. | .handleFailed .. | .nameFailed .. | .nameEmpty .. => .queryFailed
  | .outOfRange .. | .notAnIndex .. => .deviceNotFound
  | .nameTooLong .. => .nameTooLong
  | .powerFailed .. | .clockFailed .. | .samplesFailed .. | .samplesEmpty .. => .sampleFailed

def operation : Failure → String
  | .startFailed vendor _ => s!"initialize {vendor} backend"
  | .libraryMissing => "initialize NVML"
  | .countFailed _ => "query device count"
  | .outOfRange index _ => s!"resolve device {index}"
  | .notAnIndex text => "resolve device " ++ Text.quote text
  | .handleFailed index _ => s!"get handle for device {index}"
  | .nameFailed index _ | .nameEmpty index | .nameTooLong index _ =>
    s!"get name of device {index}"
  | .powerFailed index _ => s!"get power usage of device {index}"
  | .clockFailed index _ => s!"get clock of device {index}"
  | .samplesFailed metric index _ | .samplesEmpty metric index =>
    s!"get {metric.label} samples for device {index}"

def detail : Failure → String
  | .startFailed _ reason | .countFailed reason | .handleFailed _ reason | .nameFailed _ reason
  | .powerFailed _ reason | .clockFailed _ reason | .samplesFailed _ _ reason => reason
  | .libraryMissing => "pynvml is not installed"
  | .outOfRange _ count => s!"index out of range, {count} device(s) present"
  | .notAnIndex _ => "index is not an integer"
  | .nameEmpty _ => "backend returned an empty name"
  | .nameTooLong _ bytes => s!"name is {bytes} bytes, limit is {nameLimit}"
  | .samplesEmpty .. => "no samples available"

/-- Whether the failure passes on a refusal of the backend. -/
def passedOn : Failure → Bool
  | .startFailed .. | .countFailed .. | .handleFailed .. | .nameFailed .. | .powerFailed ..
  | .clockFailed .. | .samplesFailed .. => true
  | _ => false

def notice (f : Failure) : Notice := ⟨f.kind, f.operation, f.detail⟩

def message (f : Failure) : String := f.notice.message

end Failure

/-- An integer that has no room where it is to be put. -/
inductive Oversize where
  /-- It does not fit its field in a request. -/
  | inRequest (value : Int)
  /-- It has more digits than a text shows of an integer. -/
  | inText (value : Int)
  deriving Repr, DecidableEq

def Oversize.message : Oversize → String
  | .inRequest value => s!"Value out of range: {value}"
  | .inText _ =>
    s!"Exceeds the limit ({Numeral.digitLimit} digits) for integer string conversion; " ++
      "use sys.set_int_max_str_digits() to increase the limit"

/-- What ends a run before its end. -/
inductive Fault where
  /-- A refusal that no operation has turned into a failure. -/
  | refused (refusal : Refusal)
  | failed (failure : Failure)
  | notOpen (phase : Session.Phase)
  | cannotStart (phase : Session.Phase)
  | alreadyOpen (vendor : String)
  | notSampled (metric : Metric)
  | noWindow
  | badWindow (error : Window.Error)
  | outOfField (oversize : Oversize)
  /-- More devices were reported than can be counted. -/
  | tooManyDevices
  /-- More devices were reported than a list of them has room for. -/
  | outOfMemory
  /-- A name that stands for nothing on the workbench. -/
  | unknownName (name : String)
  deriving Repr, DecidableEq

def Fault.message : Fault → String
  | .refused refusal => refusal.message
  | .failed failure => failure.message
  | .notOpen phase => s!"backend session is {phase.word}, not open"
  | .cannotStart phase => s!"cannot open a backend session that is {phase.word}"
  | .alreadyOpen vendor => s!"{vendor} backend already has an open session"
  | .notSampled metric => s!"{metric.label} is not a sampled metric"
  | .noWindow => "'NoneType' object has no attribute 'sample_count'"
  | .badWindow error => error.message
  | .outOfField oversize => oversize.message
  | .tooManyDevices => "Python int too large to convert to C ssize_t"
  | .outOfMemory => ""
  | .unknownName name => Text.quote name

/-- What is made of a text that holds integers, unless one of them is too long to be written. -/
def Numeral.writing {α : Type} (integers : List Int) (made : α) : Except Fault α :=
  match Numeral.overlong? integers with
  | some n => .error (.outOfField (.inText n))
  | none => .ok made

end GpuTelemetry
