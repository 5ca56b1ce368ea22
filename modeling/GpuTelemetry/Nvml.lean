import GpuTelemetry.Backend
import GpuTelemetry.Binary64
import GpuTelemetry.Register

/-!
# The NVML driver

What the management library of the driver answers, call by call. A driver either is not there at
all or answers each call with a value or an error code. The buffer of samples of a metric is either
kept by the driver, which then returns the rows newer than a time, or a script of answers given one
after the other.
-/

namespace GpuTelemetry.Nvml

abbrev ErrorCode := Int

def errorText (code : ErrorCode) : String :=
  match code with
  | 1 => "Uninitialized"
  | 2 => "Invalid Argument"
  | 3 => "Not Supported"
  | 4 => "Insufficient Permissions"
  | 5 => "Already Initialized"
  | 6 => "Not Found"
  | 7 => "Insufficient Size"
  | 8 => "Insufficient External Power"
  | 9 => "Driver Not Loaded"
  | 10 => "Timeout"
  | 11 => "Interrupt Request Issue"
  | 12 => "NVML Shared Library Not Found"
  | 13 => "Function Not Found"
  | 14 => "Corrupted infoROM"
  | 15 => "GPU is lost"
  | 16 => "GPU requires restart"
  | 17 => "The operating system has blocked the request."
  | 18 => "RM has detected an NVML/RM version mismatch."
  | 20 => "Insufficient Memory"
  | 999 => "Unknown Error"
  | other => s!"NVML Error with code {other}"

def invalidArgument : ErrorCode := 2

def notSupported : ErrorCode := 3

def notFound : ErrorCode := 6

/-- The alternatives of a sample value, of which its type selects one. -/
structure Union where
  double : Binary64
  unsignedInt : Int
  unsignedLong : Int
  unsignedLongLong : Int
  signedLongLong : Int
  deriving Repr, DecidableEq

structure Row where
  timestamp : Int
  value : Union
  deriving Repr, DecidableEq

structure Batch where
  valueType : Int
  rows : List Row
  deriving Repr, DecidableEq

/-- Where the samples of one metric of one device come from. -/
inductive Source where
  /-- The answers to successive calls; behind the last there is nothing more. -/
  | script (answers : List (Except ErrorCode Batch))
  /-- A buffer from which the rows newer than a time are returned. -/
  | buffer (batch : Batch)

/-- A device name as the driver returns it. -/
inductive RawName where
  | text (s : String)
  | bytes (bs : List UInt8)
  deriving Repr, DecidableEq

structure Device where
  /-- The error with which its handle is refused, if it is. -/
  handleError? : Option ErrorCode := none
  name : Except ErrorCode RawName := .ok (.text "GPU")
  power : Except ErrorCode Int := .error notSupported
  clock : Except ErrorCode Int := .error notSupported
  sources : List (Int × Source) := []

structure Driver where
  /-- Whether the binding to the library is there. -/
  installed : Bool := true
  startError? : Option ErrorCode := none
  shutdownError? : Option ErrorCode := none
  /-- What is reported as the number of devices, if not the number of devices. -/
  count? : Option (Except ErrorCode Int) := none
  devices : List Device := []
  /-- How many answers each script has given, by the place of its device and its sampling type. -/
  given : List ((Nat × Int) × Nat) := []

inductive Call where
  | init
  | shutdown
  | getCount
  | getHandleByIndex (index : Int)
  | getName (device : Native)
  | getPowerUsage (device : Native)
  | getClockInfo (device : Native) (clock : Int)
  | getSamples (device : Native) (samplingType since : Int)
  deriving Repr, DecidableEq

/-- The number of the clock of the streaming multiprocessors. -/
def multiprocessorClock : Int := 1

/-- The sampling type of a metric that has a sample buffer. -/
def samplingType? : Metric → Option Int
  | .totalPower => some 0
  | .utilization => some 1
  | .memoryUtilization => some 2
  | .power | .frequency => none

/-- The call that serves a request. Samples of a metric without buffer are not asked for. -/
def callFor? : Request → Option Call
  | .start => some .init
  | .shutdown => some .shutdown
  | .deviceCount => some .getCount
  | .handleAt index => some (.getHandleByIndex index)
  | .nameOf device => some (.getName device)
  | .powerOf device => some (.getPowerUsage device)
  | .clockOf device => some (.getClockInfo device multiprocessorClock)
  | .samplesOf device metric since =>
    (samplingType? metric).map fun samplingType => .getSamples device samplingType since

namespace Driver

def handleOf (place : Nat) : Native := .token s!"h{place}"

/-- The place and the device that a handle stands for. -/
def find? (d : Driver) (native : Native) : Option (Nat × Device) :=
  (d.devices.zipIdx.find? fun (_, place) => handleOf place = native).map fun (device, place) =>
    (place, device)

def status : Option ErrorCode → Except ErrorCode Unit
  | none => .ok ()
  | some code => .error code

def count (d : Driver) : Except ErrorCode Int :=
  d.count?.getD (.ok d.devices.length)

def handleAt (d : Driver) (index : Int) : Except ErrorCode Native :=
  match index with
  | .negSucc _ => .error invalidArgument
  | .ofNat place =>
    match d.devices[place]? with
    | none => .error invalidArgument
    | some device =>
      match device.handleError? with
      | some code => .error code
      | none => .ok (handleOf place)

def property {α : Type} (d : Driver) (native : Native) (read : Device → Except ErrorCode α) :
    Except ErrorCode α :=
  match d.find? native with
  | none => .error invalidArgument
  | some (_, device) => read device

/-- The rows of a batch newer than a time, if there are any. -/
def newer (batch : Batch) (since : Int) : Except ErrorCode Batch :=
  match batch.rows.filter (since < ·.timestamp) with
  | [] => .error notFound
  | row :: rest => .ok ⟨batch.valueType, row :: rest⟩

/-- The samples of a device since a time, and the driver after it has given them. -/
def samples (d : Driver) (native : Native) (samplingType since : Int) :
    Except ErrorCode Batch × Driver :=
  match d.find? native with
  | none => (.error invalidArgument, d)
  | some (place, device) =>
    match device.sources.lookup samplingType with
    | none => (.error notSupported, d)
    | some (.buffer batch) => (newer batch since, d)
    | some (.script answers) =>
      let key := (place, samplingType)
      let position := (d.given.lookup key).getD 0
      ((answers[position]?).getD (.error notFound),
        { d with given := Register.assign key (position + 1) d.given })

end Driver

end GpuTelemetry.Nvml
