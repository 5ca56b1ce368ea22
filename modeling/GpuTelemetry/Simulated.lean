import GpuTelemetry.Backend
import GpuTelemetry.Register

/-!
# Simulated devices

A backend without hardware. Its devices are a list, and a device's handle is its place in it, from
the end if it is negative. Every operation can be told to fail, for one device or for all.

Sample values are handed out one at a time for each place and metric, the last of them over and
over, each with a timestamp of its own from a clock that all of them share. Two places that mean the
same device, one from the start and one from the end, go through its values independently.
-/

namespace GpuTelemetry

structure Simulated.Device where
  name : String
  power : Int := 0
  clock : Int := 0
  /-- The sample values of each metric, in the order in which they are handed out. -/
  values : List (Metric × List Int) := []

/-- What a simulated backend can be told to fail at. -/
inductive Simulated.Operation where
  | start
  | shutdown
  | deviceCount
  | handleAt
  | nameOf
  | powerOf
  | clockOf
  | samplesOf
  /-- Something that no request asks for, so that failing at it has no effect. -/
  | other (name : String)
  deriving Repr, DecidableEq

/-- An injected failure: its wording, and the device to which it is confined. -/
structure Simulated.Injected where
  reason : String := "Unknown Error"
  only? : Option Int := none
  deriving Repr, DecidableEq

/-- A row of simulated devices with the counters of their use. -/
structure Simulated where
  devices : List Simulated.Device := []
  /-- The failures in force, at most one for each operation. -/
  failures : List (Simulated.Operation × Simulated.Injected) := []
  starts : Nat := 0
  shutdowns : Nat := 0
  /-- The requests for samples that ran into no injected failure, the last one first. -/
  asked : List (Native × Metric × Int) := []
  /-- How many values have been handed out for each place and metric. -/
  handedOut : List ((Int × Metric) × Nat) := []
  time : Int := 0

namespace Simulated

def operationOf : Request → Operation
  | .start => .start
  | .shutdown => .shutdown
  | .deviceCount => .deviceCount
  | .handleAt _ => .handleAt
  | .nameOf _ => .nameOf
  | .powerOf _ => .powerOf
  | .clockOf _ => .clockOf
  | .samplesOf .. => .samplesOf

def subjectOf : Request → Option Native
  | .start | .shutdown | .deviceCount => none
  | .handleAt index => some (.slot index)
  | .nameOf device | .powerOf device | .clockOf device | .samplesOf device _ _ => some device

/-- The requests for samples that ran into no injected failure, in order. -/
def queries (s : Simulated) : List (Native × Metric × Int) := s.asked.reverse

/-- Every start has been followed by a shutdown. -/
def balanced (s : Simulated) : Bool := s.starts == s.shutdowns

def inject (operation : Operation) (failure : Injected) (s : Simulated) : Simulated :=
  { s with failures := Register.assign operation failure s.failures }

def mend (s : Simulated) : Simulated := { s with failures := [] }

/-- The wording of the failure that a request runs into, if any. A failure that is confined to a
device is met by every handle that is equal to its number. -/
def failure? (s : Simulated) (request : Request) : Option String :=
  match s.failures.lookup (operationOf request) with
  | none => none
  | some failure =>
    match failure.only? with
    | none => some failure.reason
    | some place =>
      if (subjectOf request).any (·.value.denotes place) then some failure.reason else none

/-- Places from here on are too large, and those below its opposite too. -/
def placeLimit : Int := 0x8000000000000000

def absence (place : Int) : Refusal :=
  if place < -placeLimit ∨ placeLimit ≤ place then .slotTooLarge else .noSuchSlot

/-- The device at a place, counted from the end if it is negative. -/
def deviceAt (s : Simulated) (place : Int) : Except Refusal Device :=
  let fromStart := if place < 0 then place + s.devices.length else place
  if fromStart < 0 then .error (absence place)
  else
    match s.devices[fromStart.toNat]? with
    | some device => .ok device
    | none => .error (absence place)

/-- The place and the device that a handle stands for. -/
def find (s : Simulated) (native : Native) : Except Refusal (Int × Device) :=
  match native.value.place? with
  | none => .error (.notASlot native.value.typeName)
  | some place => (s.deviceAt place).map (place, ·)

def property {α : Type} (s : Simulated) (native : Native) (read : Device → α) : Reply Simulated α :=
  ⟨(s.find native).map fun (_, device) => read device, s, []⟩

/-- The next sample of a metric of the device at a place, or no sample if it has no values. -/
def nextSample (s : Simulated) (place : Int) (metric : Metric) (device : Device) :
    List Sample × Simulated :=
  match (device.values.lookup metric).getD [] with
  | [] => ([], s)
  | first :: rest =>
    let taken := (s.handedOut.lookup (place, metric)).getD 0
    let value := ((first :: rest)[min taken rest.length]?).getD first
    let time := s.time + 1000
    ([⟨time, value⟩],
      { s with
        handedOut := Register.assign (place, metric) (taken + 1) s.handedOut
        time := time })

/-- The reaction to a request that does not run into an injected failure. -/
def serve (s : Simulated) : (request : Request) → Reply Simulated request.Answer
  | .start | .shutdown => .ok s ()
  | .deviceCount => .ok s s.devices.length
  | .handleAt index =>
    if 0 ≤ index ∧ index < s.devices.length then .ok s (.slot index)
    else .decline s "Invalid Argument"
  | .nameOf native => s.property native (·.name)
  | .powerOf native => s.property native (·.power)
  | .clockOf native => s.property native (·.clock)
  | .samplesOf native metric since =>
    let s := { s with asked := (native, metric, since) :: s.asked }
    match s.find native with
    | .error refusal => .refuse s refusal
    | .ok (place, device) =>
      let (samples, s) := s.nextSample place metric device
      .ok s samples

def count (s : Simulated) : Request → Simulated
  | .start => { s with starts := s.starts + 1 }
  | .shutdown => { s with shutdowns := s.shutdowns + 1 }
  | _ => s

/-- The reaction to a request. Starts and shutdowns are counted even if they fail. -/
def answer (request : Request) (s : Simulated) : Reply Simulated request.Answer :=
  let s := s.count request
  match s.failure? request with
  | some reason => .decline s reason
  | none => s.serve request

def backend (id : BackendId) : Backend Simulated := ⟨id, "Mock", answer⟩

end Simulated

end GpuTelemetry
