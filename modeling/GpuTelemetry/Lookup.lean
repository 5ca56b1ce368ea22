import GpuTelemetry.Report
import GpuTelemetry.Session

/-!
# Device lookup

Devices have the indices from zero up to the number of devices. Looking one up asks for its handle
and its name; a name has to have at least one byte and at most `Failure.nameLimit` bytes, as a
longer one would not fit the buffer of the vendor library.

An index that no device has may be of any size, and one that is too long to be written cannot be
named in a failure. The index of a device is below the number of devices, and taken to be short.
-/

namespace GpuTelemetry.Session

variable {σ : Type}

/-- The number of devices, as the backend reports it. -/
def countDevices (h : Session σ) : Run (Sessions σ) Int := do
  let count ← Run.orFail (h.ask .deviceCount) .countFailed
  Run.note (.present count)
  return count

/-- The number of devices, asked for only if it is not known. -/
def countUnless (h : Session σ) : Option Int → Run (Sessions σ) Int
  | some count => return count
  | none => h.countDevices

/-- What is wrong with the name of the device at an index, if anything is. -/
def nameProblem? (index : Int) (name : String) : Option Failure :=
  if name = "" then some (.nameEmpty index)
  else if Failure.nameLimit < name.utf8ByteSize then some (.nameTooLong index name.utf8ByteSize)
  else none

/-- The device at an index, unless there is something wrong with its name. -/
def accept (index : Int) (native : Native) (name : String) : Run (Sessions σ) Device :=
  match nameProblem? index name with
  | some problem => Run.fail problem
  | none => return ⟨index, name, native⟩

/-- What looking up an index without a device ends in: a failure that names the index and the number
of devices, if both can be written. -/
def missing (index count : Int) : Fault :=
  match Numeral.writing [index, count] (Failure.outOfRange index count) with
  | .ok failure => .failed failure
  | .error fault => fault

/-- The device at an index below a known number of devices. The session has to be open as soon as
the index is known to be in range. -/
def resolveBelow (h : Session σ) (count index : Int) : Run (Sessions σ) Device := do
  if index < 0 ∨ count ≤ index then
    Run.fault (missing index count)
  else
    h.requireOpen
    let native ← Run.orFail (h.put (.handleAt index)) (.handleFailed index)
    let name ← Run.orFail (h.put (.nameOf native)) (.nameFailed index)
    accept index native name

/-- The device at an index. The number of devices is asked for unless it is given. -/
def resolve (h : Session σ) (index : Int) (count? : Option Int) : Run (Sessions σ) Device := do
  let count ← h.countUnless count?
  h.resolveBelow count index

end Session

/-- Indices of devices still to be visited: a given list, or a number of successive ones. -/
inductive Indices where
  | listed (indices : List Int)
  | successive (next : Int) (left : Nat)
  deriving Repr, DecidableEq

namespace Indices

def below (count : Int) : Indices := .successive 0 count.toNat

def next? : Indices → Option (Int × Indices)
  | .listed [] => none
  | .listed (index :: rest) => some (index, .listed rest)
  | .successive _ 0 => none
  | .successive next (left + 1) => some (next, .successive (next + 1) left)

def toList : Indices → List Int
  | .listed indices => indices
  | .successive next left => go next left
where
  go (next : Int) : Nat → List Int
    | 0 => []
    | left + 1 => next :: go (next + 1) left

variable {σ α : Type}

/-- One run for each of so many successive indices, up to the first that ends in a fault. -/
def visitSuccessive (visit : Int → Run σ α) (next : Int) : Nat → Run σ (List α)
  | 0 => return []
  | left + 1 => do
    let first ← visit next
    let others ← visitSuccessive visit (next + 1) left
    return first :: others

/-- One run for each index, in order, up to the first that ends in a fault. -/
def visit (visit : Int → Run σ α) : Indices → Run σ (List α)
  | .listed indices => Run.each visit indices
  | .successive next left => visitSuccessive visit next left

end Indices

/-- Every device, in ascending order of the index. The number of devices is asked for once. -/
def Session.resolveAll {σ : Type} (h : Session σ) : Run (Sessions σ) (List Device) := do
  let count ← h.countDevices
  (Indices.below count).visit (h.resolveBelow count)

end GpuTelemetry
