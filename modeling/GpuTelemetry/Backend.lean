import GpuTelemetry.Failure
import GpuTelemetry.Note
import GpuTelemetry.Value

/-!
# Backends

A backend is a vendor library seen through eight requests. Each request has its own type of answer,
and answering may change the state behind the backend, which is left open here: a simulation, a
driver, or all the backends of a program at once. A backend either answers or refuses, and it may
leave notes; there is nothing else that it can do to a run.
-/

namespace GpuTelemetry

/-- The number by which a backend is told apart from every other one. -/
abbrev BackendId := Nat

inductive Native where
  /-- The place of the device in a list, counted from the end if it is negative. -/
  | slot (place : Int)
  /-- A name that means something to the backend alone. -/
  | token (text : String)
  /-- A value that no backend hands out, in the place of a handle. -/
  | other (value : Value)
  deriving Repr, DecidableEq

def Native.value : Native → Value
  | .slot place => .int place
  | .token text => .text text
  | .other value => value

structure Sample where
  timestamp : Int
  value : Int
  deriving Repr, DecidableEq

inductive Request where
  | start
  | shutdown
  | deviceCount
  | handleAt (index : Int)
  | nameOf (device : Native)
  | powerOf (device : Native)
  | clockOf (device : Native)
  | samplesOf (device : Native) (metric : Metric) (since : Int)
  deriving Repr, DecidableEq

@[reducible] def Request.Answer : Request → Type
  | .start | .shutdown => Unit
  | .deviceCount | .powerOf _ | .clockOf _ => Int
  | .handleAt _ => Native
  | .nameOf _ => String
  | .samplesOf .. => List Sample

/-- A request that starts or ends the use of the vendor library. -/
def Request.lifecycle : Request → Bool
  | .start | .shutdown => true
  | _ => false

/-- A backend's reaction to a request: the answer or the refusal, the state after it and the notes
it left. -/
structure Reply (σ α : Type) where
  result : Except Refusal α
  state : σ
  notes : List Note

namespace Reply

def ok {σ α : Type} (state : σ) (answer : α) : Reply σ α := ⟨.ok answer, state, []⟩

def refuse {σ α : Type} (state : σ) (refusal : Refusal) : Reply σ α := ⟨.error refusal, state, []⟩

def decline {σ α : Type} (state : σ) (text : String) : Reply σ α := refuse state (.declined text)

end Reply

/-- A vendor library over a state `σ`. -/
structure Backend (σ : Type) where
  id : BackendId
  vendor : String
  answer : (request : Request) → σ → Reply σ request.Answer

/-- The same backend over a larger state, of which it sees and changes one part. -/
def Backend.zoom {σ τ : Type} (get : τ → σ) (set : σ → τ → τ) (b : Backend σ) : Backend τ where
  id := b.id
  vendor := b.vendor
  answer request state :=
    let reply := b.answer request (get state)
    ⟨reply.result, set reply.state state, reply.notes⟩

end GpuTelemetry
