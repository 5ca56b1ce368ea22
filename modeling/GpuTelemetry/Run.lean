import GpuTelemetry.Backend

/-!
# Runs

A run computes a result or ends in a fault, and on the way it changes a state and causes events:
calls of a backend, pauses, notes and lines of output. The state and the events are kept however the
run ends. What a run printed, how long it paused and which calls it made are views on its events.
-/

namespace GpuTelemetry

/-- The number by which a session is told apart from every other one. -/
abbrev SessionId := Nat

/-- What a run does that its surroundings can observe. -/
inductive Event where
  /-- A backend was asked by a session, or by nobody's session, and answered or refused. -/
  | call (session : Option SessionId) (backend : BackendId) (request : Request) (answered : Bool)
  | pause (seconds : Nat)
  | note (note : Note)
  /-- Notes are shown from here on, those that reach the level. -/
  | showNotes (level : LogLevel)
  /-- A text was written to the standard output, with a line feed behind it. -/
  | print (text : String)
  /-- A text was written to the standard error as it is. -/
  | complain (text : String)
  deriving Repr, DecidableEq

namespace Event

def note? : Event → Option Note
  | .note n => some n
  | _ => none

def pause? : Event → Option Nat
  | .pause seconds => some seconds
  | _ => none

def request? : Event → Option Request
  | .call _ _ request _ => some request
  | _ => none

end Event

/-- How a run from a given state ended. -/
structure Outcome (σ α : Type) where
  result : Except Fault α
  state : σ
  events : List Event

/-- A computation on a state that causes events and may end in a fault. -/
def Run (σ α : Type) := σ → Outcome σ α

namespace Run

variable {σ τ α β : Type}

def done (a : α) : Run σ α := fun s => ⟨.ok a, s, []⟩

/-- One run and then another that depends on its result. A fault of the first is the end. -/
def andThen (first : Run σ α) (next : α → Run σ β) : Run σ β := fun s =>
  match first s with
  | ⟨.ok a, s', events⟩ =>
    let rest := next a s'
    ⟨rest.result, rest.state, events ++ rest.events⟩
  | ⟨.error fault, s', events⟩ => ⟨.error fault, s', events⟩

instance : Monad (Run σ) where
  pure := done
  bind := andThen

def fault (f : Fault) : Run σ α := fun s => ⟨.error f, s, []⟩

def fail (f : Failure) : Run σ α := fault (.failed f)

def emit (event : Event) : Run σ Unit := fun s => ⟨.ok (), s, [event]⟩

def note (n : Note) : Run σ Unit := emit (.note n)

def print (line : String) : Run σ Unit := emit (.print line)

def get : Run σ σ := fun s => ⟨.ok s, s, []⟩

def modify (f : σ → σ) : Run σ Unit := fun s => ⟨.ok (), f s, []⟩

/-- A run whose fault, if it ends in one, is a result like any other. -/
def attempt (body : Run σ α) : Run σ (Except Fault α) := fun s =>
  let outcome := body s
  ⟨.ok outcome.result, outcome.state, outcome.events⟩

/-- A run with another one behind it, however it ends. A fault of the second comes before a fault of
the first. -/
def ensuring (body : Run σ α) (cleanup : Run σ Unit) : Run σ α := do
  let result ← attempt body
  cleanup
  match result with
  | .ok a => done a
  | .error f => fault f

/-- A run in which a declined request becomes a failure of the operation that made it. -/
def orFail (body : Run σ α) (failure : String → Failure) : Run σ α := fun s =>
  match body s with
  | ⟨.error (.refused (.declined reason)), s', events⟩ =>
    ⟨.error (.failed (failure reason)), s', events⟩
  | outcome => outcome

/-- A run on a part of a larger state. -/
def zoom (part : τ → σ) (put : σ → τ → τ) (body : Run σ α) : Run τ α := fun t =>
  let outcome := body (part t)
  ⟨outcome.result, put outcome.state t, outcome.events⟩

/-- One run for each member of a list, in order, up to the first that ends in a fault. -/
def each (visit : α → Run σ β) : List α → Run σ (List β)
  | [] => done []
  | a :: rest => do
    let first ← visit a
    let others ← each visit rest
    return first :: others

def ofExcept : Except Fault α → Run σ α
  | .ok a => done a
  | .error f => fault f

end Run

end GpuTelemetry
