import GpuTelemetry.Run

/-!
# Sessions

A session owns one start and one shutdown of a backend. It is started once and finished once, and a
backend serves at most one session at a time. Finishing is safe in every phase: a session that is
not open is left as it is, and a shutdown that the backend declines is noted and not reported.

An operation finds out at its head whether the session is open, and refuses if it is not; then it
puts its requests to the backend (`Session.put`). One that has a single request is `Session.ask`.
-/

namespace GpuTelemetry

/-- The state behind all backends and the state of the sessions on them. -/
structure Sessions (σ : Type) where
  backends : σ
  phase : SessionId → Session.Phase := fun _ => .fresh
  /-- The backends that serve a session. -/
  busy : BackendId → Bool := fun _ => false
  made : Nat := 0

structure Session (σ : Type) where
  id : SessionId
  backend : Backend σ

namespace Sessions

variable {σ : Type}

/-- The state after a session has reached a phase. -/
def setPhase (id : SessionId) (phase : Session.Phase) (s : Sessions σ) : Sessions σ :=
  { s with phase := fun other => if other = id then phase else s.phase other }

/-- The state after a backend has become busy or idle. -/
def setBusy (id : BackendId) (busy : Bool) (s : Sessions σ) : Sessions σ :=
  { s with busy := fun other => if other = id then busy else s.busy other }

end Sessions

/-- A request put to a backend, on behalf of a session or of none. -/
def Backend.ask {σ : Type} (b : Backend σ) (session : Option SessionId) (request : Request) :
    Run (Sessions σ) request.Answer := fun s =>
  let reply := b.answer request s.backends
  ⟨reply.result.mapError .refused, { s with backends := reply.state },
    .call session b.id request reply.result.isOk :: reply.notes.map .note⟩

namespace Session

variable {σ : Type}

/-- A new session on a backend, fresh and with a number of its own. Nothing is asked of the backend
yet. -/
def make (b : Backend σ) : Run (Sessions σ) (Session σ) := fun s =>
  ⟨.ok ⟨s.made, b⟩, { s.setPhase s.made .fresh with made := s.made + 1 }, []⟩

def phase (h : Session σ) : Run (Sessions σ) Phase := fun s =>
  ⟨.ok (s.phase h.id), s, []⟩

def requireOpen (h : Session σ) : Run (Sessions σ) Unit := do
  match ← h.phase with
  | .opened => return ()
  | other => Run.fault (.notOpen other)

/-- A request on behalf of the session, in whatever phase that is. -/
def put (h : Session σ) (request : Request) : Run (Sessions σ) request.Answer :=
  h.backend.ask (some h.id) request

/-- A request of the session, which has to be open. -/
def ask (h : Session σ) (request : Request) : Run (Sessions σ) request.Answer := do
  h.requireOpen
  h.put request

/-- The vendor of the backend, told only while the session is open. -/
def vendor (h : Session σ) : Run (Sessions σ) String := do
  h.requireOpen
  return h.backend.vendor

/-- Starts a fresh session on an idle backend. If the backend declines to start, the session is
closed. -/
def start (h : Session σ) : Run (Sessions σ) Unit := do
  match ← h.phase with
  | .fresh =>
    if (← Run.get).busy h.backend.id then
      Run.fault (.alreadyOpen h.backend.vendor)
    match ← Run.attempt (h.backend.ask (some h.id) .start) with
    | .ok () =>
      Run.modify fun s => (s.setPhase h.id .opened).setBusy h.backend.id true
      Run.note (.opened h.backend.vendor)
    | .error (.refused (.declined reason)) =>
      Run.modify (·.setPhase h.id .closed)
      Run.fail (.startFailed h.backend.vendor reason)
    | .error other => Run.fault other
  | other => Run.fault (.cannotStart other)

/-- Finishes an open session; any other is left as it is. -/
def finish (h : Session σ) : Run (Sessions σ) Unit := do
  match ← h.phase with
  | .opened =>
    Run.modify fun s => (s.setPhase h.id .closed).setBusy h.backend.id false
    match ← Run.attempt (h.backend.ask (some h.id) .shutdown) with
    | .ok () => Run.note (.closed h.backend.vendor)
    | .error (.refused (.declined reason)) =>
      Run.note (.shutdownFailed h.backend.vendor reason)
    | .error other => Run.fault other
  | other => Run.note (.closeIgnored other)

def enter (h : Session σ) : Run (Sessions σ) Unit := do
  match ← h.phase with
  | .opened => return ()
  | _ => h.start

/-- A run inside a session of its own, which is finished however the run ends. -/
def within {α : Type} (b : Backend σ) (body : Session σ → Run (Sessions σ) α) :
    Run (Sessions σ) α := do
  let h ← make b
  h.enter
  Run.ensuring (body h) h.finish

end Session

end GpuTelemetry
