import GpuTelemetry.Run.Lemmas
import GpuTelemetry.Session

/-!
# Calls

What a run asked of backends: the calls among its events, in order. Notes, pauses and lines of
output are no calls. Several statements on runs compare or restrict nothing but their calls, so
these are given a type and a list of their own here.

`lastTurn` is the call that settles whether a backend is in use: the last start or shutdown of it.
-/

namespace GpuTelemetry

/-- A call of a backend: who asked, which backend, for what, and whether it answered. -/
structure Call where
  session : Option SessionId
  backend : BackendId
  request : Request
  answered : Bool
  deriving Repr, DecidableEq

/-- The call in an event. -/
def Event.call? : Event → Option Call
  | .call session backend request answered => some ⟨session, backend, request, answered⟩
  | _ => none

/-- The calls among events, in order. -/
def callsOf (events : List Event) : List Call :=
  events.filterMap Event.call?

/-- The calls that a run made. -/
def Outcome.calls {σ α : Type} (o : Outcome σ α) : List Call :=
  callsOf o.events

@[simp] theorem callsOf_append (first second : List Event) :
    callsOf (first ++ second) = callsOf first ++ callsOf second :=
  List.filterMap_append

@[simp] theorem callsOf_notes (notes : List Note) : callsOf (notes.map .note) = [] := by
  induction notes with
  | nil => rfl
  | cons note rest ih =>
      rw [List.map_cons]
      exact ih

/-- A backend's answer to a request is one call, whatever notes it leaves. -/
@[simp] theorem calls_ask {σ : Type} (b : Backend σ) (session : Option SessionId)
    (request : Request) (s : Sessions σ) :
    (b.ask session request s).calls =
      [⟨session, b.id, request, (b.answer request s.backends).result.isOk⟩] := by
  show callsOf (_ :: _) = _
  rw [← List.singleton_append, callsOf_append, callsOf_notes]
  rfl

namespace Run

variable {σ α β : Type}

/-- One run after another makes the calls of both. -/
theorem calls_bind_of_ok {first : Run σ α} {s : σ} {a : α} (next : α → Run σ β)
    (given : (first s).result = .ok a) :
    ((first >>= next) s).calls = (first s).calls ++ (next a (first s).state).calls := by
  rw [bind_of_ok next given]
  exact callsOf_append _ _

theorem calls_bind_of_error {first : Run σ α} {s : σ} {f : Fault} (next : α → Run σ β)
    (given : (first s).result = .error f) :
    ((first >>= next) s).calls = (first s).calls := by
  rw [bind_of_error next given]
  rfl

theorem calls_ensuring (body : Run σ α) (cleanup : Run σ Unit) (s : σ) :
    (ensuring body cleanup s).calls = (body s).calls ++ (cleanup (body s).state).calls := by
  show callsOf _ = _
  rw [events_ensuring]
  exact callsOf_append _ _

end Run

/-! ## The last turn of a backend -/

/-- A call that starts or ends the use of a backend. -/
def Call.turns (id : BackendId) (c : Call) : Bool :=
  c.backend == id && c.request.lifecycle

/-- The last start or shutdown of a backend. -/
def lastTurn (id : BackendId) (calls : List Call) : Option Call :=
  calls.reverse.find? (Call.turns id)

theorem lastTurn_append (id : BackendId) (first second : List Call) :
    lastTurn id (first ++ second) = (lastTurn id second).or (lastTurn id first) := by
  unfold lastTurn
  rw [List.reverse_append, List.find?_append]

@[simp] theorem lastTurn_snoc (id : BackendId) (calls : List Call) (c : Call) :
    lastTurn id (calls ++ [c]) = if c.turns id then some c else lastTurn id calls := by
  rw [lastTurn_append]
  cases turns : c.turns id <;> simp [lastTurn, turns]

/-- Calls without a start or shutdown of a backend leave its last turn as it was. -/
theorem lastTurn_append_of_quiet {id : BackendId} (first : List Call) {second : List Call}
    (quiet : ∀ c ∈ second, c.request.lifecycle = false) :
    lastTurn id (first ++ second) = lastTurn id first := by
  rw [lastTurn_append]
  have none : lastTurn id second = none := by
    unfold lastTurn
    rw [List.find?_eq_none]
    intro c member
    simp [Call.turns, quiet c (List.mem_reverse.mp member)]
  rw [none, Option.none_or]

/-- The last turn of a backend stands somewhere among the calls, and none follows it. -/
theorem lastTurn_eq_some_iff {id : BackendId} {calls : List Call} {c : Call} :
    lastTurn id calls = some c ↔
      c.turns id = true ∧ ∃ before between, calls = before ++ c :: between ∧
        ∀ d ∈ between, d.turns id = false := by
  unfold lastTurn
  -- The last turn is the first one from behind, so both sides are reversed.
  rw [List.find?_eq_some_iff_append]
  constructor
  · rintro ⟨turns, later, earlier, split, none⟩
    refine ⟨turns, earlier.reverse, later.reverse, ?_, ?_⟩
    · simpa using congrArg List.reverse split
    · intro d member
      simpa using none d (List.mem_reverse.mp member)
  · rintro ⟨turns, before, between, split, none⟩
    refine ⟨turns, between.reverse, before.reverse, by simp [split], ?_⟩
    intro d member
    simpa using none d (List.mem_reverse.mp member)

/-! ## Counting calls -/

/-- How often a request was put to a backend. -/
def timesOn (id : BackendId) (request : Request) (calls : List Call) : Nat :=
  calls.countP fun c => c.backend == id && c.request == request

/-- How often a request was put to a backend in vain. -/
def failuresOn (id : BackendId) (request : Request) (calls : List Call) : Nat :=
  calls.countP fun c => c.backend == id && c.request == request && !c.answered

/-- How often a session made a request. -/
def timesBy (id : SessionId) (request : Request) (calls : List Call) : Nat :=
  calls.countP fun c => c.session == some id && c.request == request

@[simp] theorem timesOn_append (id : BackendId) (request : Request) (first second : List Call) :
    timesOn id request (first ++ second) =
      timesOn id request first + timesOn id request second :=
  List.countP_append

@[simp] theorem failuresOn_append (id : BackendId) (request : Request)
    (first second : List Call) :
    failuresOn id request (first ++ second) =
      failuresOn id request first + failuresOn id request second :=
  List.countP_append

@[simp] theorem timesBy_append (id : SessionId) (request : Request) (first second : List Call) :
    timesBy id request (first ++ second) =
      timesBy id request first + timesBy id request second :=
  List.countP_append

@[simp] theorem timesOn_singleton (id : BackendId) (request : Request) (c : Call) :
    timesOn id request [c] = if c.backend = id ∧ c.request = request then 1 else 0 := by
  simp [timesOn]

@[simp] theorem failuresOn_singleton (id : BackendId) (request : Request) (c : Call) :
    failuresOn id request [c] =
      if c.backend = id ∧ c.request = request ∧ c.answered = false then 1 else 0 := by
  simp [failuresOn, and_assoc]

@[simp] theorem timesBy_singleton (id : SessionId) (request : Request) (c : Call) :
    timesBy id request [c] = if c.session = some id ∧ c.request = request then 1 else 0 := by
  simp [timesBy]

/-- A session that made no call made no request. -/
theorem timesBy_eq_zero {id : SessionId} {calls : List Call} (request : Request)
    (silent : ∀ c ∈ calls, c.session ≠ some id) : timesBy id request calls = 0 := by
  unfold timesBy
  rw [List.countP_eq_zero]
  intro c member
  simp [silent c member]

end GpuTelemetry
