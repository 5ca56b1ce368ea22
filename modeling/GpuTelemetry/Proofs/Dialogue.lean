import GpuTelemetry.Proofs.Session.Steps

/-!
# Dialogues

What a run and a backend say to each other: requests, each with the answer or the refusal that the
backend really gave (`Dialogue`). Calls tell which requests were made and whether they were
answered; a dialogue tells the answers too.

A run *says* something in an open session if its calls are those of a dialogue and a property holds
of the dialogue and the result (`Says`). There is one rule for a request and one for each way of
building a run. A request needs a backend that declines in words whatever it does not answer
(`Backend.Civil`).
-/

namespace GpuTelemetry

variable {σ α β : Type}

/-- A request put to a backend and what came back. -/
structure Exchange where
  request : Request
  result : Except Refusal request.Answer

/-- The call of an exchange, as one session makes it on one backend. -/
def Exchange.call (id : SessionId) (backend : BackendId) (e : Exchange) : Call :=
  ⟨some id, backend, e.request, e.result.isOk⟩

/-- Exchanges that a backend has, one after the other, on its way from one state to another. -/
inductive Dialogue (b : Backend σ) : σ → List Exchange → σ → Prop
  | nil (x : σ) : Dialogue b x [] x
  | cons {x y : σ} {log : List Exchange} (request : Request)
      (rest : Dialogue b (b.answer request x).state log y) :
      Dialogue b x (⟨request, (b.answer request x).result⟩ :: log) y

namespace Dialogue

variable {b : Backend σ}

theorem one (request : Request) (x : σ) :
    Dialogue b x [⟨request, (b.answer request x).result⟩] (b.answer request x).state :=
  .cons request (.nil _)

theorem append {x y z : σ} {first second : List Exchange} (early : Dialogue b x first y)
    (late : Dialogue b y second z) : Dialogue b x (first ++ second) z := by
  induction early with
  | nil x => exact late
  | cons request rest ih => exact .cons request (ih late)

end Dialogue

/-! ## Civil backends -/

/-- The device that a request is about. -/
def Request.device? : Request → Option Native
  | .nameOf native | .powerOf native | .clockOf native | .samplesOf native _ _ => some native
  | .start | .shutdown | .deviceCount | .handleAt _ => none

/-- A backend that declines in words whatever it does not answer, as long as it is only asked about
devices whose handles it has issued. -/
structure Backend.Civil (b : Backend σ) (inv : σ → Prop) (issued : Native → Prop) : Prop where
  keeps : ∀ request x, inv x → inv (b.answer request x).state
  issues : ∀ index x native, inv x → (b.answer (.handleAt index) x).result = .ok native →
    issued native
  declines : ∀ request x refusal, inv x →
    (∀ native, request.device? = some native → issued native) →
    (b.answer request x).result = .error refusal → ∃ reason, refusal = .declined reason

/-- A request about an issued handle is about no other. -/
theorem issued_of_some {issued : Native → Prop} {device : Native} (known : issued device)
    (native : Native) (same : some device = some native) : issued native := by
  cases same
  exact known

/-! ## What runs say -/

/-- A run of an open session from a state amounts to a dialogue and a result. -/
structure Spoken (h : Session σ) (inv : σ → Prop) (s : Sessions σ) (out : Outcome (Sessions σ) α)
    (log : List Exchange) (result : Except Failure α) : Prop where
  dialogue : Dialogue h.backend s.backends log out.state.backends
  calls : out.calls = log.map (Exchange.call h.id h.backend.id)
  phase : out.state.phase = s.phase
  kept : inv out.state.backends
  result : out.result = result.mapError .failed

/-- Whenever its session is open, a run amounts to a dialogue and a result of which `P` holds. -/
def Says (h : Session σ) (inv : σ → Prop) (P : List Exchange → Except Failure α → Prop)
    (body : Run (Sessions σ) α) : Prop :=
  ∀ s, s.phase h.id = .opened → inv s.backends →
    ∃ log result, Spoken h inv s (body s) log result ∧ P log result

/-- What is said when a request is made that can fail with a failure in the backend's words. -/
inductive Asking (b : Backend σ) (inv : σ → Prop) (request : Request) (failure : String → Failure) :
    List Exchange → Except Failure request.Answer → Prop
  | declined (reason : String) :
      Asking b inv request failure [⟨request, .error (.declined reason)⟩] (.error (failure reason))
  | answered (answer : request.Answer) {x : σ} (holds : inv x)
      (given : (b.answer request x).result = .ok answer) :
      Asking b inv request failure [⟨request, .ok answer⟩] (.ok answer)

namespace Says

variable {h : Session σ} {inv : σ → Prop} {P Q : List Exchange → Except Failure α → Prop}
  {body : Run (Sessions σ) α}

theorem mono (said : Says h inv P body) (weaker : ∀ log result, P log result → Q log result) :
    Says h inv Q body := by
  intro s isOpen holds
  obtain ⟨log, result, spoken, property⟩ := said s isOpen holds
  exact ⟨log, result, spoken, weaker log result property⟩

/-- A run that calls nothing and changes nothing says nothing. -/
theorem silent (result : Except Failure α)
    (given : ∀ s, (body s).result = result.mapError .failed) (calls : ∀ s, (body s).calls = [])
    (state : ∀ s, (body s).state = s) : Says h inv (fun log r => log = [] ∧ r = result) body := by
  intro s isOpen holds
  refine ⟨[], result, ⟨?_, calls s, ?_, ?_, given s⟩, rfl, rfl⟩
  · rw [state]
    exact .nil _
  · rw [state]
  · rw [state]
    exact holds

theorem pure (a : α) (property : P [] (.ok a)) : Says h inv P (Pure.pure a) := by
  refine (silent (.ok a) (fun _ => rfl) (fun _ => rfl) fun _ => rfl).mono ?_
  rintro log result ⟨rfl, rfl⟩
  exact property

theorem fail (f : Failure) (property : P [] (.error f)) : Says h inv P (Run.fail f) := by
  refine (silent (.error f) (fun _ => rfl) (fun _ => rfl) fun _ => rfl).mono ?_
  rintro log result ⟨rfl, rfl⟩
  exact property

/-- Of a sequence, what the first run says comes first; if it fails, that is all. -/
theorem bind {R : List Exchange → Except Failure β → Prop} {next : α → Run (Sessions σ) β}
    (one : Says h inv P body) (stop : ∀ log f, P log (.error f) → R log (.error f))
    (two : ∀ early a, P early (.ok a) →
      Says h inv (fun late result => R (early ++ late) result) (next a)) :
    Says h inv R (body >>= next) := by
  intro s isOpen holds
  obtain ⟨early, first, spoken, property⟩ := one s isOpen holds
  cases first with
  | error f =>
      have failed : (body s).result = .error (.failed f) := spoken.result
      rw [Run.bind_of_error next failed]
      exact ⟨early, .error f, ⟨spoken.dialogue, spoken.calls, spoken.phase, spoken.kept, rfl⟩,
        stop early f property⟩
  | ok a =>
      have given : (body s).result = .ok a := spoken.result
      -- Nothing that is said closes the session, so the second run finds it open as well.
      have stillOpen : (body s).state.phase h.id = .opened := by rw [spoken.phase, isOpen]
      obtain ⟨late, result, more, whole⟩ := two early a property _ stillOpen spoken.kept
      refine ⟨early ++ late, result, ⟨?_, ?_, ?_, ?_, ?_⟩, whole⟩
      · rw [Run.bind_of_ok next given]
        exact spoken.dialogue.append more.dialogue
      · rw [Run.calls_bind_of_ok next given, spoken.calls, more.calls, List.map_append]
      · rw [Run.bind_of_ok next given]
        exact more.phase.trans spoken.phase
      · rw [Run.bind_of_ok next given]
        exact more.kept
      · rw [Run.bind_of_ok next given]
        exact more.result

/-- A note or a pause goes unheard. -/
theorem behind {first : Run (Sessions σ) Unit} {next : Unit → Run (Sessions σ) α}
    (given : ∀ s, (first s).result = .ok ()) (calls : ∀ s, (first s).calls = [])
    (state : ∀ s, (first s).state = s) (rest : Says h inv P (next ())) :
    Says h inv P (first >>= next) := by
  refine bind (silent (.ok ()) given calls state) ?_ ?_
  · rintro log f ⟨_, failed⟩
    cases failed
  · rintro early a ⟨rfl, _⟩
    exact rest

/-- A civil backend answers a request or declines it. -/
theorem ask {issued : Native → Prop} (civil : h.backend.Civil inv issued) (request : Request)
    (polite : ∀ native, request.device? = some native → issued native)
    (failure : String → Failure) :
    Says h inv (Asking h.backend inv request failure) (Run.orFail (h.ask request) failure) := by
  intro s isOpen holds
  obtain ⟨state, events⟩ := Run.orFail_apply (h.ask request) failure s
  have asked := Session.ask_of_opened isOpen request
  have after : (Run.orFail (h.ask request) failure s).state = h.backend.asked request s := by
    rw [state, asked]
    rfl
  have called : (Run.orFail (h.ask request) failure s).calls =
      [h.call request (h.backend.answer request s.backends).result.isOk] := by
    show callsOf _ = _
    rw [events, asked]
    exact calls_ask h.backend (some h.id) request s
  have dialogue := Dialogue.one (b := h.backend) request s.backends
  have kept := civil.keeps request s.backends holds
  rcases reply : (h.backend.answer request s.backends).result with refusal | answer
  · -- A refusal in other words would become a fault, which no result can stand for.
    obtain ⟨reason, rfl⟩ := civil.declines request s.backends refusal holds polite reply
    have failed : (h.ask request s).result = .error (.refused (.declined reason)) := by
      rw [asked]
      exact congrArg (Except.mapError Fault.refused) reply
    rw [reply] at called dialogue
    refine ⟨[⟨request, .error (.declined reason)⟩], .error (failure reason),
      ⟨?_, called, ?_, ?_, Run.result_orFail_of_declined failure failed⟩, .declined reason⟩
    · rw [after]
      exact dialogue
    · rw [after]
      rfl
    · rw [after]
      exact kept
  · have given : (h.ask request s).result = .ok answer := by
      rw [asked]
      exact congrArg (Except.mapError Fault.refused) reply
    rw [reply] at called dialogue
    refine ⟨[⟨request, .ok answer⟩], .ok answer,
      ⟨?_, called, ?_, ?_, Run.result_orFail_of_ok failure given⟩, .answered answer holds reply⟩
    · rw [after]
      exact dialogue
    · rw [after]
      rfl
    · rw [after]
      exact kept

end Says

/-! ## Sessions of their own -/

/-- What is said in a session from beginning to end: a start that fails is all, and a start that
succeeds has a shutdown as the last exchange, whatever is said in between. -/
inductive Served (vendor : String) (P : List Exchange → Except Failure α → Prop) :
    List Exchange → Except Failure α → Prop
  | unavailable (reason : String) :
      Served vendor P [⟨.start, .error (.declined reason)⟩] (.error (.startFailed vendor reason))
  | opened {log : List Exchange} {result : Except Failure α} (inside : P log result)
      (goodbye : Except Refusal Unit) :
      Served vendor P (⟨.start, .ok ()⟩ :: log ++ [⟨.shutdown, goodbye⟩]) result

/-- A run of the next session from a state amounts to a dialogue and a result. -/
structure Amounts (b : Backend σ) (s : Sessions σ) (out : Outcome (Sessions σ) α)
    (log : List Exchange) (result : Except Failure α) : Prop where
  dialogue : Dialogue b s.backends log out.state.backends
  calls : out.calls = log.map (Exchange.call s.made b.id)
  result : out.result = result.mapError .failed

section Within

variable {b : Backend σ} {inv : σ → Prop} {issued : Native → Prop}

/-- Starting and shutting down are requests about no device. -/
theorem Backend.Civil.declines_impersonal (civil : b.Civil inv issued) {request : Request} {x : σ}
    {refusal : Refusal} (impersonal : request.device? = none) (holds : inv x)
    (refused : (b.answer request x).result = .error refusal) :
    ∃ reason, refusal = .declined reason := by
  refine civil.declines request x refusal holds (fun native same => ?_) refused
  rw [impersonal] at same
  cases same

/-- What is said in an open session has a shutdown behind it if the session is finished then. -/
theorem Says.ensuring_finish {h : Session σ} {P : List Exchange → Except Failure α → Prop}
    {body : Run (Sessions σ) α} {s : Sessions σ} (said : Says h inv P body)
    (civil : h.backend.Civil inv issued) (isOpen : s.phase h.id = .opened)
    (holds : inv s.backends) :
    ∃ log result, ∃ goodbye : Except Refusal Unit,
      Dialogue h.backend s.backends (log ++ [⟨.shutdown, goodbye⟩])
        (Run.ensuring body h.finish s).state.backends ∧
      (Run.ensuring body h.finish s).calls =
        (log ++ [⟨.shutdown, goodbye⟩]).map (Exchange.call h.id h.backend.id) ∧
      (Run.ensuring body h.finish s).result = result.mapError .failed ∧ P log result := by
  obtain ⟨log, result, spoken, property⟩ := said s isOpen holds
  have stillOpen : (body s).state.phase h.id = .opened := by rw [spoken.phase, isOpen]
  cases h.finishing (body s).state with
  -- What is said does not close the session, so finishing it cannot be skipped.
  | ignored shut _ => exact absurd stillOpen shut
  | closed _ finished state calls =>
      have well := finished fun refusal => civil.declines_impersonal rfl spoken.kept
      refine ⟨log, result, (h.backend.answer .shutdown (body s).state.backends).result,
        ?_, ?_, ?_, property⟩
      · rw [Run.state_ensuring, state]
        exact spoken.dialogue.append (.one .shutdown _)
      · rw [Run.calls_ensuring, spoken.calls, calls, List.map_append]
        rfl
      · rw [Run.result_ensuring_of_ok well]
        exact spoken.result

/-- What is said in an open session is said between its start and its shutdown. -/
theorem Says.within {P : List Exchange → Except Failure α → Prop}
    {body : Session σ → Run (Sessions σ) α} {s : Sessions σ} (civil : b.Civil inv issued)
    (idle : s.busy b.id = false) (holds : inv s.backends)
    (said : Says (Session.upcoming b s) inv P (body (Session.upcoming b s))) :
    ∃ log result, Amounts b s (Session.within b body s) log result ∧
      Served b.vendor P log result := by
  let h := Session.upcoming b s
  have entered : h.enter s.withNew = h.start s.withNew := Session.enter_upcoming b s
  have hello := Dialogue.one (b := b) .start s.backends
  rw [Session.within_apply]
  cases h.starting s.withNew with
  | refused fault misuse result =>
      exact absurd misuse (Session.admissible_upcoming idle)
  | broken refusal fresh _ other reply result state calls =>
      obtain ⟨reason, declined⟩ := civil.declines_impersonal rfl holds reply
      exact absurd declined (other reason)
  | declined reason fresh _ reply result state calls =>
      rw [← entered] at result state calls
      have refused : (b.answer .start s.backends).result = .error (.declined reason) := reply
      rw [refused] at hello
      refine ⟨[⟨.start, .error (.declined reason)⟩], .error (.startFailed b.vendor reason),
        ⟨?_, ?_, ?_⟩, .unavailable reason⟩
      · rw [Run.bind_of_error _ result, state]
        exact hello
      · rw [Run.calls_bind_of_error _ result, calls]
        rfl
      · rw [Run.bind_of_error _ result]
        rfl
  | served fresh _ reply result state calls =>
      rw [← entered] at result state calls
      have answered : (b.answer .start s.backends).result = .ok () := reply
      rw [answered] at hello
      have isOpen : (h.enter s.withNew).state.phase h.id = .opened := by
        rw [state]
        exact Sessions.phase_setPhase_self ..
      have started : (h.enter s.withNew).state.backends = (b.answer .start s.backends).state := by
        rw [state]
        rfl
      have kept : inv (h.enter s.withNew).state.backends := by
        rw [started]
        exact civil.keeps .start s.backends holds
      rw [← started] at hello
      obtain ⟨log, inner, goodbye, dialogue, made, ended, property⟩ :=
        said.ensuring_finish (h := h) civil isOpen kept
      refine ⟨⟨.start, .ok ()⟩ :: log ++ [⟨.shutdown, goodbye⟩], inner, ⟨?_, ?_, ?_⟩,
        .opened property goodbye⟩
      · rw [Run.bind_of_ok _ result]
        exact hello.append dialogue
      · rw [Run.calls_bind_of_ok _ result, calls]
        show [_] ++ (Run.ensuring (body h) h.finish _).calls = _
        rw [made]
        rfl
      · rw [Run.bind_of_ok _ result]
        exact ended

end Within

end GpuTelemetry
