import GpuTelemetry.Proofs.Discipline
import GpuTelemetry.Proofs.Output

/-!
# The parts of a session

A run inside a session of its own has three parts: the start, what happens in the open session, and
the end (`Session.Goes`). Start and end print nothing. A start that fails says that the backend is
unavailable, and an end never fails, but it may end in a bare refusal.

Main statements: `Session.goes_within`, and `Session.result_within` for a backend that declines its
shutdown in words, whose sessions therefore always end well.
-/

namespace GpuTelemetry

variable {σ α : Type}

/-! ## Runs without output -/

/-- The discipline of printing nothing. -/
def Discipline.wordless (fault : Fault → Prop) : Discipline σ where
  inv _ := True
  event e := e.print? = none
  fault := fault

theorem Run.Obeys.printed {fault : Fault → Prop} {Q : α → Prop} {body : Run σ α}
    (obeys : body.Obeys (.wordless fault) Q) (s : σ) : (body s).printed = [] :=
  List.filterMap_eq_nil_iff.mpr (obeys s trivial).events

/-- A run that tolerates few faults tolerates more of them. -/
theorem Run.Obeys.widen {fault other : Fault → Prop} {Q : α → Prop} {body : Run σ α}
    (obeys : body.Obeys (.wordless fault) Q) (wider : ∀ f, fault f → other f) :
    body.Obeys (.wordless other) Q := by
  intro s holds
  have outcome := obeys s holds
  exact ⟨outcome.kept, outcome.events, outcome.gives, fun f given =>
    wider f (outcome.faults f given)⟩

namespace Session

open Run (Obeys)

/-- A backend refuses, and does nothing else to a run. -/
theorem wordless_ask (b : Backend σ) (session : Option SessionId) (request : Request) :
    (b.ask session request).Obeys (.wordless fun f => ∃ refusal, f = .refused refusal)
      fun _ => True := by
  intro s _
  refine ⟨trivial, ?_, fun _ _ => trivial, ?_⟩
  · simp [Backend.ask, Discipline.wordless, Event.print?]
  · intro f failed
    change (b.answer request s.backends).result.mapError .refused = .error f at failed
    rcases reply : (b.answer request s.backends).result with refusal | answer
    · rw [reply] at failed
      exact ⟨refusal, (Except.error.inj failed).symm⟩
    · rw [reply] at failed
      cases failed

/-- A start prints nothing, and if it fails, the backend is unavailable. -/
theorem wordless_start (h : Session σ) :
    h.start.Obeys (.wordless fun f => ∀ g, f = .failed g → g.kind = .unavailable)
      fun _ => True := by
  refine Obeys.bind (Q := fun _ => True) .look fun phase _ => ?_
  split
  · refine Obeys.bind (Q := fun _ => True) .look fun s _ => ?_
    split
    · exact .fault nofun
    · refine ((wordless_ask h.backend _ .start).widen ?_).attempt.bind fun reply known => ?_
      · rintro f ⟨refusal, rfl⟩
        exact nofun
      split
      · refine Obeys.bind (.modify fun _ _ => trivial) fun _ _ => ?_
        exact .emit rfl
      · refine Obeys.bind (.modify fun _ _ => trivial) fun _ _ => ?_
        refine .fault fun g same => ?_
        cases same
        rfl
      · -- A fault that is not of the backend's own words passes through, and it is no failure.
        exact .fault (known.2 _ rfl)
  · exact .fault nofun

/-- Finishing prints nothing and never fails: it ends well or in a bare refusal. -/
theorem wordless_finish (h : Session σ) :
    h.finish.Obeys (.wordless fun f => ∃ refusal, f = .refused refusal) fun _ => True := by
  refine Obeys.bind (Q := fun _ => True) .look fun phase _ => ?_
  split
  · refine Obeys.bind (.modify fun _ _ => trivial) fun _ _ => ?_
    refine (wordless_ask h.backend _ .shutdown).attempt.bind fun reply known => ?_
    split
    · exact .emit rfl
    · exact .emit rfl
    · exact .fault (known.2 _ rfl)
  · exact .emit rfl

end Session

theorem Run.result_ensuring (body : Run σ α) (cleanup : Run σ Unit) (s : σ) :
    (ensuring body cleanup s).result =
      (cleanup (body s).state).result.bind fun _ => (body s).result := by
  rcases well : (cleanup (body s).state).result with f | u
  · unfold ensuring
    rw [bind_of_ok (a := (body s).result) _ rfl, bind_of_error _ (by simpa using well)]
    rfl
  · rw [result_ensuring_of_ok well]
    rfl

/-! ## The parts of a session -/

namespace Session

variable {b : Backend σ} {s : Sessions σ}

/-- A new session on a backend, when its start has been asked for. -/
def launched (b : Backend σ) (s : Sessions σ) : Outcome (Sessions σ) Unit :=
  (upcoming b s).start s.withNew

/-- The end of a new session on a backend, from the state that its body left. -/
def landed (b : Backend σ) (s t : Sessions σ) : Outcome (Sessions σ) Unit :=
  (upcoming b s).finish t

theorem kind_of_launched {f : Failure} (failed : (launched b s).result = .error (.failed f)) :
    f.kind = .unavailable :=
  (wordless_start (upcoming b s) s.withNew trivial).faults _ failed f rfl

theorem refused_of_landed {t : Sessions σ} {f : Fault} (broken : (landed b s t).result = .error f) :
    ∃ refusal, f = .refused refusal :=
  (wordless_finish (upcoming b s) t trivial).faults f broken

/-- Once a session has been started, it is open, and its backend is in the state after the start. -/
theorem opened_of_launched (started : (launched b s).result = .ok ()) :
    (launched b s).state.phase s.made = .opened ∧
      (launched b s).state.backends = (b.answer .start s.backends).state := by
  change ((upcoming b s).start s.withNew).result = .ok () at started
  show ((upcoming b s).start s.withNew).state.phase (upcoming b s).id = .opened ∧
    ((upcoming b s).start s.withNew).state.backends = _
  cases (upcoming b s).starting s.withNew with
  | served fresh idle reply result state calls =>
      rw [state]
      exact ⟨Sessions.phase_setPhase_self .., rfl⟩
  | refused fault misuse result =>
      rw [result] at started
      cases started
  | declined reason fresh idle reply result state calls =>
      rw [result] at started
      cases started
  | broken refusal fresh idle other reply result state calls =>
      rw [result] at started
      cases started

/-- A session that could not be started is not open. -/
theorem shut_of_launched {f : Fault} (refused : (launched b s).result = .error f) :
    (launched b s).state.phase (upcoming b s).id ≠ .opened := by
  have fresh : s.withNew.phase (upcoming b s).id = .fresh := s.phase_withNew_made
  change ((upcoming b s).start s.withNew).result = .error f at refused
  show ((upcoming b s).start s.withNew).state.phase (upcoming b s).id ≠ .opened
  cases (upcoming b s).starting s.withNew with
  -- A session is closed by a start that fails and stays fresh if none is asked for.
  | served _ idle reply result state calls =>
      rw [result] at refused
      cases refused
  | refused fault misuse result =>
      rw [result, fresh]
      nofun
  | declined reason _ idle reply result state calls =>
      rw [state, Sessions.phase_setPhase_self]
      nofun
  | broken refusal _ idle other reply result state calls =>
      rw [state, Backend.phase_asked, fresh]
      nofun

/-- On an idle backend that starts, a new session is opened with one request. -/
theorem launched_of_started (idle : s.busy b.id = false)
    (started : (b.answer .start s.backends).result = .ok ()) :
    (launched b s).result = .ok () ∧ (launched b s).calls.map (·.request) = [.start] := by
  show ((upcoming b s).start s.withNew).result = .ok () ∧
    ((upcoming b s).start s.withNew).calls.map (·.request) = [.start]
  cases (upcoming b s).starting s.withNew with
  | served fresh idle reply result state calls =>
      rw [result, calls]
      exact ⟨rfl, rfl⟩
  | refused fault misuse result => exact absurd misuse (admissible_upcoming idle)
  | declined reason fresh idle reply result state calls => cases started.symm.trans reply
  | broken refusal fresh idle other reply result state calls => cases started.symm.trans reply

/-- On an idle backend, a start that is declined in words is a failure. -/
theorem failed_of_launched (idle : s.busy b.id = false)
    (declines : ∀ refusal, (b.answer .start s.backends).result = .error refusal →
      ∃ reason, refusal = .declined reason) {f : Fault}
    (refused : (launched b s).result = .error f) : ∃ g, f = .failed g := by
  change ((upcoming b s).start s.withNew).result = .error f at refused
  cases (upcoming b s).starting s.withNew with
  | served fresh idle reply result state calls =>
      rw [result] at refused
      cases refused
  | refused fault misuse result => exact absurd misuse (admissible_upcoming idle)
  | declined reason fresh idle reply result state calls =>
      rw [result] at refused
      cases refused
      exact ⟨_, rfl⟩
  | broken refusal fresh idle other reply result state calls =>
      obtain ⟨reason, declined⟩ := declines refusal reply
      exact absurd declined (other reason)

/-- A shutdown that is at most declined in words ends every session well. -/
theorem landed_of_declines
    (declines : ∀ x refusal, (b.answer .shutdown x).result = .error refusal →
      ∃ reason, refusal = .declined reason) (t : Sessions σ) :
    (landed b s t).result = .ok () := by
  show ((upcoming b s).finish t).result = .ok ()
  cases (upcoming b s).finishing t with
  | ignored shut result => rw [result]
  | closed isOpen result state calls => exact result fun refusal => declines t.backends refusal

/-- An outcome that is made of the start of a new session, an outcome in the open session and the
end of the session. A session that cannot be finished is worse than whatever its body ended in. -/
structure Goes (b : Backend σ) (s : Sessions σ) (inside out : Outcome (Sessions σ) α) : Prop where
  acts : out.acts = (launched b s).acts ++ inside.acts ++ (landed b s inside.state).acts
  state : out.state = (landed b s inside.state).state
  printed : out.printed = inside.printed
  result : out.result = (landed b s inside.state).result.bind fun _ => inside.result

/-- A run in the open session, which is then finished, goes in the three parts. -/
theorem Goes.of_split {body : Run (Sessions σ) α} {out : Outcome (Sessions σ) α}
    (split : out = ⟨(Run.ensuring body (upcoming b s).finish (launched b s).state).result,
      (Run.ensuring body (upcoming b s).finish (launched b s).state).state,
      (launched b s).events ++
        (Run.ensuring body (upcoming b s).finish (launched b s).state).events⟩) :
    Goes b s (body (launched b s).state) out := by
  subst split
  -- Neither the start nor the shutdown prints, so what is printed is the body's.
  have quietStart := (wordless_start (upcoming b s)).printed s.withNew
  have quietEnd := (wordless_finish (upcoming b s)).printed (body (launched b s).state).state
  refine ⟨?_, Run.state_ensuring .., ?_, Run.result_ensuring ..⟩
  · have ending := Run.acts_ensuring body (upcoming b s).finish (launched b s).state
    rw [List.append_assoc]
    exact (List.filter_append ..).trans (congrArg ((launched b s).acts ++ ·) ending)
  · have ending := Run.printed_ensuring body (upcoming b s).finish (launched b s).state
    rw [quietEnd, List.append_nil] at ending
    refine (List.filterMap_append ..).trans ((congrArg (· ++ _) quietStart).trans ?_)
    exact ending

/-- A run inside a session of its own goes in the three parts, if the session is opened. -/
theorem goes_within (body : Session σ → Run (Sessions σ) α)
    (started : (launched b s).result = .ok ()) :
    Goes b s (body (upcoming b s) (launched b s).state) (within b body s) := by
  have entered : ((upcoming b s).enter s.withNew) = launched b s := enter_upcoming b s
  have opens : ((upcoming b s).enter s.withNew).result = .ok () := by rw [entered, started]
  refine .of_split ?_
  rw [within_apply, Run.bind_of_ok _ opens, entered]

/-- Otherwise it ends as the start did. -/
theorem within_of_error (body : Session σ → Run (Sessions σ) α) {f : Fault}
    (refused : (launched b s).result = .error f) :
    within b body s = ⟨.error f, (launched b s).state, (launched b s).events⟩ := by
  have entered : ((upcoming b s).enter s.withNew) = launched b s := enter_upcoming b s
  have fails : ((upcoming b s).enter s.withNew).result = .error f := by rw [entered, refused]
  rw [within_apply, Run.bind_of_error _ fails, entered]

/-- If its shutdown is at most declined in words, a run inside a session of its own has the result
of its body. -/
theorem result_within (body : Session σ → Run (Sessions σ) α)
    (declines : ∀ x refusal, (b.answer .shutdown x).result = .error refusal →
      ∃ reason, refusal = .declined reason)
    (started : (launched b s).result = .ok ()) :
    (within b body s).result = (body (upcoming b s) (launched b s).state).result := by
  rw [(goes_within body started).result, landed_of_declines declines]
  rfl

/-- A run inside a session of its own gives a result only if its body does. -/
theorem result_inside {body : Session σ → Run (Sessions σ) α} {a : α}
    (given : (within b body s).result = .ok a) :
    (launched b s).result = .ok () ∧
      (body (upcoming b s) (launched b s).state).result = .ok a := by
  rcases opened : (launched b s).result with f | ⟨⟨⟩⟩
  · rw [within_of_error body opened] at given
    cases given
  · refine ⟨rfl, ?_⟩
    -- A shutdown that ends in a fault takes the place of what the body gave.
    have ended := (goes_within body opened).result.symm.trans given
    rcases landing :
        (landed b s (body (upcoming b s) (launched b s).state).state).result with f | u
    · rw [landing] at ended
      cases ended
    · rw [landing] at ended
      exact ended

end Session

end GpuTelemetry
