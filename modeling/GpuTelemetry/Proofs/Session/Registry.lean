import GpuTelemetry.Laboratory
import GpuTelemetry.Proofs.Session.Accounts
import GpuTelemetry.Proofs.Simulated

/-!
# A registry of sessions

Sessions on the backends of a laboratory, kept in the order in which they were made. A step makes a
session, starts, enters, leaves or finishes the one at a place, or changes how backends behave from
there on: failures of the simulated ones are injected and taken back, and the driver is replaced. So
starts and shutdowns succeed and fail in any pattern.

Main statement: `sessions_agree`, what holds of every state that steps lead to.
-/

namespace GpuTelemetry

/-! ## Backends of the laboratory -/

theorem Simulated.obliging_backend (id : BackendId) : (Simulated.backend id).Obliging := by
  intro s refusal refused
  cases met : (s.count .start).failure? .start with
  | some reason =>
      have declined := (congrArg Reply.result (answer_of_failure met)).symm.trans refused
      exact ⟨reason, (Except.error.inj declined).symm⟩
  | none =>
      have served := (congrArg Reply.result (answer_of_spared met)).symm.trans refused
      cases served

theorem Nvml.obliging_backend (id : BackendId) : (Nvml.backend id).Obliging := by
  intro d refusal refused
  have failed : (Driver.status d.startError?).mapError declined = .error refusal := refused
  cases code : d.startError? with
  | none =>
      rw [code] at failed
      cases failed
  | some code' =>
      rw [code] at failed
      exact ⟨errorText code', (Except.error.inj failed).symm⟩

/-- A backend is as obliging over a larger state. -/
theorem Backend.Obliging.zoom {σ τ : Type} {b : Backend σ} (obliging : b.Obliging) (get : τ → σ)
    (set : σ → τ → τ) : (b.zoom get set).Obliging :=
  fun t refusal refused => obliging (get t) refusal refused

namespace Equipment

/-- The backends that there are in a laboratory. -/
inductive Piece : Backend Equipment → Prop
  | simulated (id : BackendId) : Piece (simulatedBackend id)
  | driver (id : BackendId) : Piece (driverBackend (Nvml.backend id))

theorem Piece.obliging {b : Backend Equipment} (piece : Piece b) : b.Obliging := by
  cases piece with
  | simulated id => exact (Simulated.obliging_backend id).zoom _ _
  | driver id => exact (Nvml.obliging_backend id).zoom _ _

theorem length_setSimulation (id : BackendId) (s : Simulated) (e : Equipment) :
    (e.setSimulation id s).simulated.length = e.simulated.length :=
  List.length_set

theorem simulation_setSimulation_self {id : BackendId} {e : Equipment} (s : Simulated)
    (inside : id < e.simulated.length) : (e.setSimulation id s).simulation id = s := by
  unfold simulation setSimulation
  rw [List.getElem?_set_self inside]
  rfl

theorem simulation_setSimulation_of_ne {id other : BackendId} (s : Simulated) (e : Equipment)
    (different : other ≠ id) : (e.setSimulation id s).simulation other = e.simulation other := by
  unfold simulation setSimulation
  rw [List.getElem?_set_ne (Ne.symm different)]

/-- The backend with a number: so many simulated ones come first, and every further number is that
of a backend on the driver. -/
def backendAt (simulated : Nat) (id : BackendId) : Backend Equipment :=
  if id < simulated then simulatedBackend id else driverBackend (Nvml.backend id)

@[simp] theorem id_backendAt (simulated : Nat) (id : BackendId) :
    (backendAt simulated id).id = id := by
  unfold backendAt
  split <;> rfl

theorem piece_backendAt (simulated : Nat) (id : BackendId) : Piece (backendAt simulated id) := by
  unfold backendAt
  split
  · exact .simulated id
  · exact .driver id

end Equipment

/-! ## Steps -/

/-- Sessions on the backends of a laboratory, in the order in which they were made. -/
structure Registry where
  sessions : Sessions Equipment
  handles : List (Session Equipment) := []

namespace Registry

/-- One step; sessions are told by their place in the registry. -/
inductive Step where
  | make (backend : BackendId)
  | start (place : Nat)
  | finish (place : Nat)
  | enter (place : Nat)
  | leave (place : Nat)
  /-- Makes an operation of a simulated backend fail from now on. -/
  | inject (backend : BackendId) (operation : Simulated.Operation) (failure : Simulated.Injected)
  /-- Lets every operation of a simulated backend work again. -/
  | mend (backend : BackendId)
  /-- Puts another driver in the place of the old one. -/
  | replaceDriver (driver : Nvml.Driver)

/-- A registry without sessions, on new simulated backends with devices and on a driver. -/
def setUp (simulated : List (List Simulated.Device)) (driver : Nvml.Driver) : Registry where
  sessions := { backends := ⟨simulated.map fun devices => { devices }, driver⟩ }

/-- The number of simulated backends. -/
def size (r : Registry) : Nat := r.sessions.backends.simulated.length

/-- How far the session has come. -/
def phase (r : Registry) (h : Session Equipment) : Session.Phase := r.sessions.phase h.id

/-- A run on the sessions of a registry. -/
def onSessions {α : Type} (run : Run (Sessions Equipment) α) : Run Registry α :=
  Run.zoom (·.sessions) (fun sessions r => { r with sessions }) run

/-- An operation of the session at a place, if there is one. -/
def visit (place : Nat) (operation : Session Equipment → Run (Sessions Equipment) Unit) :
    Run Registry Unit := do
  match (← Run.get).handles[place]? with
  | some h => onSessions (operation h)
  | none => return ()

/-- A change of the equipment. -/
def adjust (change : Equipment → Equipment) : Run Registry Unit :=
  onSessions <| Run.modify fun s => { s with backends := change s.backends }

/-- Takes one step. -/
def take : Step → Run Registry Unit
  | .make id => do
    let h ← onSessions (Session.make (Equipment.backendAt (← Run.get).size id))
    Run.modify fun r => { r with handles := r.handles ++ [h] }
  | .start place => visit place Session.start
  | .finish place => visit place Session.finish
  | .enter place => visit place Session.enter
  | .leave place => visit place Session.finish
  | .inject id operation failure =>
    adjust fun e => e.setSimulation id ((e.simulation id).inject operation failure)
  | .mend id => adjust fun e => e.setSimulation id (e.simulation id).mend
  | .replaceDriver driver => adjust fun e => { e with driver }

/-- Takes steps one after the other. A step that ends in a fault is not the end. -/
def perform (steps : List Step) : Run Registry (List (Except Fault Unit)) :=
  Run.each (fun step => Run.attempt (take step)) steps

/-! ## What steps keep -/

/-- The counters of the simulated backends go up by the starts and shutdowns called. -/
structure Metered (size : Nat) (e : Equipment) (calls : List Call) (e' : Equipment) : Prop where
  kept : e'.simulated.length = size
  starts : ∀ id < size, (e'.simulation id).starts =
    (e.simulation id).starts + timesOn id .start calls
  shutdowns : ∀ id < size, (e'.simulation id).shutdowns =
    (e.simulation id).shutdowns + timesOn id .shutdown calls

/-- The moves of sessions that are metered. -/
def metering (size : Nat) : Moves (Sessions Equipment) where
  rel s calls t := s.backends.simulated.length = size → Metered size s.backends calls t.backends
  stay s same := ⟨same, fun id inside => rfl, fun id inside => rfl⟩
  join := by
    intro s t u first second one two same
    have early := one same
    have late := two early.kept
    refine ⟨late.kept, fun id inside => ?_, fun id inside => ?_⟩
    · rw [late.starts id inside, early.starts id inside, timesOn_append]
      omega
    · rw [late.shutdowns id inside, early.shutdowns id inside, timesOn_append]
      omega

/-- Every request to a backend of the laboratory is metered. -/
theorem metered_asked (size : Nat) (id : BackendId) (number : SessionId) (request : Request)
    (answered : Bool) (s : Sessions Equipment) (same : s.backends.simulated.length = size) :
    Metered size s.backends [Session.call ⟨number, Equipment.backendAt size id⟩ request answered]
      ((Equipment.backendAt size id).asked request s).backends := by
  unfold Session.call
  rw [Equipment.id_backendAt]
  unfold Equipment.backendAt
  split
  · rename_i inside
    have counted := Simulated.counters_answer request (s.backends.simulation id)
    have own : (((Equipment.simulatedBackend id).asked request s).backends).simulation id =
        (Simulated.answer request (s.backends.simulation id)).state :=
      Equipment.simulation_setSimulation_self _ (same ▸ inside)
    have others : ∀ other, other ≠ id →
        (((Equipment.simulatedBackend id).asked request s).backends).simulation other =
          s.backends.simulation other :=
      fun other different => Equipment.simulation_setSimulation_of_ne _ _ different
    -- Each of the two counters goes up on the one backend and stays as it is on all others.
    have booked : ∀ (counter : Simulated → Nat) (kind : Request),
        counter (Simulated.answer request (s.backends.simulation id)).state =
          counter (s.backends.simulation id) + (if request = kind then 1 else 0) →
        ∀ other, counter ((((Equipment.simulatedBackend id).asked request s).backends).simulation
          other) = counter (s.backends.simulation other) +
            timesOn other kind [⟨some number, id, request, answered⟩] := by
      intro counter kind counted other
      by_cases different : other = id
      · subst different
        rw [own, counted]
        simp
      · have apart : ¬ id = other := fun equal => different equal.symm
        rw [others other different]
        simp [apart]
    exact ⟨(Equipment.length_setSimulation ..).trans same,
      fun other _ => booked (·.starts) .start counted.1 other,
      fun other _ => booked (·.shutdowns) .shutdown counted.2 other⟩
  · rename_i outside
    have none : ∀ kind, ∀ other < size,
        timesOn other kind [⟨some number, id, request, answered⟩] = 0 := by
      intro kind other inside
      have apart : ¬ id = other := fun equal => outside (equal ▸ inside)
      rw [timesOn_singleton, if_neg (fun both => apart both.1)]
    refine ⟨same, fun other inside => ?_, fun other inside => ?_⟩
    · rw [none .start other inside]
      rfl
    · rw [none .shutdown other inside]
      rfl

theorem metering_start (size : Nat) (id : BackendId) (number : SessionId) :
    (Session.start ⟨number, Equipment.backendAt size id⟩).Follows (metering size) := by
  intro s same
  cases Session.starting ⟨number, Equipment.backendAt size id⟩ s with
  | refused fault misuse result =>
      rw [result]
      exact (metering size).stay s same
  | served fresh idle reply result state calls =>
      rw [state, calls]
      exact metered_asked size id number .start true s same
  | declined reason fresh idle reply result state calls =>
      rw [state, calls]
      exact metered_asked size id number .start false s same
  | broken refusal fresh idle other reply result state calls =>
      rw [state, calls]
      exact metered_asked size id number .start false s same

theorem metering_finish (size : Nat) (id : BackendId) (number : SessionId) :
    (Session.finish ⟨number, Equipment.backendAt size id⟩).Follows (metering size) := by
  intro s same
  cases Session.finishing ⟨number, Equipment.backendAt size id⟩ s with
  | ignored shut result =>
      rw [result]
      exact (metering size).stay s same
  | closed isOpen result state calls =>
      rw [state, calls]
      exact metered_asked size id number .shutdown _ s same

/-- A registry whose sessions agree with the calls so far, on backends of the laboratory whose
counters agree with them too. -/
structure Sound (size : Nat) (r : Registry) (past : List Call) : Prop where
  accounts : Accounts r.handles r.sessions past
  backends : ∀ h ∈ r.handles, ∃ id, h.backend = Equipment.backendAt size id
  kept : r.size = size
  starts : ∀ id < size, (r.sessions.backends.simulation id).starts = timesOn id .start past
  shutdowns : ∀ id < size,
    (r.sessions.backends.simulation id).shutdowns = timesOn id .shutdown past

theorem sound_setUp (simulated : List (List Simulated.Device)) (driver : Nvml.Driver) :
    Sound simulated.length (setUp simulated driver) [] where
  accounts := .empty _
  backends h held := absurd held List.not_mem_nil
  kept := List.length_map _
  starts id inside := by simp [setUp, Equipment.simulation, inside, timesOn]
  shutdowns id inside := by simp [setUp, Equipment.simulation, inside, timesOn]

variable {size : Nat}

/-- An operation of one session that keeps the accounts and is metered keeps the registry sound. -/
theorem follows_visit {operation : Session Equipment → Run (Sessions Equipment) Unit}
    (booked : ∀ {handles} {h : Session Equipment}, h.backend.Obliging → h ∈ handles →
      (operation h).Follows (.keeping (Accounts handles)))
    (metered : ∀ id number,
      (operation ⟨number, Equipment.backendAt size id⟩).Follows (metering size))
    (place : Nat) : (visit place operation).Follows (.keeping (Sound size)) := by
  intro r past sound
  unfold visit
  rw [Run.bind_of_silent _ (Run.get_apply r)]
  cases found : r.handles[place]? with
  | none =>
      show Sound size r (past ++ [])
      rw [List.append_nil]
      exact sound
  | some h =>
      have held : h ∈ r.handles := List.mem_of_getElem? found
      obtain ⟨id, backend⟩ := sound.backends h held
      have obliging : h.backend.Obliging := by
        rw [backend]
        exact (Equipment.piece_backendAt size id).obliging
      have moved : Metered size r.sessions.backends (operation h r.sessions).calls
          (operation h r.sessions).state.backends := by
        -- The counters are those of the backend with a number, so the session is told by its own.
        have named : h = ⟨h.id, Equipment.backendAt size id⟩ := by rw [← backend]
        rw [named]
        exact metered id h.id r.sessions sound.kept
      have accounts := booked obliging held r.sessions past sound.accounts
      refine ⟨accounts, sound.backends, moved.kept, ?_, ?_⟩
      · intro other inside
        have counted := moved.starts other inside
        rw [sound.starts other inside, ← timesOn_append] at counted
        exact counted
      · intro other inside
        have counted := moved.shutdowns other inside
        rw [sound.shutdowns other inside, ← timesOn_append] at counted
        exact counted

/-- A new session is on a backend of the laboratory, and has asked for nothing yet. -/
theorem follows_make (id : BackendId) : (take (.make id)).Follows (.keeping (Sound size)) := by
  refine .keeping_of_silent (fun _ => rfl) fun r past sound => ?_
  refine ⟨sound.accounts.make _, ?_, sound.kept, sound.starts, sound.shutdowns⟩
  intro h held
  rcases List.mem_append.mp held with earlier | last
  · exact sound.backends h earlier
  · refine ⟨id, ?_⟩
    rw [List.mem_singleton.mp last, sound.kept]

/-- Equipment may change between calls as long as no counter does. -/
theorem follows_adjust {change : Equipment → Equipment}
    (metered : ∀ e, Metered e.simulated.length e [] (change e)) :
    (adjust change).Follows (.keeping (Sound size)) := by
  refine .keeping_of_silent (fun _ => rfl) fun r past sound => ?_
  have moved : Metered size r.sessions.backends [] (change r.sessions.backends) := by
    -- There are as many simulated backends as the registry was set up with.
    rw [← sound.kept]
    exact metered _
  refine ⟨sound.accounts.congr rfl rfl rfl, sound.backends, moved.kept, ?_, ?_⟩
  · intro id inside
    rw [← sound.starts id inside]
    exact moved.starts id inside
  · intro id inside
    rw [← sound.shutdowns id inside]
    exact moved.shutdowns id inside

/-- Simulated devices may change between calls as long as their counters do not. -/
theorem metered_setSimulation (id : BackendId) {change : Simulated → Simulated}
    (kept : ∀ s, (change s).starts = s.starts ∧ (change s).shutdowns = s.shutdowns)
    (e : Equipment) :
    Metered e.simulated.length e [] (e.setSimulation id (change (e.simulation id))) := by
  have counters : ∀ other < e.simulated.length,
      ((e.setSimulation id (change (e.simulation id))).simulation other).starts =
        (e.simulation other).starts ∧
      ((e.setSimulation id (change (e.simulation id))).simulation other).shutdowns =
        (e.simulation other).shutdowns := by
    intro other inside
    -- Only the simulation that changes could have other counters.
    by_cases same : other = id
    · subst same
      rw [Equipment.simulation_setSimulation_self _ inside]
      exact kept _
    · rw [Equipment.simulation_setSimulation_of_ne _ _ same]
      exact ⟨rfl, rfl⟩
  exact ⟨Equipment.length_setSimulation .., fun other inside => (counters other inside).1,
    fun other inside => (counters other inside).2⟩

/-- Every step keeps a registry sound. -/
theorem follows_take (step : Step) : (take step).Follows (.keeping (Sound size)) := by
  cases step with
  | make id => exact follows_make id
  | start place => exact follows_visit Accounts.follows_start (metering_start size) place
  | finish place =>
      exact follows_visit (fun _ => Accounts.follows_finish) (metering_finish size) place
  | enter place =>
      exact follows_visit
        (fun obliging held => Session.follows_enter (Accounts.follows_start obliging held))
        (fun id number => Session.follows_enter (metering_start size id number)) place
  | leave place =>
      exact follows_visit (fun _ => Accounts.follows_finish) (metering_finish size) place
  | inject id operation failure =>
      exact follows_adjust (metered_setSimulation id fun _ => ⟨rfl, rfl⟩)
  | mend id => exact follows_adjust (metered_setSimulation id fun _ => ⟨rfl, rfl⟩)
  | replaceDriver driver => exact follows_adjust fun e => ⟨rfl, fun _ _ => rfl, fun _ _ => rfl⟩

/-- Every state that steps lead to is sound. -/
theorem sound_perform (simulated : List (List Simulated.Device)) (driver : Nvml.Driver)
    (steps : List Step) :
    Sound simulated.length (perform steps (setUp simulated driver)).state
      (perform steps (setUp simulated driver)).calls :=
  Run.Follows.each (fun step _ => (follows_take step).attempt) _ [] (sound_setUp simulated driver)

/-! ## Closed for good -/

/-- The moves of a registry that open none of the sessions that have been closed. -/
def sealing : Moves Registry where
  rel r calls r' := Moves.closing.rel r.sessions calls r'.sessions
  stay r := Moves.closing.stay r.sessions
  join := Moves.closing.join

theorem sealing_visit {operation : Session Equipment → Run (Sessions Equipment) Unit}
    (one : ∀ h, (operation h).Follows .closing) (place : Nat) :
    (visit place operation).Follows sealing := by
  intro r
  unfold visit
  rw [Run.bind_of_silent _ (Run.get_apply r)]
  cases r.handles[place]? with
  | none => exact sealing.stay r
  | some h => exact one h r.sessions

theorem sealing_take (step : Step) : (take step).Follows sealing := by
  cases step with
  | make id =>
      intro r
      refine ⟨Nat.le_succ _, fun other made closed => ?_⟩
      show r.sessions.withNew.phase other = .closed
      -- A new session has a number of its own, so it does not reopen an old one.
      rw [Sessions.phase_withNew_of_ne (Nat.ne_of_lt made)]
      exact closed
  | start place => exact sealing_visit Session.closing_start place
  | finish place => exact sealing_visit Session.closing_finish place
  | enter place =>
      exact sealing_visit (fun h => Session.follows_enter (Session.closing_start h)) place
  | leave place => exact sealing_visit Session.closing_finish place
  | inject id operation failure => exact fun r => sealing.stay r
  | mend id => exact fun r => sealing.stay r
  | replaceDriver driver => exact fun r => sealing.stay r

/-! ## The main statement -/

/-- Whether a session is open on a backend. -/
def serves (r : Registry) (id : BackendId) : Bool :=
  r.handles.any fun h => h.backend.id == id && r.phase h == .opened

theorem busy_eq_serves {r : Registry} {past : List Call} (sound : Sound size r past)
    (id : BackendId) : r.sessions.busy id = r.serves id := by
  rw [Bool.eq_iff_iff, sound.accounts.busy]
  unfold serves phase
  simp

/-- In every state that steps lead to, at most one session is open on each backend, exactly the
backends with an open session are busy, starts and shutdowns balance on each backend, both by the
calls made and by the counters of simulated devices, each session has asked for at most one start
and at most one shutdown, and a closed session stays closed whatever steps come later. -/
theorem sessions_agree (simulated : List (List Simulated.Device)) (driver : Nvml.Driver)
    (steps : List Step) :
    let run := perform steps (setUp simulated driver)
    let r := run.state
    (∀ (i j : Nat) h k, r.handles[i]? = some h → r.handles[j]? = some k → r.phase h = .opened →
      r.phase k = .opened → h.backend.id = k.backend.id → i = j) ∧
    (∀ id, r.sessions.busy id = r.serves id) ∧
    (∀ id, timesOn id .start run.calls =
      timesOn id .shutdown run.calls + failuresOn id .start run.calls + (r.serves id).toNat) ∧
    (∀ id < simulated.length, (r.sessions.backends.simulation id).starts =
      (r.sessions.backends.simulation id).shutdowns + failuresOn id .start run.calls +
        (r.serves id).toNat) ∧
    (∀ h ∈ r.handles, timesBy h.id .start run.calls ≤ 1 ∧ timesBy h.id .shutdown run.calls ≤ 1) ∧
    (∀ h ∈ r.handles, r.phase h = .closed →
      ∀ later, (perform later r).state.phase h = .closed) := by
  intro run r
  have sound : Sound simulated.length r run.calls := sound_perform simulated driver steps
  have accounts := sound.accounts
  refine ⟨?_, busy_eq_serves sound, ?_, ?_, ?_, ?_⟩
  · intro i j h k atI atJ one two same
    -- Two open sessions on one backend are the same one, and its number is its place.
    have equal : h = k := accounts.single h (List.mem_of_getElem? atI) k (List.mem_of_getElem? atJ)
      one two same
    rw [← accounts.numbered i h atI, ← accounts.numbered j k atJ, equal]
  · intro id
    rw [← busy_eq_serves sound]
    exact accounts.balance id
  · intro id inside
    rw [← busy_eq_serves sound, sound.starts id inside, sound.shutdowns id inside]
    exact accounts.balance id
  · intro h held
    exact (accounts.spent h held).at_most_once
  · intro h held closed later
    -- Closed sessions stay closed in every step, so no later one has to be looked at.
    have sealed : (perform later).Follows sealing := .each fun step _ => (sealing_take step).attempt
    exact (sealed r).2 h.id (accounts.id_lt_made held) closed

end Registry

end GpuTelemetry
