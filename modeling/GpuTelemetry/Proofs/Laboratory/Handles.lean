import GpuTelemetry.Proofs.Collection.Gathering
import GpuTelemetry.Proofs.Laboratory.Bench
import GpuTelemetry.Proofs.Session.Actions
import GpuTelemetry.Proofs.Session.Exclusive
import GpuTelemetry.Proofs.Session.Registry

/-!
# Steps on sessions in the laboratory

A step on a named session looks the session up and leaves the rest to it (`Workbench.take_step`). In
every state of a laboratory, even if backends are asked directly in between, the sessions that its
bench refers to are exclusive (`exclusive_perform`), and its backends take no notice of each other's
starts and shutdowns (`Equipment.Piece.aloof`).

Main statement: `session_steps_local`. Steps out of turn change nothing, collections do not get into
the way of an open session, and steps on sessions of different backends commute.
-/

namespace GpuTelemetry

variable {σ α β : Type}

/-! ## Backends of the laboratory -/

namespace Equipment

theorem setSimulation_comm {id other : BackendId} (different : id ≠ other) (s t : Simulated)
    (e : Equipment) :
    (e.setSimulation other t).setSimulation id s =
      (e.setSimulation id s).setSimulation other t := by
  unfold setSimulation
  rw [List.set_comm _ _ different.symm]

/-- A driver is not changed when it is started or shut down. -/
theorem state_answer_of_turn {request : Request} (turn : request.lifecycle = true)
    (d : Nvml.Driver) : (Nvml.answer request d).state = d := by
  cases request with
  | start => rfl
  | shutdown => rfl
  | _ => cases turn

/-- Backends with different numbers take no notice of each other's starts and shutdowns. -/
theorem Piece.aloof {b c : Backend Equipment} (one : Piece b) (two : Piece c)
    (different : b.id ≠ c.id) : b.Aloof c := by
  cases one with
  | simulated id =>
      cases two with
      | simulated other =>
          have apart : id ≠ other := different
          exact .zoom _ _ (fun s e => simulation_setSimulation_of_ne s e apart)
            (fun s e => simulation_setSimulation_of_ne s e apart.symm)
            fun s t e => setSimulation_comm apart s t e
      | driver other => exact .zoom _ _ (fun _ _ => rfl) (fun _ _ => rfl) fun _ _ _ => rfl
  | driver id =>
      cases two with
      | simulated other => exact .zoom _ _ (fun _ _ => rfl) (fun _ _ => rfl) fun _ _ _ => rfl
      | driver other =>
          -- Both see the same driver, but it stays as it is.
          have same : ∀ {foreign : Request} (e : Equipment), foreign.lifecycle = true →
              ((driverBackend (Nvml.backend other)).answer foreign e).state = e := by
            intro foreign e turn
            show { e with driver := (Nvml.answer foreign e.driver).state } = e
            rw [state_answer_of_turn turn]
          refine ⟨fun request foreign e _ turn => ?_, fun request foreign e _ turn => ?_,
            fun request foreign e _ turn => ?_⟩
          · rw [same e turn]
          · rw [same e turn]
          · rw [same e turn, same _ turn]

end Equipment

/-! ## Steps on the bench -/

namespace Workbench

/-- The sessions that a bench refers to: those with a name, and those of samplers and feeds. -/
inductive Holds (bench : Workbench σ) : Session σ → Prop
  | handle {name : String} {h : Session σ} (member : (name, h) ∈ bench.handles) : Holds bench h
  | sampler {name : String} {s : Sampler σ} (member : (name, s) ∈ bench.samplers) :
      Holds bench s.session
  | feed {name : String} {f : Feed σ} (member : (name, f) ∈ bench.feeds) : Holds bench f.session
  | feedSampler {name : String} {f : Feed σ} (member : (name, f) ∈ bench.feeds) :
      Holds bench f.sampler.session

theorem Refers.known_of_holds {lawful : Backend σ → Prop} {known : Session σ → Prop}
    {inv : Sessions σ → List Call → Prop} {bench : Workbench σ} {past : List Call}
    (refers : Refers lawful known inv bench past) {h : Session σ} (held : bench.Holds h) :
    known h := by
  cases held with
  | handle member => exact refers.handles _ member
  | sampler member => exact refers.samplers _ member
  | feed member => exact (refers.feeds _ member).1
  | feedSampler member => exact (refers.feeds _ member).2

theorem onSessions_map (x : Run (Sessions σ) α) (give : α → β) :
    (onSessions x >>= fun a => pure (give a)) = onSessions (x >>= fun a => pure (give a)) := by
  apply Run.ext
  intro bench
  show _ = Outcome.mk ((x >>= fun a => pure (give a)) bench.sessions).result
    { bench with sessions := ((x >>= fun a => pure (give a)) bench.sessions).state }
    ((x >>= fun a => pure (give a)) bench.sessions).events
  rcases result : (x bench.sessions).result with fault | a
  · have ended : (onSessions x bench).result = .error fault := result
    rw [Run.bind_of_error _ ended, Run.bind_of_error _ result]
    rfl
  · have ended : (onSessions x bench).result = .ok a := result
    rw [Run.bind_of_ok _ ended, Run.bind_of_ok _ result]
    rfl

/-- A step on a session looks the session up, and leaves the rest to it. -/
theorem take_step (action : Session.Action) (name : String) :
    (take (action.step name) : Run (Workbench σ) Answer) =
      named (·.handles) name >>= fun h => onSessions (action.act h) := by
  cases action with
  | start => exact congrArg (_ >>= ·) (funext fun h => onSessions_map h.start _)
  | finish => exact congrArg (_ >>= ·) (funext fun h => onSessions_map h.finish _)
  | enter => exact congrArg (_ >>= ·) (funext fun h => onSessions_map h.enter _)
  | leave => exact congrArg (_ >>= ·) (funext fun h => onSessions_map h.finish _)
  | isOpen => exact congrArg (_ >>= ·) (funext fun h => onSessions_map h.phase _)
  | vendor => exact congrArg (_ >>= ·) (funext fun h => onSessions_map h.vendor _)

end Workbench

namespace Laboratory

variable {action : Session.Action} {name : String} {lab : Laboratory} {h k : Session Equipment}

theorem take_step_of_named
    (found : Workbench.named (·.handles) name lab.bench = ⟨.ok h, lab.bench, []⟩) :
    take (.onBench (action.step name)) lab = onBench (Workbench.onSessions (action.act h)) lab := by
  have taken : Workbench.take (action.step name) lab.bench =
      Workbench.onSessions (action.act h) lab.bench := by
    rw [Workbench.take_step]
    exact Run.bind_of_silent _ found
  show onBench (Workbench.take (action.step name)) lab = _
  unfold onBench Run.zoom
  rw [taken]

/-- A step that is out of turn changes nothing. -/
theorem take_step_of_misuse {f : Fault}
    (failed : (take (.onBench (action.step name)) lab).result = .error f)
    (misuse : f.misuse = true) : take (.onBench (action.step name)) lab = ⟨.error f, lab, []⟩ := by
  rcases Workbench.named_idle (·.handles) name lab.bench with unknown | ⟨h, _, found⟩
  · have ended : (take (.onBench (action.step name)) lab).result = .error (.unknownName name) := by
      show (Workbench.take (action.step name) lab.bench).result = _
      rw [Workbench.take_step, Run.bind_of_silent_error _ unknown]
    cases ended.symm.trans failed
    cases misuse
  · rw [take_step_of_named found] at failed ⊢
    have idle : action.act h lab.bench.sessions = _ := Session.Action.act_of_misuse failed misuse
    unfold onBench Workbench.onSessions Run.zoom
    rw [idle]

/-! ### Exclusive sessions -/

/-- However a laboratory has been used, the sessions that its bench refers to are exclusive. -/
theorem exclusive_perform (simulated : List (String × Simulated)) (driver : Nvml.Driver)
    (steps : List Step) :
    ∃ known past, Workbench.Refers Equipment.Piece known
      (fun s _ => Exclusive Equipment.Piece known s)
      (perform steps (setUp simulated driver)).state.bench past := by
  have kept : (perform steps).Follows (booked Equipment.Piece fun known s _ =>
      Exclusive Equipment.Piece known s) := by
    refine .each fun step _ => Run.Follows.attempt ?_
    refine booked_take (exclusive_ledger _) .driver step fun _ known b request => ?_
    intro s past exclusive
    -- A backend that is asked without a session may change its own state alone.
    exact exclusive.congr rfl rfl rfl
  have nobody : Workbench.Refers Equipment.Piece (fun _ => False)
      (fun s _ => Exclusive Equipment.Piece (fun _ => False) s)
      (setUp simulated driver).bench [] := by
    refine ⟨fun pair member => ?_, by simp [setUp], by simp [setUp], by simp [setUp], .empty _⟩
    obtain ⟨⟨_, id⟩, _, rfl⟩ := List.mem_map.mp member
    exact .simulated id
  obtain ⟨known, refers⟩ := kept (setUp simulated driver) [] ⟨_, nobody⟩
  exact ⟨known, _, refers⟩

/-! ### Busy backends -/

/-- The outcome of a step by which a session is opened: its backend is asked to start, and the
session is open unless the backend declines. -/
inductive Admitted (h : Session Equipment) (out : Outcome Laboratory Workbench.Answer) : Prop
  | opened (result : out.result = .ok (.truth true)) (calls : out.calls = [h.call .start true])
      (phase : out.state.bench.sessions.phase h.id = .opened)
  | declined (reason : String)
      (result : out.result = .error (.failed (.startFailed h.backend.vendor reason)))
      (calls : out.calls = [h.call .start false])

/-- A fresh session on an idle backend is admitted. -/
theorem admitted_of_idle (piece : Equipment.Piece h.backend)
    (found : lab.bench.handles.lookup name = some h)
    (fresh : lab.bench.sessions.phase h.id = .fresh)
    (idle : lab.bench.sessions.busy h.backend.id = false)
    (starts : action.act h lab.bench.sessions =
      (h.start >>= fun _ => pure (.truth true)) lab.bench.sessions) :
    Admitted h (take (.onBench (action.step name)) lab) := by
  rw [take_step_of_named (Workbench.named_of_lookup found)]
  cases h.starting lab.bench.sessions with
  | refused fault misuse result =>
      rcases misuse with used | busy
      · exact absurd fresh used
      · -- Neither reason for a refusal holds, so the backend is asked to start.
        cases idle.symm.trans busy
  | served _ _ reply result state calls =>
      refine .opened ?_ ?_ ?_
      · show (action.act h lab.bench.sessions).result = _
        rw [starts, Run.bind_of_ok _ result]
        rfl
      · show (action.act h lab.bench.sessions).calls = _
        rw [starts, Run.calls_bind_of_ok _ result, calls]
        rfl
      · show (action.act h lab.bench.sessions).state.phase h.id = _
        rw [starts, Run.bind_of_ok _ result, state]
        exact Sessions.phase_setPhase_self ..
  | declined reason _ _ reply result state calls =>
      refine .declined reason ?_ ?_
      · show (action.act h lab.bench.sessions).result = _
        rw [starts, Run.bind_of_error _ result]
      · show (action.act h lab.bench.sessions).calls = _
        rw [starts, Run.calls_bind_of_error _ result, calls]
  | broken refusal _ _ other reply result state calls =>
      obtain ⟨reason, declined⟩ := piece.obliging _ _ reply
      exact absurd declined (other reason)

/-- A collection on a busy backend makes a session, and no more. -/
theorem take_collect_of_busy {backend : String} {b : Backend Equipment}
    (found : lab.bench.backends.lookup backend = some b)
    (busy : lab.bench.sessions.busy b.id = true)
    (metric : Metric) (index? : Option Int) (window? : Option Window) (advance : Bool) :
    take (.onBench (.collect backend metric index? window? advance)) lab =
      ⟨.error (.alreadyOpen b.vendor), (onBench (Workbench.onSessions (Session.make b)) lab).state,
        []⟩ := by
  have refused : Session.launched b lab.bench.sessions =
      ⟨.error (.alreadyOpen b.vendor), lab.bench.sessions.withNew, []⟩ :=
    Session.start_of_busy (Sessions.phase_withNew_made _) busy
  -- The collection ends with its start, and only its session has been made.
  have collected : collect b metric index? window? advance lab.bench.sessions =
      ⟨.error (.alreadyOpen b.vendor), lab.bench.sessions.withNew, []⟩ := by
    rw [Session.collect_eq_within, Session.within_of_error _ (congrArg Outcome.result refused),
      refused]
  have taken : Workbench.take (.collect backend metric index? window? advance) lab.bench =
      ⟨.error (.alreadyOpen b.vendor),
        { lab.bench with sessions := lab.bench.sessions.withNew }, []⟩ := by
    show (Workbench.named (·.backends) backend >>= _) lab.bench = _
    rw [Run.bind_of_silent _ (Workbench.named_of_lookup found)]
    refine Run.bind_of_silent_error _ ?_
    unfold Workbench.onSessions Run.zoom
    rw [collected]
  show onBench (Workbench.take (.collect backend metric index? window? advance)) lab = _
  unfold onBench Run.zoom
  rw [taken]
  rfl

/-! ### Sessions on different backends -/

/-- Steps on two sessions that are apart commute. -/
theorem commute_take {action' : Session.Action} {name' : String}
    (found : lab.bench.handles.lookup name = some h)
    (found' : lab.bench.handles.lookup name' = some k) (apart : h.Apart k) (apart' : k.Apart h) :
    Run.Commute (take (.onBench (action.step name)))
      (take (.onBench (action'.step name'))) lab := by
  let x := onBench (Workbench.onSessions (action.act h))
  let y := onBench (Workbench.onSessions (action'.act k))
  have mine : ∀ other : Laboratory, other.bench.handles = lab.bench.handles →
      take (.onBench (action.step name)) other = x other := fun other same =>
    take_step_of_named (Workbench.named_of_lookup (same ▸ found))
  have theirs : ∀ other : Laboratory, other.bench.handles = lab.bench.handles →
      take (.onBench (action'.step name')) other = y other := fun other same =>
    take_step_of_named (Workbench.named_of_lookup (same ▸ found'))
  -- Neither step changes what is under the names, so both find their sessions in either order.
  have commute := (action.local_act h).commute (action'.local_act k) apart apart'
    lab.bench.sessions
  refine ⟨?_, ?_, ?_⟩
  · rw [theirs lab rfl, mine lab rfl, mine (y lab).state rfl]
    exact commute.first
  · rw [theirs lab rfl, mine lab rfl, theirs (x lab).state rfl]
    exact commute.second
  · rw [theirs lab rfl, mine lab rfl, mine (y lab).state rfl, theirs (x lab).state rfl]
    exact congrArg (fun sessions => { lab with bench := { lab.bench with sessions } })
      commute.state

/-! ### Main statement -/

/-- What steps on sessions do to a laboratory, and what they leave alone. -/
structure StepsLocal (lab : Laboratory) : Prop where
  /-- A step that is out of turn changes nothing and asks for nothing. -/
  misused : ∀ (action : Session.Action) name fault,
    (take (.onBench (action.step name)) lab).result = .error fault → fault.misuse = true →
    take (.onBench (action.step name)) lab = ⟨.error fault, lab, []⟩
  /-- A session that is refused on account of another one finds that one open on its backend, and is
  admitted when it has been finished. -/
  refused : ∀ (action : Session.Action) name h vendor, lab.bench.handles.lookup name = some h →
    (take (.onBench (action.step name)) lab).result = .error (.alreadyOpen vendor) →
    (∃ k : Session Equipment, k ≠ h ∧ k.backend.id = h.backend.id ∧
      lab.bench.sessions.phase k.id = .opened) ∧
    ∀ k : Session Equipment, k.backend.id = h.backend.id →
      lab.bench.sessions.phase k.id = .opened →
      Admitted h (take (.onBench (action.step name))
        (onBench (Workbench.onSessions k.finish) lab).state)
  /-- A collection on the backend of an open session is refused: it has made one more session, and
  the open one stays open. -/
  collected : ∀ backend b h metric index? window? advance,
    lab.bench.backends.lookup backend = some b → lab.bench.Holds h → h.backend.id = b.id →
    lab.bench.sessions.phase h.id = .opened →
    let made := (onBench (Workbench.onSessions (Session.make b)) lab).state
    take (.onBench (.collect backend metric index? window? advance)) lab =
        ⟨.error (.alreadyOpen b.vendor), made, []⟩ ∧
      made.bench.sessions.phase h.id = .opened
  /-- Steps on sessions of different backends commute. -/
  commute : ∀ (action action' : Session.Action) name name' h k,
    lab.bench.handles.lookup name = some h → lab.bench.handles.lookup name' = some k →
    h.backend.id ≠ k.backend.id →
    Run.Commute (take (.onBench (action.step name))) (take (.onBench (action'.step name'))) lab

/-- In every state that steps lead to, steps on sessions do nothing when they are out of turn, and
otherwise concern their own backend alone. -/
theorem session_steps_local (simulated : List (String × Simulated)) (driver : Nvml.Driver)
    (steps : List Step) : (perform steps (setUp simulated driver)).state.StepsLocal := by
  obtain ⟨known, past, refers⟩ := exclusive_perform simulated driver steps
  generalize (perform steps (setUp simulated driver)).state = lab at refers
  have exclusive : Exclusive Equipment.Piece known lab.bench.sessions := refers.sessions
  have knownOf : ∀ {name h}, lab.bench.handles.lookup name = some h → known h := fun found =>
    refers.handles _ (Register.mem_of_lookup found)
  refine ⟨fun action name fault => take_step_of_misuse, ?_, ?_, ?_⟩
  · intro action name h vendor found failed
    rw [take_step_of_named (Workbench.named_of_lookup found)] at failed
    obtain ⟨refused, starts⟩ := Session.Action.starts_of_alreadyOpen failed
    obtain ⟨fresh, busy⟩ := Session.busy_of_alreadyOpen refused
    refine ⟨?_, fun k on isOpen => ?_⟩
    · obtain ⟨k, _, on, isOpen⟩ := (exclusive.busy _).mp busy
      refine ⟨k, ?_, on, isOpen⟩
      -- The session in the way is another one: it is open and this one is fresh.
      rintro rfl
      cases fresh.symm.trans isOpen
    · obtain ⟨still, idle⟩ := Session.idle_of_finish fresh isOpen on
      exact admitted_of_idle (exclusive.lawful h (knownOf found)) found still idle (starts _ still)
  · intro backend b h metric index? window? advance found held on isOpen
    have heldKnown := refers.known_of_holds held
    have busy := exclusive.busy_of_opened heldKnown isOpen
    rw [on] at busy
    refine ⟨take_collect_of_busy found busy metric index? window? advance, ?_⟩
    show lab.bench.sessions.withNew.phase h.id = .opened
    rw [Sessions.phase_withNew_of_ne (Nat.ne_of_lt (exclusive.made h heldKnown))]
    exact isOpen
  · intro action action' name name' h k found found' different
    have knownH := knownOf found
    have knownK := knownOf found'
    have lawfulH := exclusive.lawful h knownH
    have lawfulK := exclusive.lawful k knownK
    -- Sessions of one number are the same, and would be on the same backend.
    have number : h.id ≠ k.id := by
      intro same
      rw [exclusive.same h k knownH knownK same] at different
      exact different rfl
    exact commute_take found found' ⟨number, different, lawfulH.aloof lawfulK different⟩
      ⟨number.symm, different.symm, lawfulK.aloof lawfulH different.symm⟩

/-- Two sessions on one simulated backend, of which one is open, and a third one on another. -/
def threeSessions : List Step :=
  [.onBench (.make "first" "left"), .onBench (.make "second" "left"),
    .onBench (.make "third" "right"), .onBench (.start "first")]

/-- The second session has to wait for the first one, a collection does not get through either, and
it does not matter whether the first session is finished before the third one is entered. -/
theorem second_session_waits :
    let lab := (perform threeSessions (setUp [("left", {}), ("right", {})] {})).state
    let first : Session Equipment := ⟨0, Equipment.simulatedBackend 0⟩
    let second : Session Equipment := ⟨1, Equipment.simulatedBackend 0⟩
    let third : Session Equipment := ⟨2, Equipment.simulatedBackend 1⟩
    lab.bench.handles.lookup "first" = some first ∧
      lab.bench.handles.lookup "second" = some second ∧
      lab.bench.handles.lookup "third" = some third ∧
      lab.bench.sessions.phase 0 = .opened ∧
      take (.onBench (.start "second")) lab = ⟨.error (.alreadyOpen "Mock"), lab, []⟩ ∧
      Admitted second (take (.onBench (.start "second"))
        (take (.onBench (.finish "first")) lab).state) ∧
      (take (.onBench (.collect "left" .power none none true)) lab).result =
        .error (.alreadyOpen "Mock") ∧
      Run.Commute (take (.onBench (.finish "first"))) (take (.onBench (.enter "third"))) lab := by
  intro lab first second third
  have keeps : lab.StepsLocal := session_steps_local _ _ threeSessions
  have foundFirst : lab.bench.handles.lookup "first" = some first := rfl
  have foundSecond : lab.bench.handles.lookup "second" = some second := rfl
  have foundThird : lab.bench.handles.lookup "third" = some third := rfl
  have isOpen : lab.bench.sessions.phase 0 = .opened := by decide
  have refused : (take (.onBench (.start "second")) lab).result = .error (.alreadyOpen "Mock") :=
    rfl
  refine ⟨foundFirst, foundSecond, foundThird, isOpen, ?_, ?_, ?_, ?_⟩
  · exact keeps.misused .start "second" _ refused rfl
  · exact (keeps.refused .start "second" second "Mock" foundSecond refused).2 first rfl isOpen
  · have held : lab.bench.Holds first := .handle (Register.mem_of_lookup foundFirst)
    rw [(keeps.collected "left" (Equipment.simulatedBackend 0) first .power none none true rfl held
      rfl isOpen).1]
    rfl
  · exact keeps.commute .finish .enter "first" "third" first third foundFirst foundThird
      (by decide)

end Laboratory

end GpuTelemetry
