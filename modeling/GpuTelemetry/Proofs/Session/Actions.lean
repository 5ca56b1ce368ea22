import GpuTelemetry.Proofs.Session.Local
import GpuTelemetry.Workbench

/-!
# Actions of a session

What can be done with a session itself (`Session.Action`): it is started, entered, finished, left,
asked whether it is open, and asked for the vendor. Each action is local
(`Session.Action.local_act`). An action may be out of turn (`Fault.misuse`), and then the session
does nothing (`Session.Action.act_of_misuse`).

A session is refused on account of another one only while it is fresh, and finds its backend idle
when the other one has been finished (`Session.idle_of_finish`).
-/

namespace GpuTelemetry

variable {σ : Type}

/-- A fault that comes of using a session out of turn. -/
def Fault.misuse : Fault → Bool
  | .notOpen _ | .cannotStart _ | .alreadyOpen _ => true
  | _ => false

/-- What can be done with a session itself. -/
inductive Session.Action where
  | start
  | finish
  | enter
  | leave
  | isOpen
  | vendor
  deriving Repr, DecidableEq

namespace Session

namespace Action

/-- The step by which it is done with the session of a name. -/
def step (session : String) : Action → Workbench.Step
  | .start => .start session
  | .finish => .finish session
  | .enter => .enter session
  | .leave => .leave session
  | .isOpen => .isOpen session
  | .vendor => .vendorWhileOpen session

/-- What the session does, and what is answered. -/
def act (h : Session σ) : Action → Run (Sessions σ) Workbench.Answer
  | .start => h.start >>= fun _ => pure (.truth true)
  | .enter => h.enter >>= fun _ => pure (.truth true)
  | .finish | .leave => h.finish >>= fun _ => pure .nothing
  | .isOpen => h.phase >>= fun phase => pure (.truth (phase == .opened))
  | .vendor => h.vendor >>= fun vendor => pure (.text vendor)

theorem local_act (h : Session σ) (action : Action) : h.Local (action.act h) := by
  cases action with
  | start => exact (Local.start h).map _
  | enter => exact (Local.enter h).map _
  | finish => exact (Local.finish h).map _
  | leave => exact (Local.finish h).map _
  | isOpen => exact (Local.phase h).map _
  | vendor => exact (Local.vendor h).map _

end Action

/-! ## Sessions out of turn -/

variable {h : Session σ} {s : Sessions σ} {f : Fault}

theorem start_of_misuse (failed : (h.start s).result = .error f) (misuse : f.misuse = true) :
    h.start s = ⟨.error f, s, []⟩ := by
  cases h.starting s with
  | refused fault _ result =>
      rw [result] at failed ⊢
      cases failed
      rfl
  -- Any other end comes from the backend, whose faults are no misuse.
  | served fresh idle reply result state calls => cases result.symm.trans failed
  | declined reason fresh idle reply result state calls =>
      cases result.symm.trans failed
      cases misuse
  | broken refusal fresh idle other reply result state calls =>
      cases result.symm.trans failed
      cases misuse

theorem enter_of_misuse (failed : (h.enter s).result = .error f) (misuse : f.misuse = true) :
    h.enter s = ⟨.error f, s, []⟩ := by
  by_cases isOpen : s.phase h.id = .opened
  · rw [enter_of_opened isOpen] at failed
    cases failed
  · rw [enter_of_not_opened isOpen] at failed ⊢
    exact start_of_misuse failed misuse

/-- Finishing a session is never out of turn. -/
theorem misuse_of_finish (failed : (h.finish s).result = .error f) : f.misuse = false := by
  obtain ⟨refusal, rfl⟩ := refusal_of_finish failed
  rfl

theorem vendor_of_error (failed : (h.vendor s).result = .error f) :
    f = .notOpen (s.phase h.id) ∧ h.vendor s = ⟨.error f, s, []⟩ := by
  by_cases isOpen : s.phase h.id = .opened
  · rw [vendor_of_opened isOpen] at failed
    cases failed
  · have shut := vendor_of_not_opened isOpen
    rw [shut] at failed
    cases failed
    exact ⟨rfl, shut⟩

/-- A session that is used out of turn does nothing. -/
theorem Action.act_of_misuse {action : Action} (failed : (action.act h s).result = .error f)
    (misuse : f.misuse = true) : action.act h s = ⟨.error f, s, []⟩ := by
  cases action with
  | start => exact Run.bind_of_silent_error _ (start_of_misuse (Run.error_of_map failed) misuse)
  | enter => exact Run.bind_of_silent_error _ (enter_of_misuse (Run.error_of_map failed) misuse)
  | finish => cases (misuse_of_finish (Run.error_of_map failed)).symm.trans misuse
  | leave => cases (misuse_of_finish (Run.error_of_map failed)).symm.trans misuse
  | isOpen => cases Run.error_of_map failed
  | vendor => exact Run.bind_of_silent_error _ (vendor_of_error (Run.error_of_map failed)).2

/-! ## Sessions on a busy backend -/

/-- Only a fresh session is refused because of another one. -/
theorem busy_of_alreadyOpen {vendor : String}
    (refused : (h.start s).result = .error (.alreadyOpen vendor)) :
    s.phase h.id = .fresh ∧ s.busy h.backend.id = true := by
  cases h.starting s with
  | refused fault misuse result =>
      by_cases fresh : s.phase h.id = .fresh
      · exact ⟨fresh, misuse.resolve_left fun used => used fresh⟩
      · rw [start_of_not_fresh fresh] at refused
        cases refused
  | served fresh idle reply result state calls => cases result.symm.trans refused
  | declined reason fresh idle reply result state calls => cases result.symm.trans refused
  | broken refusal fresh idle other reply result state calls => cases result.symm.trans refused

/-- What is refused because of another session is a start, and it is one on every other occasion as
long as the session is fresh. -/
theorem Action.starts_of_alreadyOpen {action : Action} {vendor : String}
    (refused : (action.act h s).result = .error (.alreadyOpen vendor)) :
    (h.start s).result = .error (.alreadyOpen vendor) ∧
      ∀ t : Sessions σ, t.phase h.id = .fresh →
        action.act h t = (h.start >>= fun _ => pure (.truth true)) t := by
  have finish : (h.finish s).result ≠ .error (.alreadyOpen vendor) := fun ended => by
    cases misuse_of_finish ended
  cases action with
  | start => exact ⟨Run.error_of_map refused, fun _ _ => rfl⟩
  | enter =>
      have ended : (h.enter s).result = .error (.alreadyOpen vendor) := Run.error_of_map refused
      by_cases isOpen : s.phase h.id = .opened
      · -- Entering an open session is refused in other words.
        rw [enter_of_opened isOpen] at ended
        cases ended
      · rw [enter_of_not_opened isOpen] at ended
        refine ⟨ended, fun t fresh => ?_⟩
        have shut : t.phase h.id ≠ .opened := by
          rw [fresh]
          exact Phase.noConfusion
        exact Run.bind_congr _ (enter_of_not_opened shut)
  | finish => exact absurd (Run.error_of_map refused) finish
  | leave => exact absurd (Run.error_of_map refused) finish
  | isOpen => cases Run.error_of_map refused
  -- The vendor is refused as well, but because the session is not open.
  | vendor => cases (vendor_of_error (Run.error_of_map refused)).1

/-- When a session on the same backend has been finished, a fresh one finds the backend idle. -/
theorem idle_of_finish {k : Session σ} (fresh : s.phase h.id = .fresh)
    (isOpen : s.phase k.id = .opened) (on : k.backend.id = h.backend.id) :
    (k.finish s).state.phase h.id = .fresh ∧ (k.finish s).state.busy h.backend.id = false := by
  have other : h.id ≠ k.id := by
    intro same
    rw [same, isOpen] at fresh
    cases fresh
  cases k.finishing s with
  | ignored shut result => exact absurd isOpen shut
  | closed isOpen result state calls =>
      rw [state, ← on]
      exact ⟨(Sessions.phase_setPhase_of_ne _ _ other).trans fresh, Sessions.busy_setBusy_self ..⟩

end Session

end GpuTelemetry
