import GpuTelemetry.Command.Execution
import GpuTelemetry.Proofs.Session.Parts

/-!
# A command in its session

What a command does with its session, in terms of what its body does in it: the session is started,
the body runs, a failure of the body is printed and becomes an exit status, and the session is
finished.

Main statements: `Command.ends_inSession`, by which a command goes in the same three parts as a run
inside a session of its own and settles the result of its body, and `Command.run_of_accepted`, by
which a command with accepted arguments and settings says and does nothing before it opens its
session.
-/

namespace GpuTelemetry

variable {σ α : Type}

namespace Command

open Session (launched landed upcoming Goes)

variable {b : Backend σ} {s : Sessions σ}

/-! ## Reporting -/

/-- What a command prints when its body has ended: the failure that the body ended in, if it did. -/
def lastWords : Except Fault α → List String
  | .error (.failed f) => [failureLine f]
  | _ => []

/-- The exit status of a command whose body has ended, unless a fault ends the command as well. -/
def settled : Except Fault ExitStatus → Except Fault ExitStatus
  | .error (.failed _) => .ok .failed
  | result => result

/-- The code of an exit status tells which it is. -/
theorem result_of_code {result : Except Fault ExitStatus} {status : ExitStatus}
    (ended : result.map ExitStatus.code = .ok status.code) : result = .ok status := by
  rcases result with fault | other
  · cases ended
  · cases other <;> cases status <;> first | rfl | cases ended

/-- Reporting a failure makes it an exit status and one more line of output, and is no act. -/
theorem reporting_apply (told : Run σ ExitStatus) (t : σ) :
    (reporting told t).acts = (told t).acts ∧ (reporting told t).state = (told t).state ∧
      (reporting told t).printed = (told t).printed ++ lastWords (told t).result ∧
      (reporting told t).result = settled (told t).result := by
  have caught : (Run.attempt told t).result = .ok (told t).result := rfl
  unfold reporting
  rw [Run.acts_bind_of_ok _ caught, Run.printed_bind_of_ok _ caught, Run.bind_of_ok _ caught]
  rcases (told t).result with fault | status
  · cases fault with
    | failed f => exact ⟨List.append_nil _, rfl, rfl, rfl⟩
    | _ => exact ⟨List.append_nil _, rfl, rfl, rfl⟩
  · exact ⟨List.append_nil _, rfl, rfl, rfl⟩

/-! ## A command's session -/

/-- A command goes in the three parts, if its session is opened. -/
theorem goes_inSession (told : Session σ → Run (Sessions σ) ExitStatus)
    (started : (launched b s).result = .ok ()) :
    Goes b s (reporting (told (upcoming b s)) (launched b s).state)
      (inSession (.ok b) told s) := by
  have caught : (Run.attempt (upcoming b s).start s.withNew).result = .ok (.ok ()) :=
    congrArg Except.ok started
  refine .of_split ?_
  show (Session.make b >>= _) s = _
  rw [Run.bind_of_silent _ (Session.make_apply b s), Run.bind_of_ok _ caught]
  rfl

/-- How a command ends whose session was opened, by how its body ended in the session. A session
that cannot be finished is worse than whatever the body ended in. -/
structure Ends (b : Backend σ) (s : Sessions σ) (told out : Outcome (Sessions σ) ExitStatus) :
    Prop where
  acts : out.acts = (launched b s).acts ++ told.acts ++ (landed b s told.state).acts
  state : out.state = (landed b s told.state).state
  printed : out.printed = told.printed ++ lastWords told.result
  result : out.result = (landed b s told.state).result.bind fun _ => settled told.result

theorem ends_inSession (told : Session σ → Run (Sessions σ) ExitStatus)
    (started : (launched b s).result = .ok ()) :
    Ends b s (told (upcoming b s) (launched b s).state) (inSession (.ok b) told s) := by
  have goes := goes_inSession told started
  obtain ⟨acts, state, printed, result⟩ :=
    reporting_apply (told (upcoming b s)) (launched b s).state
  refine ⟨?_, ?_, goes.printed.trans printed, ?_⟩
  · rw [goes.acts, acts, state]
  · rw [goes.state, state]
  · rw [goes.result, state, result]

/-- A failure to open it is printed and ends the command. -/
theorem inSession_of_failed (told : Session σ → Run (Sessions σ) ExitStatus) {f : Failure}
    (failed : (launched b s).result = .error (.failed f)) :
    inSession (.ok b) told s = ⟨.ok .unavailable, (launched b s).state,
      (launched b s).events ++ [.print (failureLine f)]⟩ := by
  have caught : (Run.attempt (upcoming b s).start s.withNew).result = .ok (.error (.failed f)) :=
    congrArg Except.ok failed
  show (Session.make b >>= _) s = _
  rw [Run.bind_of_silent _ (Session.make_apply b s), Run.bind_of_ok _ caught]
  rfl

/-- Any other fault of the start is one of the command. -/
theorem inSession_of_fault (told : Session σ → Run (Sessions σ) ExitStatus) {f : Fault}
    (broken : (launched b s).result = .error f) (other : ∀ g, f ≠ .failed g) :
    inSession (.ok b) told s = ⟨.error f, (launched b s).state, (launched b s).events⟩ := by
  have caught : (Run.attempt (upcoming b s).start s.withNew).result = .ok (.error f) :=
    congrArg Except.ok broken
  show (Session.make b >>= _) s = _
  rw [Run.bind_of_silent _ (Session.make_apply b s), Run.bind_of_ok _ caught]
  cases f with
  | failed g => exact absurd rfl (other g)
  | _ => exact congrArg (Outcome.mk _ _) (List.append_nil _)

/-- A command that ends in a status could not open its session, or its body has settled for the
status and the session has been finished. -/
theorem status_of_inSession {told : Session σ → Run (Sessions σ) ExitStatus} {status : ExitStatus}
    (ended : (inSession (.ok b) told s).result = .ok status) :
    status = .unavailable ∨
      (launched b s).result = .ok () ∧
        settled (told (upcoming b s) (launched b s).state).result = .ok status ∧
        (landed b s (told (upcoming b s) (launched b s).state).state).result = .ok () := by
  rcases opened : (launched b s).result with f | ⟨⟨⟩⟩
  · by_cases failed : ∃ g, f = .failed g
    · obtain ⟨g, rfl⟩ := failed
      rw [inSession_of_failed told opened] at ended
      -- What a failed start ends in is the one status that does not come from the body.
      cases ended
      exact .inl rfl
    · rw [inSession_of_fault told opened fun g same => failed ⟨g, same⟩] at ended
      cases ended
  · rw [(ends_inSession told opened).result] at ended
    rcases landing : (landed b s (told (upcoming b s) (launched b s).state).state).result with
      f | ⟨⟨⟩⟩
    · rw [landing] at ended
      cases ended
    · rw [landing] at ended
      exact .inr ⟨rfl, ended, rfl⟩

/-! ## Before the session -/

variable {c : Command} {m : Machine} {args : List String} {env : Environment} {options : Options}
  {settings : Settings Bool} {backend : Except Failure (Backend σ)}

/-- A command with accepted arguments, valid settings and a window is its session, as far as acts
and output go. -/
theorem run_of_accepted {window : Window} (accepted : c.options args = .ok options)
    (valid : env.settings = .ok settings) (effective : c.window options settings = .ok window)
    (s : Sessions σ) :
    (c.run m args env backend s).Alike
      (inSession backend (c.body m options window settings.advance) s) := by
  have executed : c.run m args env backend s = c.execute m options settings backend s := by
    unfold run
    rw [accepted, valid]
  have given : Run.ofExcept (σ := Sessions σ)
      ((c.window options settings).mapError Fault.badWindow) = pure window := by
    rw [effective]
    rfl
  rw [executed]
  refine Run.alike_bind rfl rfl rfl rfl ?_
  rw [given, pure_bind]
  -- A warning goes to the notes, which the outcomes may differ in.
  unfold warn
  split
  · exact Run.alike_bind rfl rfl rfl rfl (.refl _)
  · rw [pure_bind]
    exact .refl _

/-- Options that leave no window end a command before it opens its session. -/
theorem run_of_badWindow {error : Window.Error} (accepted : c.options args = .ok options)
    (valid : env.settings = .ok settings) (without : c.window options settings = .error error)
    (s : Sessions σ) :
    (c.run m args env backend s).Alike ⟨.error (.badWindow error), s, []⟩ := by
  have executed : c.run m args env backend s = c.execute m options settings backend s := by
    unfold run
    rw [accepted, valid]
  have missing : Run.ofExcept (σ := Sessions σ)
      ((c.window options settings).mapError Fault.badWindow) = Run.fault (.badWindow error) := by
    rw [without]
    rfl
  rw [executed]
  refine Run.alike_bind rfl rfl rfl rfl ?_
  rw [missing, Run.bind_of_silent_error _ (Run.fault_apply ..)]
  exact .refl _

end Command

end GpuTelemetry
