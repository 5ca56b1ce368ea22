import GpuTelemetry.Proofs.Moves

/-!
# What a session does

The operations of a session, case by case: what each of them calls, and in which state it leaves the
sessions. A request reaches the backend only while the session is open (`ask_of_opened`,
`ask_of_not_opened`), starting goes one of four ways (`Starting`), and finishing goes one of two
(`Finishing`). Later proofs split on these cases and open none of the operations.
-/

namespace GpuTelemetry

variable {σ : Type}

/-- The state after a backend was asked. -/
def Backend.asked (b : Backend σ) (request : Request) (s : Sessions σ) : Sessions σ :=
  { s with backends := (b.answer request s.backends).state }

@[simp] theorem Backend.phase_asked (b : Backend σ) (request : Request) (s : Sessions σ) :
    (b.asked request s).phase = s.phase := rfl

@[simp] theorem Backend.state_ask (b : Backend σ) (session : Option SessionId)
    (request : Request) (s : Sessions σ) : (b.ask session request s).state = b.asked request s :=
  rfl

namespace Sessions

@[simp] theorem phase_setPhase_self (id : SessionId) (phase : Session.Phase) (s : Sessions σ) :
    (s.setPhase id phase).phase id = phase := if_pos rfl

theorem phase_setPhase_of_ne {id other : SessionId} (phase : Session.Phase) (s : Sessions σ)
    (different : other ≠ id) : (s.setPhase id phase).phase other = s.phase other :=
  if_neg different

@[simp] theorem busy_setBusy_self (id : BackendId) (busy : Bool) (s : Sessions σ) :
    (s.setBusy id busy).busy id = busy := if_pos rfl

theorem busy_setBusy_of_ne {id other : BackendId} (busy : Bool) (s : Sessions σ)
    (different : other ≠ id) : (s.setBusy id busy).busy other = s.busy other :=
  if_neg different

@[simp] theorem phase_setBusy (id : BackendId) (busy : Bool) (s : Sessions σ) :
    (s.setBusy id busy).phase = s.phase := rfl

/-- The state after a session on a backend has been opened. -/
def opened (id : SessionId) (backend : BackendId) (s : Sessions σ) : Sessions σ :=
  (s.setPhase id .opened).setBusy backend true

/-- The state after the open session on a backend has been closed. -/
def closed (id : SessionId) (backend : BackendId) (s : Sessions σ) : Sessions σ :=
  (s.setPhase id .closed).setBusy backend false

/-- The state after a session has been made. -/
def withNew (s : Sessions σ) : Sessions σ :=
  { s.setPhase s.made .fresh with made := s.made + 1 }

@[simp] theorem phase_withNew_made (s : Sessions σ) : s.withNew.phase s.made = .fresh :=
  phase_setPhase_self ..

theorem phase_withNew_of_ne {id : SessionId} {s : Sessions σ} (different : id ≠ s.made) :
    s.withNew.phase id = s.phase id := phase_setPhase_of_ne _ _ different

@[simp] theorem busy_withNew (s : Sessions σ) : s.withNew.busy = s.busy := rfl

@[simp] theorem made_withNew (s : Sessions σ) : s.withNew.made = s.made + 1 := rfl

end Sessions

namespace Session

variable (h : Session σ) (s : Sessions σ)

/-- A call of a backend by its session. -/
def call (request : Request) (answered : Bool) : Call :=
  ⟨some h.id, h.backend.id, request, answered⟩

@[simp] theorem turns_call_iff (request : Request) (answered : Bool) (id : BackendId) :
    (h.call request answered).turns id = (h.backend.id == id && request.lifecycle) := rfl

/-- The session that is made next on a backend. -/
def upcoming (b : Backend σ) (s : Sessions σ) : Session σ := ⟨s.made, b⟩

@[simp] theorem make_apply (b : Backend σ) (s : Sessions σ) :
    make b s = ⟨.ok (upcoming b s), s.withNew, []⟩ := rfl

@[simp] theorem phase_apply : h.phase s = ⟨.ok (s.phase h.id), s, []⟩ := rfl

/-! ## Requests -/

theorem requireOpen_of_opened {h : Session σ} {s : Sessions σ} (isOpen : s.phase h.id = .opened) :
    h.requireOpen s = ⟨.ok (), s, []⟩ := by
  unfold requireOpen
  rw [Run.bind_of_silent _ (phase_apply h s), isOpen]
  rfl

theorem requireOpen_of_not_opened {h : Session σ} {s : Sessions σ}
    (shut : s.phase h.id ≠ .opened) :
    h.requireOpen s = ⟨.error (.notOpen (s.phase h.id)), s, []⟩ := by
  unfold requireOpen
  rw [Run.bind_of_silent _ (phase_apply h s)]
  cases phase : s.phase h.id with
  | opened => exact absurd phase shut
  | fresh => rfl
  | closed => rfl

/-- An open session hands its requests on. -/
theorem ask_of_opened {h : Session σ} {s : Sessions σ} (isOpen : s.phase h.id = .opened)
    (request : Request) : h.ask request s = h.backend.ask (some h.id) request s :=
  Run.bind_of_silent _ (requireOpen_of_opened isOpen)

/-- A session that is not open asks nothing. -/
theorem ask_of_not_opened {h : Session σ} {s : Sessions σ} (shut : s.phase h.id ≠ .opened)
    (request : Request) :
    h.ask request s = ⟨.error (.notOpen (s.phase h.id)), s, []⟩ :=
  Run.bind_of_silent_error _ (requireOpen_of_not_opened shut)

/-- Nor does it tell the vendor. -/
theorem vendor_of_not_opened {h : Session σ} {s : Sessions σ} (shut : s.phase h.id ≠ .opened) :
    h.vendor s = ⟨.error (.notOpen (s.phase h.id)), s, []⟩ :=
  Run.bind_of_silent_error _ (requireOpen_of_not_opened shut)

theorem vendor_of_opened {h : Session σ} {s : Sessions σ} (isOpen : s.phase h.id = .opened) :
    h.vendor s = ⟨.ok h.backend.vendor, s, []⟩ :=
  Run.bind_of_silent _ (requireOpen_of_opened isOpen)

/-! ## Starting -/

/-- The ways in which starting a session goes. -/
inductive Starting : Prop
  /-- The session is not fresh or its backend is busy: nothing is asked. -/
  | refused (fault : Fault) (misuse : s.phase h.id ≠ .fresh ∨ s.busy h.backend.id = true)
      (result : h.start s = ⟨.error fault, s, []⟩)
  | served (fresh : s.phase h.id = .fresh) (idle : s.busy h.backend.id = false)
      (reply : (h.backend.answer .start s.backends).result = .ok ())
      (result : (h.start s).result = .ok ())
      (state : (h.start s).state = (h.backend.asked .start s).opened h.id h.backend.id)
      (calls : (h.start s).calls = [h.call .start true])
  | declined (reason : String) (fresh : s.phase h.id = .fresh)
      (idle : s.busy h.backend.id = false)
      (reply : (h.backend.answer .start s.backends).result = .error (.declined reason))
      (result : (h.start s).result = .error (.failed (.startFailed h.backend.vendor reason)))
      (state : (h.start s).state = (h.backend.asked .start s).setPhase h.id .closed)
      (calls : (h.start s).calls = [h.call .start false])
  /-- The backend refuses otherwise: the session stays fresh. -/
  | broken (refusal : Refusal) (fresh : s.phase h.id = .fresh)
      (idle : s.busy h.backend.id = false) (other : ∀ reason, refusal ≠ .declined reason)
      (reply : (h.backend.answer .start s.backends).result = .error refusal)
      (result : (h.start s).result = .error (.refused refusal))
      (state : (h.start s).state = h.backend.asked .start s)
      (calls : (h.start s).calls = [h.call .start false])

/-- What becomes of a session when its backend has been asked to start. -/
private def settle (h : Session σ) : Except Fault Unit → Run (Sessions σ) Unit
  | .ok () => do
    Run.modify fun s => (s.setPhase h.id .opened).setBusy h.backend.id true
    Run.note (.opened h.backend.vendor)
  | .error (.refused (.declined reason)) => do
    Run.modify (·.setPhase h.id .closed)
    Run.fail (.startFailed h.backend.vendor reason)
  | .error other => Run.fault other

private theorem start_of_idle {h : Session σ} {s : Sessions σ} (fresh : s.phase h.id = .fresh)
    (idle : s.busy h.backend.id = false) :
    h.start s = (Run.attempt (h.backend.ask (some h.id) .start) >>= settle h) s := by
  unfold start
  rw [Run.bind_of_silent _ (phase_apply h s), fresh]
  show (Run.get >>= _) s = _
  rw [Run.bind_of_silent _ (Run.get_apply s), idle]
  rfl

/-- A session that is not fresh is not started. -/
theorem start_of_not_fresh {h : Session σ} {s : Sessions σ} (used : s.phase h.id ≠ .fresh) :
    h.start s = ⟨.error (.cannotStart (s.phase h.id)), s, []⟩ := by
  unfold start
  rw [Run.bind_of_silent _ (phase_apply h s)]
  cases phase : s.phase h.id with
  | fresh => exact absurd phase used
  | opened => rfl
  | closed => rfl

/-- Nor is one on a busy backend. -/
theorem start_of_busy {h : Session σ} {s : Sessions σ} (fresh : s.phase h.id = .fresh)
    (busy : s.busy h.backend.id = true) :
    h.start s = ⟨.error (.alreadyOpen h.backend.vendor), s, []⟩ := by
  unfold start
  rw [Run.bind_of_silent _ (phase_apply h s), fresh]
  show (Run.get >>= _) s = _
  rw [Run.bind_of_silent _ (Run.get_apply s), busy]
  rfl

theorem starting : h.Starting s := by
  by_cases fresh : s.phase h.id = .fresh
  · cases idle : s.busy h.backend.id with
    | true => exact .refused (.alreadyOpen h.backend.vendor) (.inr idle) (start_of_busy fresh idle)
    | false =>
        -- The backend is asked, and everything else depends on its reply.
        have split := start_of_idle fresh idle
        have asked : (Run.attempt (h.backend.ask (some h.id) .start) s).result =
            .ok ((h.backend.answer .start s.backends).result.mapError .refused) := rfl
        have calls := calls_ask h.backend (some h.id) .start s
        rcases reply : (h.backend.answer .start s.backends).result with refusal | ⟨⟨⟩⟩
        · rw [reply] at asked calls
          by_cases declined : ∃ reason, refusal = .declined reason
          · obtain ⟨reason, rfl⟩ := declined
            refine .declined reason fresh idle reply ?_ ?_ ?_
            · rw [split, Run.bind_of_ok _ asked]; rfl
            · rw [split, Run.bind_of_ok _ asked]; rfl
            · rw [split, Run.calls_bind_of_ok _ asked]
              exact congrArg (· ++ []) calls
          · have other : settle h (.error (.refused refusal)) = Run.fault (.refused refusal) := by
              cases refusal with
              | declined reason => exact absurd ⟨reason, rfl⟩ declined
              | _ => rfl
            have next : settle h (Except.mapError .refused (.error refusal : Except _ Unit)) =
                Run.fault (.refused refusal) := other
            refine .broken refusal fresh idle (fun reason eq => declined ⟨reason, eq⟩) reply
              ?_ ?_ ?_
            · rw [split, Run.bind_of_ok _ asked, next]; rfl
            · rw [split, Run.bind_of_ok _ asked, next]; rfl
            · rw [split, Run.calls_bind_of_ok _ asked, next]
              exact congrArg (· ++ []) calls
        · rw [reply] at asked calls
          refine .served fresh idle reply ?_ ?_ ?_
          · rw [split, Run.bind_of_ok _ asked]; rfl
          · rw [split, Run.bind_of_ok _ asked]; rfl
          · rw [split, Run.calls_bind_of_ok _ asked]
            exact congrArg (· ++ []) calls
  · exact .refused (.cannotStart (s.phase h.id)) (.inl fresh) (start_of_not_fresh fresh)

/-- An open session is entered as it is. -/
theorem enter_of_opened {h : Session σ} {s : Sessions σ} (isOpen : s.phase h.id = .opened) :
    h.enter s = ⟨.ok (), s, []⟩ := by
  unfold enter
  rw [Run.bind_of_silent _ (phase_apply h s), isOpen]
  rfl

/-- Any other session is started when it is entered. -/
theorem enter_of_not_opened {h : Session σ} {s : Sessions σ} (shut : s.phase h.id ≠ .opened) :
    h.enter s = h.start s := by
  unfold enter
  rw [Run.bind_of_silent _ (phase_apply h s)]
  cases phase : s.phase h.id with
  | opened => exact absurd phase shut
  | fresh => rfl
  | closed => rfl

/-- However a session moves when it is started, it does so when it is entered. -/
theorem follows_enter {m : Moves (Sessions σ)} {h : Session σ} (start : h.start.Follows m) :
    h.enter.Follows m := by
  intro s
  by_cases isOpen : s.phase h.id = .opened
  · rw [enter_of_opened isOpen]
    exact m.stay s
  · rw [enter_of_not_opened isOpen]
    exact start s

/-- A new session is started when it is entered. -/
theorem enter_upcoming (b : Backend σ) (s : Sessions σ) :
    (upcoming b s).enter s.withNew = (upcoming b s).start s.withNew := by
  apply enter_of_not_opened
  show s.withNew.phase s.made ≠ .opened
  rw [Sessions.phase_withNew_made]
  exact Phase.noConfusion

/-- A new session is fresh, so only a busy backend has its start refused. -/
theorem admissible_upcoming {b : Backend σ} {s : Sessions σ} (idle : s.busy b.id = false) :
    ¬ (s.withNew.phase (upcoming b s).id ≠ .fresh ∨
      s.withNew.busy (upcoming b s).backend.id = true) := by
  rintro (stale | busy)
  · exact stale s.phase_withNew_made
  · rw [Sessions.busy_withNew] at busy
    exact Bool.false_ne_true (idle.symm.trans busy)

/-! ## Finishing -/

/-- The ways in which finishing a session goes. -/
inductive Finishing : Prop
  /-- The session is not open: nothing is asked. -/
  | ignored (shut : s.phase h.id ≠ .opened)
      (result : h.finish s = ⟨.ok (), s, [.note (.closeIgnored (s.phase h.id))]⟩)
  /-- The backend is asked to shut down, and the session is closed whatever it answers. If it
  declines, nobody is told. -/
  | closed (isOpen : s.phase h.id = .opened)
      (result : (∀ refusal, (h.backend.answer .shutdown s.backends).result = .error refusal →
        ∃ reason, refusal = .declined reason) → (h.finish s).result = .ok ())
      (state : (h.finish s).state = (h.backend.asked .shutdown s).closed h.id h.backend.id)
      (calls : (h.finish s).calls =
        [h.call .shutdown (h.backend.answer .shutdown s.backends).result.isOk])

/-- What becomes of a session when its backend has been asked to shut down. -/
private def conclude (h : Session σ) : Except Fault Unit → Run (Sessions σ) Unit
  | .ok () => Run.note (.closed h.backend.vendor)
  | .error (.refused (.declined reason)) => Run.note (.shutdownFailed h.backend.vendor reason)
  | .error other => Run.fault other

private theorem conclude_idle (h : Session σ) (result : Except Fault Unit) (s : Sessions σ) :
    (conclude h result s).state = s ∧ (conclude h result s).calls = [] := by
  unfold conclude
  split <;> exact ⟨rfl, rfl⟩

/-- The session is closed before its backend is asked, so no reply can leave it open. -/
private theorem finish_of_opened {h : Session σ} {s : Sessions σ}
    (isOpen : s.phase h.id = .opened) :
    h.finish s = (Run.attempt (h.backend.ask (some h.id) .shutdown) >>= conclude h)
      (s.closed h.id h.backend.id) := by
  unfold finish
  rw [Run.bind_of_silent _ (phase_apply h s), isOpen]
  exact Run.bind_of_silent _ (Run.modify_apply _ s)

theorem finish_of_not_opened {h : Session σ} {s : Sessions σ} (shut : s.phase h.id ≠ .opened) :
    h.finish s = ⟨.ok (), s, [.note (.closeIgnored (s.phase h.id))]⟩ := by
  unfold finish
  rw [Run.bind_of_silent _ (phase_apply h s)]
  cases phase : s.phase h.id with
  | opened => exact absurd phase shut
  | fresh => rfl
  | closed => rfl

theorem finishing : h.Finishing s := by
  by_cases isOpen : s.phase h.id = .opened
  · have split := finish_of_opened isOpen
    have asked : (Run.attempt (h.backend.ask (some h.id) .shutdown)
        (s.closed h.id h.backend.id)).result =
          .ok ((h.backend.answer .shutdown s.backends).result.mapError .refused) := rfl
    have idle := conclude_idle h ((h.backend.answer .shutdown s.backends).result.mapError .refused)
      (h.backend.asked .shutdown (s.closed h.id h.backend.id))
    have calls := calls_ask h.backend (some h.id) .shutdown (s.closed h.id h.backend.id)
    -- The session is marked as closed before the backend is asked, whatever that then answers.
    refine .closed isOpen ?_ ?_ ?_
    · intro declines
      rw [split, Run.bind_of_ok _ asked]
      rcases reply : (h.backend.answer .shutdown s.backends).result with refusal | ⟨⟨⟩⟩
      · obtain ⟨reason, rfl⟩ := declines refusal reply
        rfl
      · rfl
    · rw [split, Run.bind_of_ok _ asked]
      exact idle.1
    · rw [split, Run.calls_bind_of_ok _ asked]
      show callsOf _ ++ (conclude h _ _).calls = _
      rw [Run.state_attempt, Backend.state_ask, idle.2, List.append_nil]
      exact calls
  · exact .ignored isOpen (finish_of_not_opened isOpen)

/-- If finishing a session ends in a fault at all, the backend refused to shut down. -/
theorem refusal_of_finish {h : Session σ} {s : Sessions σ} {f : Fault}
    (failed : (h.finish s).result = .error f) : ∃ refusal, f = .refused refusal := by
  by_cases isOpen : s.phase h.id = .opened
  · have asked : (Run.attempt (h.backend.ask (some h.id) .shutdown)
        (s.closed h.id h.backend.id)).result =
          .ok ((h.backend.answer .shutdown s.backends).result.mapError .refused) := rfl
    rw [finish_of_opened isOpen, Run.bind_of_ok _ asked] at failed
    rcases reply : (h.backend.answer .shutdown s.backends).result with refusal | ⟨⟨⟩⟩
    · rw [reply] at failed
      -- A refusal in words is only noted.
      cases refusal with
      | declined reason => cases failed
      | _ => exact ⟨_, (Except.error.inj failed).symm⟩
    · rw [reply] at failed
      cases failed
  · rw [finish_of_not_opened isOpen] at failed
    cases failed

/-- A run in a session of its own enters a new session and finishes it. -/
theorem within_apply {α : Type} (b : Backend σ) (body : Session σ → Run (Sessions σ) α)
    (s : Sessions σ) :
    within b body s =
      ((upcoming b s).enter >>= fun _ =>
        Run.ensuring (body (upcoming b s)) (upcoming b s).finish) s.withNew :=
  Run.bind_of_silent _ (make_apply b s)

end Session

/-! ## Closed for good -/

/-- The moves that open none of the sessions that have been closed, and forget none. -/
def Moves.closing : Moves (Sessions σ) where
  rel s _ t := s.made ≤ t.made ∧ ∀ id < s.made, s.phase id = .closed → t.phase id = .closed
  stay s := ⟨Nat.le_refl _, fun _ _ closed => closed⟩
  join := by
    rintro s t u first second ⟨grown, kept⟩ ⟨grown', kept'⟩
    exact ⟨Nat.le_trans grown grown', fun id made closed =>
      kept' id (Nat.lt_of_lt_of_le made grown) (kept id made closed)⟩

namespace Session

/-- Only a fresh session is started. -/
theorem closing_start (h : Session σ) : h.start.Follows .closing := by
  intro s
  have others : s.phase h.id = .fresh → ∀ id phase, s.phase id = .closed →
      (s.setPhase h.id phase).phase id = .closed := by
    intro fresh id phase closed
    -- A closed session is not fresh, and so not the one that is started.
    have apart : id ≠ h.id := by
      intro same
      rw [same, fresh] at closed
      cases closed
    rw [Sessions.phase_setPhase_of_ne phase s apart]
    exact closed
  cases h.starting s with
  | refused fault misuse result =>
      rw [result]
      exact Moves.closing.stay s
  | served fresh idle reply result state calls =>
      rw [state]
      exact ⟨Nat.le_refl _, fun id _ closed => others fresh id _ closed⟩
  | declined reason fresh idle reply result state calls =>
      rw [state]
      exact ⟨Nat.le_refl _, fun id _ closed => others fresh id _ closed⟩
  | broken refusal fresh idle other reply result state calls =>
      rw [state]
      exact Moves.closing.stay s

/-- Finishing a session leaves it closed, and all others as they are. -/
theorem closing_finish (h : Session σ) : h.finish.Follows .closing := by
  intro s
  cases h.finishing s with
  | ignored shut result =>
      rw [result]
      exact Moves.closing.stay s
  | closed isOpen result state calls =>
      rw [state]
      refine ⟨Nat.le_refl _, fun id _ closed => ?_⟩
      show (s.setPhase h.id .closed).phase id = .closed
      by_cases same : id = h.id
      · rw [same]
        exact s.phase_setPhase_self h.id .closed
      · rw [Sessions.phase_setPhase_of_ne _ s same]
        exact closed

end Session

end GpuTelemetry
