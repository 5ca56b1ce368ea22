import GpuTelemetry.Proofs.Output
import GpuTelemetry.Proofs.Session.Linked

/-!
# Twins

A backend that may decline to shut down, and its twin, which never does and is the same otherwise
(`Backend.Twin`). A session on the one mirrors a session on the other: it gives the same results and
goes through the same phases, and its events are the same but for the shutdowns that were declined.
Such a shutdown leaves a warning where the other one leaves the note that the session was closed
(`Forgives`).

Main statements: `Session.Twin.linked`, and `Session.Twin.finish`, where the two sessions may part
and do not.
-/

namespace GpuTelemetry

variable {σ τ α β γ : Type}

/-! ## Events -/

/-- A shutdown that was declined. -/
def Event.deniesShutdown : Event → Bool
  | .call _ _ .shutdown answered => !answered
  | _ => false

/-- A call without what became of it: who asked which backend for what. -/
def Event.sent? : Event → Option (Option SessionId × BackendId × Request)
  | .call session backend request _ => some (session, backend, request)
  | _ => none

/-- A note of the level of warnings. -/
def Event.warns : Event → Bool
  | .note n => n.level == .warning
  | _ => false

/-- The events of two runs that are the same, except that shutdowns which were declined in the first
run were not in the second: a warning of the first then stands in the place of a note of the second
that the session was closed. -/
inductive Forgives : List Event → List Event → Prop
  | nil : Forgives [] []
  | same {e : Event} {l k : List Event} (served : e.deniesShutdown = false)
      (rest : Forgives l k) : Forgives (e :: l) (e :: k)
  | forgiven {l k : List Event} (session : Option SessionId) (backend : BackendId)
      (notes : List Note) (vendor reason : String) (rest : Forgives l k) :
      Forgives
        (.call session backend .shutdown false ::
          (notes.map .note ++ .note (.shutdownFailed vendor reason) :: l))
        (.call session backend .shutdown true ::
          (notes.map .note ++ .note (.closed vendor) :: k))

namespace Forgives

variable {l k l' k' : List Event}

theorem refl (served : ∀ e ∈ l, e.deniesShutdown = false) : Forgives l l := by
  induction l with
  | nil => exact .nil
  | cons e rest ih =>
      exact .same (served e List.mem_cons_self)
        (ih fun other member => served other (List.mem_cons_of_mem e member))

theorem append (one : Forgives l k) (two : Forgives l' k') : Forgives (l ++ l') (k ++ k') := by
  induction one with
  | nil => exact two
  | same served rest ih => exact .same served ih
  | forgiven session backend notes vendor reason rest ih =>
      simp only [List.cons_append, List.append_assoc]
      exact .forgiven session backend notes vendor reason ih

/-- Whoever looks neither at what becomes of a shutdown nor at notes sees no difference. -/
theorem filterMap_eq {view : Event → Option γ} (forgives : Forgives l k)
    (calls : ∀ session backend, view (.call session backend .shutdown false) =
      view (.call session backend .shutdown true))
    (notes : ∀ note, view (.note note) = none) : l.filterMap view = k.filterMap view := by
  induction forgives with
  | nil => rfl
  | same served rest ih => rw [List.filterMap_cons, List.filterMap_cons, ih]
  | forgiven session backend left vendor reason rest ih =>
      have silent : (left.map Event.note).filterMap view = [] := by
        simp [List.filterMap_map, notes]
      simp only [List.filterMap_cons, List.filterMap_append, calls, silent, notes, ih,
        List.nil_append]

/-- In the second run no shutdown was declined. -/
theorem none_denied (forgives : Forgives l k) : ∀ e ∈ k, e.deniesShutdown = false := by
  induction forgives with
  | nil => exact nofun
  | same served rest ih => exact List.forall_mem_cons.mpr ⟨served, ih⟩
  | forgiven session backend left vendor reason rest ih =>
      simpa [or_imp, forall_and, Event.deniesShutdown] using ih

/-- In the first run there is a warning more for each shutdown that was declined. -/
theorem warnings (forgives : Forgives l k) :
    l.countP Event.warns = k.countP Event.warns + l.countP Event.deniesShutdown := by
  induction forgives with
  | nil => rfl
  | same served rest ih =>
      simp only [List.countP_cons, ih, if_neg (Bool.eq_false_iff.mp served)]
      omega
  | forgiven session backend left vendor reason rest ih =>
      have silent : (left.map Event.note).countP Event.deniesShutdown = 0 := by
        simp [Event.deniesShutdown]
      -- The notes of the backend are the same in both runs, and cancel out.
      simp only [List.countP_cons, List.countP_append, silent, ih]
      simp [Event.warns, Event.deniesShutdown, Note.level]
      omega

end Forgives

/-- The mirror of a relation of states and of events that forgive declined shutdowns. -/
def Mirror.forgiving (related : σ → τ → Prop) : Mirror σ τ where
  state := related
  events := Forgives
  nothing := .nil
  join := .append

/-- Both runs cause the same event, which is no declined shutdown. -/
theorem Run.Mirrors.same {related : σ → τ → Prop} {e : Event} (served : e.deniesShutdown = false) :
    Run.Mirrors (.forgiving related) Eq (Run.emit e) (Run.emit e) :=
  .emit (.same served .nil)

/-! ## Backends -/

/-- A backend and its twin, on states of their own, of which the relation is kept. They react to
every request in the same way, but the first may decline to shut down. -/
structure Backend.Twin (R : σ → τ → Prop) (b : Backend σ) (c : Backend τ) : Prop where
  id : b.id = c.id
  vendor : b.vendor = c.vendor
  result : ∀ request, request ≠ .shutdown → ∀ x y, R x y →
    (b.answer request x).result = (c.answer request y).result
  farewell : ∀ x y, R x y → (c.answer .shutdown y).result = .ok () ∧
    ((b.answer .shutdown x).result = .ok () ∨
      ∃ reason, (b.answer .shutdown x).result = .error (.declined reason))
  notes : ∀ request x y, R x y → (b.answer request x).notes = (c.answer request y).notes
  state : ∀ request x y, R x y → R (b.answer request x).state (c.answer request y).state

/-- Two sessions with the same number, on twins. -/
structure Session.Twin (R : σ → τ → Prop) (h : Session σ) (k : Session τ) : Prop where
  id : h.id = k.id
  backend : h.backend.Twin R k.backend

open Run (Mirrors)

variable {R : σ → τ → Prop}

/-- The mirror of sessions on twins. -/
abbrev Sessions.mirror (R : σ → τ → Prop) : Mirror (Sessions σ) (Sessions τ) :=
  .forgiving (Sessions.Twin R)

theorem Sessions.phased_mirror (R : σ → τ → Prop) : (Sessions.mirror R).Phased :=
  Sessions.phased_of_twins (fun _ _ => .rfl) (fun _ => .same rfl .nil) fun _ => .same rfl .nil

/-- A backend is asked, and whatever it replies is caught. -/
theorem Backend.attempt_ask {b : Backend σ} (session : Option SessionId) {request : Request}
    {s : Sessions σ} {reply : Except Refusal request.Answer}
    (given : (b.answer request s.backends).result = reply) :
    Run.attempt (b.ask session request) s =
      ⟨.ok (reply.mapError .refused), b.asked request s,
        .call session b.id request reply.isOk ::
          (b.answer request s.backends).notes.map .note⟩ := by
  subst given
  rfl

theorem Backend.Twin.asked {b : Backend σ} {c : Backend τ} (twin : b.Twin R c) (request : Request)
    {s : Sessions σ} {t : Sessions τ} (start : Sessions.Twin R s t) :
    Sessions.Twin R (b.asked request s) (c.asked request t) :=
  ⟨twin.state request _ _ start.backends, start.phase, start.busy, start.made⟩

/-- Twins are asked in the same way for anything but a shutdown. -/
theorem Backend.Twin.ask {b : Backend σ} {c : Backend τ} (twin : b.Twin R c)
    (session : Option SessionId) {request : Request} (other : request ≠ .shutdown) :
    Mirrors (Sessions.mirror R) Eq (b.ask session request) (c.ask session request) := by
  intro s t start
  have result := twin.result request other _ _ start.backends
  have notes := twin.notes request _ _ start.backends
  refine ⟨?_, twin.asked request start, ?_⟩
  · show Matched Eq ((b.answer request s.backends).result.mapError Fault.refused)
      ((c.answer request t.backends).result.mapError Fault.refused)
    rw [result]
    exact .refl (fun _ => rfl) _
  · show Forgives
      (.call session b.id request (b.answer request s.backends).result.isOk ::
        (b.answer request s.backends).notes.map .note)
      (.call session c.id request (c.answer request t.backends).result.isOk ::
        (c.answer request t.backends).notes.map .note)
    -- Call and notes are the same on both sides, and none of them is a shutdown that was declined.
    rw [twin.id, result, notes]
    refine .same ?_ (.refl (by simp [Event.deniesShutdown]))
    cases request with
    | shutdown => exact absurd rfl other
    | _ => rfl

/-! ## Sessions -/

namespace Session

namespace Twin

variable {h : Session σ} {k : Session τ}

theorem of_beside {b : Backend σ} {c : Backend τ} (twin : b.Twin R c) (beside : Beside b c h k) :
    Twin R h k := by
  obtain ⟨number, rfl, rfl⟩ := beside
  exact ⟨number, twin⟩

variable (twin : h.Twin R k)

include twin

/-- Sessions on twins are linked. -/
theorem linked : h.Linked (Sessions.mirror R) k where
  phased := Sessions.phased_mirror R
  number := twin.id
  backend := twin.backend.id
  named := twin.backend.vendor
  asked session _ other := twin.backend.ask session other

/-- A session is finished in the same way, whether its backend shuts down or not. -/
theorem finish : Mirrors (Sessions.mirror R) Eq h.finish k.finish := by
  apply twin.linked.matching.finish_of_farewell
  unfold farewell
  rw [twin.id, twin.backend.vendor]
  intro s t start
  obtain ⟨served, reply⟩ := twin.backend.farewell _ _ start.backends
  have notes := twin.backend.notes .shutdown _ _ start.backends
  have state := twin.backend.asked .shutdown start
  have second := Backend.attempt_ask (some k.id) served
  -- Only here can the two runs part: the twin always shuts down.
  rcases reply with well | ⟨reason, declined⟩
  · have first := Backend.attempt_ask (some k.id) well
    rw [Run.bind_of_ok (a := .ok ()) _ (by rw [first]; rfl),
      Run.bind_of_ok (a := .ok ()) _ (by rw [second]; rfl), first, second]
    refine ⟨.ok rfl, state, ?_⟩
    rw [twin.backend.id, notes]
    exact .append (.same rfl (.refl (by simp [Event.deniesShutdown]))) (.same rfl .nil)
  · have first := Backend.attempt_ask (some k.id) declined
    rw [Run.bind_of_ok (a := .error (.refused (.declined reason))) _ (by rw [first]; rfl),
      Run.bind_of_ok (a := .ok ()) _ (by rw [second]; rfl), first, second]
    refine ⟨.ok rfl, state, ?_⟩
    rw [twin.backend.id, notes]
    exact .forgiven (some k.id) k.backend.id _ _ reason .nil

end Twin

theorem mirrors_make {b : Backend σ} {c : Backend τ} (twin : b.Twin R c) :
    Mirrors (Sessions.mirror R) (Twin R) (make b) (make c) :=
  (mirrors_make_beside (Sessions.phased_mirror R) b c).mono fun _ _ => .of_beside twin

end Session

/-- A collection from a backend mirrors one from its twin. -/
theorem mirrors_collect {b : Backend σ} {c : Backend τ} (twin : b.Twin R c) (metric : Metric)
    (index? : Option Int) (window? : Option Window) (advance : Bool) :
    Mirrors (Sessions.mirror R) Eq (collect b metric index? window? advance)
      (collect c metric index? window? advance) := by
  refine Session.mirrors_within (Sessions.phased_mirror R) fun h k beside => ?_
  have same := Session.Twin.of_beside twin beside
  have step := same.linked.inStep
  refine ⟨same.linked, same.finish, step.countDevices.andThen fun count => ?_⟩
  refine Indices.mirrors_visit (fun index => ?_) _
  exact step.report ⟨step, rfl, rfl⟩ metric count index

end GpuTelemetry
