import GpuTelemetry.Proofs.Session.InStep

/-!
# Linked sessions

Two sessions with one number are linked with respect to a mirror if their backends are asked in
mirrored ways for everything but a shutdown (`Session.Linked`), where the mirror sees how far
sessions have come (`Mirror.Phased`). Linked sessions are in step, and they match.

Matching sessions need look alike only themselves, each on its backend (`Session.Matching`). They
start alike, and finish alike if what comes behind their closing does (`Session.farewell`). For
linked ones whole runs in sessions of their own then mirror each other (`Session.mirrors_within`).
-/

namespace GpuTelemetry

variable {σ τ α β : Type}

open Run (Mirrors)

/-- A mirror of sessions whose related states are in the same phases and stay related when a session
reaches a phase, when a backend becomes busy or idle, and when a session is made. -/
structure Mirror.Phased (m : Mirror (Sessions σ) (Sessions τ)) : Prop where
  note : ∀ n, m.events [.note n] [.note n]
  pause : ∀ seconds, m.events [.pause seconds] [.pause seconds]
  phase : ∀ s t, m.state s t → s.phase = t.phase
  busy : ∀ s t, m.state s t → s.busy = t.busy
  made : ∀ s t, m.state s t → s.made = t.made
  setPhase : ∀ s t id phase, m.state s t → m.state (s.setPhase id phase) (t.setPhase id phase)
  setBusy : ∀ s t id busy, m.state s t → m.state (s.setBusy id busy) (t.setBusy id busy)
  withNew : ∀ s t, m.state s t → m.state s.withNew t.withNew

/-- Sessions in the same phases, on backends in related states. -/
structure Sessions.Twin (R : σ → τ → Prop) (s : Sessions σ) (t : Sessions τ) : Prop where
  backends : R s.backends t.backends
  phase : s.phase = t.phase
  busy : s.busy = t.busy
  made : s.made = t.made

namespace Sessions.Twin

variable {s : Sessions σ} {t : Sessions τ}

theorem setPhase (twin : Twin R s t) (id : SessionId) (phase : Session.Phase) :
    Twin R (s.setPhase id phase) (t.setPhase id phase) :=
  ⟨twin.backends, by simp only [Sessions.setPhase, twin.phase], twin.busy, twin.made⟩

theorem setBusy (twin : Twin R s t) (id : BackendId) (busy : Bool) :
    Twin R (s.setBusy id busy) (t.setBusy id busy) :=
  ⟨twin.backends, twin.phase, by simp only [Sessions.setBusy, twin.busy], twin.made⟩

theorem withNew (twin : Twin R s t) : Twin R s.withNew t.withNew := by
  have grown := twin.setPhase s.made .fresh
  unfold Sessions.withNew
  rw [← twin.made]
  exact ⟨grown.backends, grown.phase, grown.busy, rfl⟩

end Sessions.Twin

/-- Whatever it sees in events, a mirror of sessions in the same phases sees how far they have
come. -/
theorem Sessions.phased_of_twins {R : σ → τ → Prop} {m : Mirror (Sessions σ) (Sessions τ)}
    (twins : ∀ s t, m.state s t ↔ Sessions.Twin R s t) (note : ∀ n, m.events [.note n] [.note n])
    (pause : ∀ seconds, m.events [.pause seconds] [.pause seconds]) : m.Phased where
  note := note
  pause := pause
  phase s t start := ((twins s t).mp start).phase
  busy s t start := ((twins s t).mp start).busy
  made s t start := ((twins s t).mp start).made
  setPhase s t id phase start := (twins _ _).mpr (((twins s t).mp start).setPhase id phase)
  setBusy s t id busy start := (twins _ _).mpr (((twins s t).mp start).setBusy id busy)
  withNew s t start := (twins _ _).mpr ((twins s t).mp start).withNew

/-- Two sessions that look alike to a mirror: they are in one phase and their backends both busy or
both idle, these can change on both sides, and they are started in mirrored ways. -/
structure Session.Matching (m : Mirror (Sessions σ) (Sessions τ)) (h : Session σ)
    (k : Session τ) : Prop where
  note : ∀ n, m.events [.note n] [.note n]
  named : h.backend.vendor = k.backend.vendor
  phase : ∀ s t, m.state s t → s.phase h.id = t.phase k.id
  busy : ∀ s t, m.state s t → s.busy h.backend.id = t.busy k.backend.id
  setPhase : ∀ s t phase, m.state s t → m.state (s.setPhase h.id phase) (t.setPhase k.id phase)
  setBusy : ∀ s t busy, m.state s t →
    m.state (s.setBusy h.backend.id busy) (t.setBusy k.backend.id busy)
  asked : Mirrors m Eq (h.backend.ask (some h.id) .start) (k.backend.ask (some k.id) .start)

/-- Two sessions with one number whose backends are asked in mirrored ways, shutdowns apart. -/
structure Session.Linked (m : Mirror (Sessions σ) (Sessions τ)) (h : Session σ) (k : Session τ) :
    Prop where
  phased : m.Phased
  number : h.id = k.id
  backend : h.backend.id = k.backend.id
  named : h.backend.vendor = k.backend.vendor
  asked : ∀ session request, request ≠ .shutdown →
    Mirrors m Eq (h.backend.ask session request) (k.backend.ask session request)

variable {m : Mirror (Sessions σ) (Sessions τ)}

namespace Session

/-- What is left of finishing a session when it has been closed. -/
def farewell (h : Session σ) : Run (Sessions σ) Unit := do
  match ← Run.attempt (h.backend.ask (some h.id) .shutdown) with
  | .ok () => Run.note (.closed h.backend.vendor)
  | .error (.refused (.declined reason)) => Run.note (.shutdownFailed h.backend.vendor reason)
  | .error other => Run.fault other

variable {h : Session σ} {k : Session τ}

namespace Matching

variable (matching : h.Matching m k)

include matching

theorem looked : Mirrors m Eq h.phase k.phase :=
  .look matching.phase

theorem requireOpen : Mirrors m Eq h.requireOpen k.requireOpen := by
  refine matching.looked.andThen fun phase => ?_
  cases phase with
  | opened => exact .pure rfl
  | fresh => exact .fault _
  | closed => exact .fault _

theorem vendor : Mirrors m Eq h.vendor k.vendor :=
  matching.requireOpen.andThen fun _ => .pure matching.named

theorem start : Mirrors m Eq h.start k.start := by
  unfold Session.start
  rw [matching.named]
  refine matching.looked.andThen fun phase => ?_
  cases phase with
  | opened => exact .fault _
  | closed => exact .fault _
  | fresh =>
      have get : Mirrors m m.state Run.get Run.get := .look fun _ _ start => start
      refine get.bind fun s t start => ?_
      rw [matching.busy s t start]
      split
      · exact .fault _
      · show Mirrors _ _ (Run.attempt _ >>= _) (Run.attempt _ >>= _)
        refine matching.asked.caught.andThen fun reply => ?_
        -- Both starts end alike, and both mark session and backend in the same way.
        split
        · refine Mirrors.andThen (.modify fun s t start => ?_) fun _ => .emit (matching.note _)
          exact matching.setBusy _ _ _ (matching.setPhase _ _ _ start)
        · refine Mirrors.andThen (.modify fun s t start => ?_) fun _ => .fault _
          exact matching.setPhase _ _ _ start
        · exact .fault _

theorem enter : Mirrors m Eq h.enter k.enter := by
  refine matching.looked.andThen fun phase => ?_
  cases phase with
  | opened => exact .pure rfl
  | fresh => exact matching.start
  | closed => exact matching.start

/-- Two sessions are finished alike if they are once they have been closed. -/
theorem finish_of_farewell (farewell : Mirrors m Eq h.farewell k.farewell) :
    Mirrors m Eq h.finish k.finish := by
  refine matching.looked.andThen fun phase => ?_
  cases phase with
  | fresh => exact .emit (matching.note _)
  | closed => exact .emit (matching.note _)
  | opened =>
      refine Mirrors.andThen (.modify fun s t start => ?_) fun _ => farewell
      exact matching.setBusy _ _ _ (matching.setPhase _ _ _ start)

/-- If the backends are asked to shut down in mirrored ways, the sessions are finished alike. -/
theorem finish (shutdown : Mirrors m Eq (h.backend.ask (some h.id) .shutdown)
    (k.backend.ask (some k.id) .shutdown)) : Mirrors m Eq h.finish k.finish := by
  apply matching.finish_of_farewell
  unfold Session.farewell
  rw [matching.named]
  refine shutdown.caught.andThen fun reply => ?_
  split
  · exact .emit (matching.note _)
  · exact .emit (matching.note _)
  · exact .fault _

end Matching

namespace Linked

variable (linked : h.Linked m k)

include linked

theorem matching : h.Matching m k where
  note := linked.phased.note
  named := linked.named
  phase s t start := by rw [linked.phased.phase s t start, linked.number]
  busy s t start := by rw [linked.phased.busy s t start, linked.backend]
  setPhase s t phase start := by
    rw [linked.number]
    exact linked.phased.setPhase _ _ _ _ start
  setBusy s t busy start := by
    rw [linked.backend]
    exact linked.phased.setBusy _ _ _ _ start
  asked := by
    rw [linked.number]
    exact linked.asked _ .start nofun

theorem ask {request : Request} (other : request ≠ .shutdown) :
    Mirrors m Eq (h.ask request) (k.ask request) := by
  refine linked.matching.requireOpen.andThen fun _ => ?_
  unfold Session.put
  rw [linked.number]
  exact linked.asked _ request other

theorem inStep : h.InStep m k where
  note := linked.phased.note
  pause := linked.phased.pause
  requireOpen := linked.matching.requireOpen
  ask request query := linked.ask (by rintro rfl; cases query)

end Linked

/-! ## Sessions of their own -/

/-- Two sessions with one number, each on one of two backends. -/
structure Beside (b : Backend σ) (c : Backend τ) (h : Session σ) (k : Session τ) : Prop where
  number : h.id = k.id
  first : h.backend = b
  second : k.backend = c

theorem Beside.eq {b : Backend σ} {h k : Session σ} (beside : Beside b b h k) : h = k := by
  obtain ⟨number, rfl, same⟩ := beside
  cases h
  cases k
  cases number
  cases same
  rfl

theorem mirrors_make_beside (phased : m.Phased) (b : Backend σ) (c : Backend τ) :
    Mirrors m (Beside b c) (make b) (make c) :=
  fun s t start => ⟨.ok ⟨phased.made s t start, rfl, rfl⟩, phased.withNew s t start, m.nothing⟩

/-- Runs in sessions of their own mirror each other if the sessions are linked and finish alike and
what is done in them does. -/
theorem mirrors_within (phased : m.Phased) {b : Backend σ} {c : Backend τ} {E : α → β → Prop}
    {body : Session σ → Run (Sessions σ) α} {other : Session τ → Run (Sessions τ) β}
    (each : ∀ h k, Beside b c h k →
      h.Linked m k ∧ Mirrors m Eq h.finish k.finish ∧ Mirrors m E (body h) (other k)) :
    Mirrors m E (within b body) (within c other) := by
  refine (mirrors_make_beside phased b c).bind fun h k beside => ?_
  obtain ⟨linked, finish, inside⟩ := each h k beside
  exact linked.matching.enter.andThen fun _ => inside.ensuring finish

end Session

end GpuTelemetry
