import GpuTelemetry.Proofs.Session.Steps
import GpuTelemetry.Sampler

/-!
# One check for an operation

An operation of several requests finds out at its head whether its session is open. Nothing that it
does closes the session, so its later requests find the session open as well, and the operation does
what it would do if the session were looked at before each of them: looking up a device
(`Session.resolveBelow_eq_asks`) and averaging (`Sampler.average_eq_asks`).

Later proofs open these two operations in this form, in which every request is checked.
-/

namespace GpuTelemetry

variable {σ : Type}

namespace Session

variable {h : Session σ} {s : Sessions σ}

/-- While a session is open, its requests need no check. -/
theorem put_of_opened (isOpen : s.phase h.id = .opened) (request : Request) :
    h.put request s = h.ask request s :=
  (ask_of_opened isOpen request).symm

/-- A request leaves every session in its phase. -/
theorem phase_put (request : Request) (failure : String → Failure) :
    (Run.orFail (h.put request) failure s).state.phase = s.phase := by
  rw [(Run.orFail_apply _ failure s).1]
  rfl

/-- Behind a check at the head, all that matters is what is done in an open session. Without an open
session there has to be a check in its place. -/
theorem requireOpen_bind {α : Type} {body checked : Run (Sessions σ) α}
    (same : ∀ s, s.phase h.id = .opened → body s = checked s)
    (stops : ∀ s, s.phase h.id ≠ .opened →
      checked s = ⟨.error (.notOpen (s.phase h.id)), s, []⟩) :
    (h.requireOpen >>= fun _ => body) = checked := by
  apply Run.ext
  intro s
  by_cases isOpen : s.phase h.id = .opened
  · rw [Run.bind_of_silent _ (requireOpen_of_opened isOpen), same s isOpen]
  · rw [Run.bind_of_silent_error _ (requireOpen_of_not_opened isOpen), stops s isOpen]

/-- A session that is not open asks nothing, whatever would become of a refusal. -/
theorem query_of_not_opened (shut : s.phase h.id ≠ .opened) (request : Request)
    (failure : String → Failure) :
    Run.orFail (h.ask request) failure s = ⟨.error (.notOpen (s.phase h.id)), s, []⟩ := by
  unfold Run.orFail
  rw [ask_of_not_opened shut]

/-- Looking up a device with a check before each request. -/
theorem resolveBelow_eq_asks (h : Session σ) (count index : Int) :
    h.resolveBelow count index =
      if index < 0 ∨ count ≤ index then Run.fault (missing index count)
      else
        Run.orFail (h.ask (.handleAt index)) (.handleFailed index) >>= fun native =>
          Run.orFail (h.ask (.nameOf native)) (.nameFailed index) >>= accept index native := by
  unfold resolveBelow
  split
  · rfl
  · refine requireOpen_bind (fun s isOpen => ?_) fun s shut =>
      Run.bind_of_silent_error _ (query_of_not_opened shut _ _)
    rw [Run.bind_congr _ (Run.orFail_congr _ (put_of_opened isOpen _))]
    refine Run.bind_congr_behind fun native _ => Run.bind_congr _ (Run.orFail_congr _ ?_)
    -- The request for the handle has left the session open.
    refine put_of_opened ?_ _
    rw [← Run.orFail_congr _ (put_of_opened isOpen _), phase_put]
    exact isOpen

end Session

namespace Sampler

open Session

variable {s : Sampler σ} {t : Sessions σ}

theorem latest_put (isOpen : t.phase s.session.id = .opened) (device : Device) (metric : Metric)
    (cursor : Int) :
    latest s.session.put device metric cursor t = latest s.session.ask device metric cursor t :=
  Run.bind_congr _ (Run.orFail_congr _ (put_of_opened isOpen _))

/-- Taking a sample leaves every session in its phase. -/
theorem phase_latest_put (device : Device) (metric : Metric) (cursor : Int) :
    (latest s.session.put device metric cursor t).state.phase = t.phase := by
  unfold latest
  have kept := phase_put (h := s.session) (s := t) (.samplesOf device.native metric cursor)
    (.samplesFailed metric device.index)
  rcases result : (Run.orFail (s.session.put (.samplesOf device.native metric cursor))
      (.samplesFailed metric device.index) t).result with f | samples
  · rw [Run.bind_of_error _ result]
    exact kept
  · rw [Run.bind_of_ok _ result, ← kept]
    cases Sample.latest? samples <;> rfl

/-- The rounds of an open session need no checks. -/
theorem total_put (device : Device) (metric : Metric) (window : Window) (left : Nat)
    (cursor sum : Int) (isOpen : t.phase s.session.id = .opened) :
    s.total s.session.put device metric window left cursor sum t =
      s.total s.session.ask device metric window left cursor sum t := by
  induction left generalizing cursor sum t with
  | zero => rfl
  | succ left ih =>
      unfold total
      rw [← Run.bind_congr _ (latest_put isOpen device metric cursor)]
      refine Run.bind_congr_behind fun sample _ => Run.bind_congr_behind fun _ _ =>
        Run.bind_congr_behind fun _ _ => ih _ _ ?_
      -- Neither the note nor the pause changes anything.
      have idle : ∀ u : Sessions σ, (pauseBefore window left u).state = u := by
        intro u
        cases left <;> rfl
      rw [idle]
      show (latest s.session.put device metric cursor t).state.phase s.session.id = .opened
      rw [phase_latest_put]
      exact isOpen

/-- Averaging with a check before each request. -/
theorem average_eq_asks (s : Sampler σ) (device : Device) (metric : Metric) (window : Window) :
    s.average device metric window =
      if metric.averaged then do
        let sum ← s.total s.session.ask device metric window window.count 0 0
        return Int.fdiv sum window.count
      else Run.fault (.notSampled metric) := by
  unfold average
  split
  · refine requireOpen_bind (fun t isOpen => ?_) fun t shut => ?_
    · exact Run.bind_congr _ (total_put device metric window window.count 0 0 isOpen)
    · -- A window has a first round, and its request is not made.
      obtain ⟨left, rounds⟩ : ∃ left, window.count = left + 1 :=
        ⟨window.count - 1, by have := window.count_pos; omega⟩
      rw [rounds]
      refine Run.bind_of_silent_error _ (Run.bind_of_silent_error _ ?_)
      exact Run.bind_of_silent_error _ (query_of_not_opened shut _ _)
  · rfl

end Sampler

end GpuTelemetry
