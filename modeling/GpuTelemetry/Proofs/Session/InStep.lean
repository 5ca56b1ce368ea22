import GpuTelemetry.Proofs.Collection.Course
import GpuTelemetry.Proofs.Mirror

/-!
# Sessions in step

Two sessions are in step with respect to a mirror if their requests mirror each other, except for
those by which they are started and finished (`Session.InStep`). Then so does everything that is
done with requests: counting and looking up devices, sampling them, and reading feeds.

Main statements: `Session.InStep.report` and `Feed.Paired.next`.
-/

namespace GpuTelemetry

variable {σ τ α : Type}

open Run (Mirrors)

/-- Two sessions whose requests mirror each other. -/
structure Session.InStep (m : Mirror (Sessions σ) (Sessions τ)) (h : Session σ) (k : Session τ) :
    Prop where
  note : ∀ n, m.events [.note n] [.note n]
  pause : ∀ seconds, m.events [.pause seconds] [.pause seconds]
  requireOpen : Mirrors m Eq h.requireOpen k.requireOpen
  ask : ∀ request, request.lifecycle = false → Mirrors m Eq (h.ask request) (k.ask request)

/-- Two samplers with the same settings on related sessions. -/
structure Sampler.Paired (P : Session σ → Session τ → Prop) (s : Sampler σ) (r : Sampler τ) :
    Prop where
  session : P s.session r.session
  window : s.window = r.window
  advance : s.advance = r.advance

/-- Two feeds in the same stage on related sessions. -/
structure Feed.Paired (P : Session σ → Session τ → Prop) (f : Feed σ) (g : Feed τ) : Prop where
  session : P f.session g.session
  sampler : f.sampler.Paired P g.sampler
  metric : f.metric = g.metric
  stage : f.stage = g.stage

theorem Sampler.Paired.mono {P Q : Session σ → Session τ → Prop} {s : Sampler σ} {r : Sampler τ}
    (paired : s.Paired P r) (weaker : ∀ h k, P h k → Q h k) : s.Paired Q r :=
  ⟨weaker _ _ paired.session, paired.window, paired.advance⟩

theorem Feed.Paired.mono {P Q : Session σ → Session τ → Prop} {f : Feed σ} {g : Feed τ}
    (paired : f.Paired P g) (weaker : ∀ h k, P h k → Q h k) : f.Paired Q g :=
  ⟨weaker _ _ paired.session, paired.sampler.mono weaker, paired.metric, paired.stage⟩

variable {m : Mirror (Sessions σ) (Sessions τ)}

/-- Visits of the same indices mirror each other if each of them does. -/
theorem Indices.mirrors_visit {visit : Int → Run (Sessions σ) α} {other : Int → Run (Sessions τ) α}
    (one : ∀ index, Mirrors m Eq (visit index) (other index)) (indices : Indices) :
    Mirrors m Eq (indices.visit visit) (indices.visit other) := by
  rw [visit_eq_each, visit_eq_each]
  exact .each fun index _ => one index

/-! ## Devices -/

namespace Session.InStep

variable {h : Session σ} {k : Session τ} (step : h.InStep m k)

include step

theorem countDevices : Mirrors m Eq h.countDevices k.countDevices := by
  refine ((step.ask .deviceCount rfl).orFail _).andThen fun count => ?_
  exact (Mirrors.emit (step.note _)).andThen fun _ => .pure rfl

theorem countUnless (count? : Option Int) :
    Mirrors m Eq (h.countUnless count?) (k.countUnless count?) := by
  cases count? with
  | some count => exact .pure rfl
  | none => exact step.countDevices

theorem resolveBelow (count index : Int) :
    Mirrors m Eq (h.resolveBelow count index) (k.resolveBelow count index) := by
  rw [h.resolveBelow_eq_asks, k.resolveBelow_eq_asks]
  split
  · exact .fault _
  · refine ((step.ask (.handleAt index) rfl).orFail _).andThen fun native => ?_
    refine ((step.ask (.nameOf native) rfl).orFail _).andThen fun name => ?_
    unfold accept
    cases nameProblem? index name with
    | some problem => exact .fault _
    | none => exact .pure rfl

theorem resolve (index : Int) (count? : Option Int) :
    Mirrors m Eq (h.resolve index count?) (k.resolve index count?) :=
  (step.countUnless count?).andThen fun count => step.resolveBelow count index

theorem resolveAll : Mirrors m Eq h.resolveAll k.resolveAll :=
  step.countDevices.andThen fun count => Indices.mirrors_visit (step.resolveBelow count) _

end Session.InStep

/-! ## Samples -/

namespace Sampler.Paired

variable {s : Sampler σ} {r : Sampler τ} (step : s.Paired (Session.InStep m) r)

include step

theorem power (device : Device) : Mirrors m Eq (s.power device) (r.power device) :=
  (step.session.ask (.powerOf device.native) rfl).orFail _

theorem frequency (device : Device) : Mirrors m Eq (s.frequency device) (r.frequency device) :=
  (step.session.ask (.clockOf device.native) rfl).orFail _

theorem latest (device : Device) (metric : Metric) (cursor : Int) :
    Mirrors m Eq (Sampler.latest s.session.ask device metric cursor)
      (Sampler.latest r.session.ask device metric cursor) := by
  have samples := (step.session.ask (.samplesOf device.native metric cursor) rfl).orFail
    (.samplesFailed metric device.index)
  refine samples.andThen fun rows => ?_
  cases Sample.latest? rows with
  | some sample => exact .pure rfl
  | none => exact .fault _

theorem pauseBefore (window : Window) (left : Nat) :
    Mirrors m Eq (Sampler.pauseBefore window left) (Sampler.pauseBefore window left) := by
  cases left with
  | zero => exact .pure rfl
  | succ left => exact .emit (step.session.pause _)

theorem total (device : Device) (metric : Metric) (window : Window) (left : Nat)
    (cursor sum : Int) :
    Mirrors m Eq (s.total s.session.ask device metric window left cursor sum)
      (r.total r.session.ask device metric window left cursor sum) := by
  induction left generalizing cursor sum with
  | zero => exact .pure rfl
  | succ left ih =>
      unfold Sampler.total
      rw [step.advance]
      refine (step.latest device metric cursor).andThen fun sample => ?_
      refine (Mirrors.emit (step.session.note _)).andThen fun _ => ?_
      exact (step.pauseBefore window left).andThen fun _ => ih _ _

theorem average (device : Device) (metric : Metric) (window : Window) :
    Mirrors m Eq (s.average device metric window) (r.average device metric window) := by
  rw [s.average_eq_asks, r.average_eq_asks]
  split
  · exact (step.total device metric window _ 0 0).andThen fun _ => .pure rfl
  · exact .fault _

theorem averageOver (device : Device) (metric : Metric) (window? : Option Window) :
    Mirrors m Eq (s.averageOver device metric window?) (r.averageOver device metric window?) := by
  cases window? with
  | some window => exact step.average device metric window
  | none =>
      unfold Sampler.averageOver
      dsimp only
      split
      · exact step.session.requireOpen.andThen fun _ => .fault _
      · exact .fault _

theorem sample (device : Device) (metric : Metric) (window? : Option Window) :
    Mirrors m Eq (s.sample device metric window?) (r.sample device metric window?) := by
  have averaged := step.average device metric (window?.getD s.window)
  cases metric with
  | power => exact step.power device
  | frequency => exact step.frequency device
  | _ =>
      unfold Sampler.sample
      rw [← step.window]
      exact averaged

end Sampler.Paired

/-! ## Reports -/

theorem Session.InStep.report {h : Session σ} {k : Session τ} (step : h.InStep m k)
    {s : Sampler σ} {r : Sampler τ} (samplers : s.Paired (InStep m) r) (metric : Metric)
    (count index : Int) :
    Mirrors m Eq (h.report s metric count index) (k.report r metric count index) := by
  refine (step.resolveBelow count index).andThen fun device => ?_
  exact (samplers.sample device metric none).andThen fun _ => .pure rfl

namespace Feed.Paired

variable {f : Feed σ} {g : Feed τ} (step : f.Paired (Session.InStep m) g)

include step

theorem advance (count : Int) (left : Indices) :
    Mirrors m Eq (f.advance count left) (g.advance count left) := by
  unfold Feed.advance
  rw [step.metric]
  cases left.next? with
  | none => exact .pure rfl
  | some pair =>
      exact (step.session.report step.sampler g.metric count pair.1).andThen fun _ => .pure rfl

theorem next : Mirrors m Eq f.next g.next := by
  unfold Feed.next
  rw [step.stage]
  cases g.stage with
  | unstarted indices? count? =>
      exact (step.session.countUnless count?).andThen fun count => step.advance count _
  | running count left => exact step.advance count left
  | ended => exact .pure rfl

end Feed.Paired

end GpuTelemetry
