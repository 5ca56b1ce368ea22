import GpuTelemetry.Proofs.Collection.Interference
import GpuTelemetry.Proofs.Sampling.Rounds
import GpuTelemetry.Proofs.Session.Linked

/-!
# Cursors that make no difference

A backend is heedless if its answers do not depend on the time since which samples are asked for
(`Backend.Heedless`): simulated devices are, and so is a driver whose samples are all scripted. Two
collections from such a backend, one with an advancing cursor and one without, mirror each other up
to those times.

Main statement: `cursor_unheeded`.
-/

namespace GpuTelemetry

variable {σ α : Type}

open Run (Mirrors)

/-! ## Calls without the times of their cursors -/

/-- A request, with samples asked for from the beginning. -/
def Request.fromStart : Request → Request
  | .samplesOf device metric _ => .samplesOf device metric 0
  | other => other

/-- An event, with samples asked for from the beginning. -/
def Event.fromStart : Event → Event
  | .call session backend request answered => .call session backend request.fromStart answered
  | other => other

/-- Outcomes with the same result and the same acts, but for the times since which samples are asked
for, in the same phases of sessions and on related backends. -/
structure Outcome.SameButSince (R : σ → σ → Prop) (o p : Outcome (Sessions σ) α) : Prop where
  result : o.result = p.result
  acts : o.acts.map (·.fromStart) = p.acts.map (·.fromStart)
  state : Sessions.Twin R o.state p.state

theorem Outcome.SameButSince.mono {R S : σ → σ → Prop} {o p : Outcome (Sessions σ) α}
    (same : o.SameButSince R p) (weaker : ∀ x y, R x y → S x y) : o.SameButSince S p :=
  ⟨same.result, same.acts, weaker _ _ same.state.backends, same.state.phase, same.state.busy,
    same.state.made⟩

/-- The mirror of sessions on related backends that does not look at the times of cursors. -/
def Sessions.timeless (R : σ → σ → Prop) : Mirror (Sessions σ) (Sessions σ) where
  state := Sessions.Twin R
  events l k := (l.filter (·.isAct)).map (·.fromStart) = (k.filter (·.isAct)).map (·.fromStart)
  nothing := rfl
  join one two := by simp only [List.filter_append, List.map_append, one, two]

theorem Sessions.phased_timeless (R : σ → σ → Prop) : (Sessions.timeless R).Phased :=
  Sessions.phased_of_twins (fun _ _ => .rfl) (fun _ => rfl) fun _ => rfl

/-! ## Heedless backends -/

/-- A backend that from related states answers requests for samples alike, whatever they are since,
and all others alike as well. -/
structure Backend.Heedless (b : Backend σ) (R : σ → σ → Prop) : Prop where
  samples : ∀ native metric since since' x y, R x y →
    (b.answer (.samplesOf native metric since) x).result =
        (b.answer (.samplesOf native metric since') y).result ∧
      R (b.answer (.samplesOf native metric since) x).state
        (b.answer (.samplesOf native metric since') y).state
  others : ∀ request x y, request.plain → R x y →
    (b.answer request x).result = (b.answer request y).result ∧
      R (b.answer request x).state (b.answer request y).state

/-- In particular a backend whose answers, and the states that they leave, are the same whatever
samples are asked for since. -/
theorem Backend.Heedless.of_same {b : Backend σ} (same : ∀ native metric since since' x,
    (b.answer (.samplesOf native metric since) x).result =
        (b.answer (.samplesOf native metric since') x).result ∧
      (b.answer (.samplesOf native metric since) x).state =
        (b.answer (.samplesOf native metric since') x).state) : b.Heedless Eq where
  samples native metric since since' x _ related := by
    subst related
    exact same native metric since since' x
  others _ _ _ _ related := by
    subst related
    exact ⟨rfl, rfl⟩

/-- Two requests that differ in the time of a cursor mirror each other if the replies do. -/
theorem Backend.mirrors_ask_timeless {b : Backend σ} {R : σ → σ → Prop} (request request' : Request)
    {E : request.Answer → request'.Answer → Prop} (sent : request.fromStart = request'.fromStart)
    (replies : ∀ x y, R x y → Matched E (b.answer request x).result (b.answer request' y).result ∧
      R (b.answer request x).state (b.answer request' y).state) (session : Option SessionId) :
    Mirrors (Sessions.timeless R) E (b.ask session request) (b.ask session request') := by
  intro s t twin
  obtain ⟨results, states⟩ := replies _ _ twin.backends
  -- Whether a call was answered is seen from outside, and so it has to be the same.
  have answered : (b.answer request s.backends).result.isOk =
      (b.answer request' t.backends).result.isOk := by
    generalize (b.answer request s.backends).result = result at results
    generalize (b.answer request' t.backends).result = result' at results
    cases results <;> rfl
  refine ⟨results.mapError Fault.refused, ⟨states, twin.phase, twin.busy, twin.made⟩, ?_⟩
  show (b.ask session request s).acts.map Event.fromStart =
    (b.ask session request' t).acts.map Event.fromStart
  rw [acts_ask, acts_ask]
  simp only [List.map_cons, List.map_nil, Event.fromStart, sent, answered]

namespace Backend.Heedless

section Requests

variable {b : Backend σ} {R : σ → σ → Prop} (heedless : b.Heedless R)
include heedless

theorem mirrors_samples (session : Option SessionId) (native : Native) (metric : Metric)
    (since since' : Int) :
    Mirrors (Sessions.timeless R) Eq (b.ask session (.samplesOf native metric since))
      (b.ask session (.samplesOf native metric since')) := by
  refine mirrors_ask_timeless (.samplesOf native metric since) (.samplesOf native metric since')
    rfl (fun x y related => ?_) session
  obtain ⟨results, states⟩ := heedless.samples native metric since since' x y related
  rw [results]
  exact ⟨.refl (fun _ => rfl) _, states⟩

theorem mirrors_ask (session : Option SessionId) (request : Request) :
    Mirrors (Sessions.timeless R) Eq (b.ask session request) (b.ask session request) := by
  refine mirrors_ask_timeless request request rfl (fun x y related => ?_) session
  have replies : (b.answer request x).result = (b.answer request y).result ∧
      R (b.answer request x).state (b.answer request y).state := by
    cases request with
    | samplesOf native metric since => exact heedless.samples native metric since since x y related
    | _ => exact heedless.others _ x y trivial related
  rw [replies.1]
  exact ⟨.refl (fun _ => rfl) _, replies.2⟩

end Requests

/-! ## Two readings, two cursors -/

variable {h : Session σ} {R : σ → σ → Prop} (heedless : h.backend.Heedless R) {window : Window}
  {advance advance' : Bool}
include heedless

theorem linked : h.Linked (Sessions.timeless R) h where
  phased := Sessions.phased_timeless R
  number := rfl
  backend := rfl
  named := rfl
  asked session request _ := heedless.mirrors_ask session request

/-- A round takes the same sample, whatever its cursor is. -/
theorem mirrors_latest (device : Device) (metric : Metric) (cursor cursor' : Int) :
    Mirrors (Sessions.timeless R) Eq (Sampler.latest h.ask device metric cursor)
      (Sampler.latest h.ask device metric cursor') := by
  have asked : Mirrors (Sessions.timeless R) Eq (h.ask (.samplesOf device.native metric cursor))
      (h.ask (.samplesOf device.native metric cursor')) :=
    heedless.linked.matching.requireOpen.andThen fun _ =>
      heedless.mirrors_samples (some h.id) device.native metric cursor cursor'
  refine (asked.orFail (.samplesFailed metric device.index)).andThen fun rows => ?_
  cases Sample.latest? rows with
  | some sample => exact .pure rfl
  | none => exact .fault _

/-- So do all rounds that are left, though from now on their cursors may part. -/
theorem mirrors_total (device : Device) (metric : Metric) (whole : Window) (left : Nat)
    (cursor cursor' sum : Int) :
    Mirrors (Sessions.timeless R) Eq
      (Sampler.total ⟨h, window, advance⟩ h.ask device metric whole left cursor sum)
      (Sampler.total ⟨h, window, advance'⟩ h.ask device metric whole left cursor' sum) := by
  have step := heedless.linked.inStep
  have paired : Sampler.Paired (Session.InStep (Sessions.timeless R)) ⟨h, window, advance⟩
      ⟨h, window, advance⟩ := ⟨step, rfl, rfl⟩
  induction left generalizing cursor cursor' sum with
  | zero => exact .pure rfl
  | succ left ih =>
      refine (heedless.mirrors_latest device metric cursor cursor').andThen fun sample => ?_
      refine (Mirrors.emit (step.note _)).andThen fun _ => ?_
      exact (paired.pauseBefore whole left).andThen fun _ => ih _ _ _

theorem mirrors_average (device : Device) (metric : Metric) (whole : Window) :
    Mirrors (Sessions.timeless R) Eq
      (Sampler.average ⟨h, window, advance⟩ device metric whole)
      (Sampler.average ⟨h, window, advance'⟩ device metric whole) := by
  rw [Sampler.average_eq_asks, Sampler.average_eq_asks]
  split
  · exact (heedless.mirrors_total device metric whole _ 0 0 0).andThen fun _ => .pure rfl
  · exact .fault _

theorem mirrors_sample (device : Device) (metric : Metric) :
    Mirrors (Sessions.timeless R) Eq
      (Sampler.sample ⟨h, window, advance⟩ device metric none)
      (Sampler.sample ⟨h, window, advance'⟩ device metric none) := by
  have step := heedless.linked.inStep
  have averaged : Mirrors (Sessions.timeless R) Eq
      (Sampler.average ⟨h, window, advance⟩ device metric window)
      (Sampler.average ⟨h, window, advance'⟩ device metric window) :=
    heedless.mirrors_average device metric window
  cases metric with
  | power => exact (step.ask (.powerOf device.native) rfl).orFail _
  | frequency => exact (step.ask (.clockOf device.native) rfl).orFail _
  | _ => exact averaged

theorem mirrors_report (metric : Metric) (count index : Int) :
    Mirrors (Sessions.timeless R) Eq (h.report ⟨h, window, advance⟩ metric count index)
      (h.report ⟨h, window, advance'⟩ metric count index) := by
  refine (heedless.linked.inStep.resolveBelow count index).andThen fun device => ?_
  exact (heedless.mirrors_sample device metric).andThen fun _ => .pure rfl

end Backend.Heedless

/-- A collection from a heedless backend is the same with and without advancing cursor, from any
state that is related to itself. -/
theorem sameButSince_of_heedless {b : Backend σ} {R : σ → σ → Prop} (heedless : b.Heedless R)
    (metric : Metric) (index? : Option Int) (window? : Option Window) {s : Sessions σ}
    (start : R s.backends s.backends) :
    (collect b metric index? window? true s).SameButSince R
      (collect b metric index? window? false s) := by
  have mirrors : Mirrors (Sessions.timeless R) Eq (collect b metric index? window? true)
      (collect b metric index? window? false) := by
    refine Session.mirrors_within (Sessions.phased_timeless R) fun h k beside => ?_
    -- Both sessions are new ones on the same backend, so they are the same.
    obtain rfl : h = k := beside.eq
    obtain ⟨_, rfl, _⟩ := beside
    refine ⟨heedless.linked, heedless.linked.matching.finish (heedless.mirrors_ask _ _), ?_⟩
    refine heedless.linked.inStep.countDevices.andThen fun count => ?_
    exact Indices.mirrors_visit (heedless.mirrors_report metric count) _
  obtain ⟨result, state, events⟩ := mirrors s s ⟨start, rfl, rfl, rfl⟩
  exact ⟨result.eq, events, state⟩

/-! ## Simulated devices -/

namespace Simulated

/-- Simulated devices, with all samples recorded as asked for from the beginning. -/
def fromStart (s : Simulated) : Simulated :=
  { s with asked := s.asked.map fun (native, metric, _) => (native, metric, 0) }

/-- States that differ in nothing but the recorded times since which samples were asked for. -/
def SameButSince (s t : Simulated) : Prop :=
  s.fromStart = t.fromStart

/-- Samples are handed out as if they had always been asked for from the beginning. -/
theorem samples_fromStart (native : Native) (metric : Metric) (since : Int) (s : Simulated) :
    (answer (.samplesOf native metric since) s).result =
        (answer (.samplesOf native metric 0) s.fromStart).result ∧
      (answer (.samplesOf native metric since) s).state.fromStart =
        (answer (.samplesOf native metric 0) s.fromStart).state := by
  have failure : s.fromStart.failure? (.samplesOf native metric 0) =
      s.failure? (.samplesOf native metric since) := rfl
  have finds : s.fromStart.find native = s.find native := find_congr rfl native
  cases met : s.failure? (.samplesOf native metric since) with
  | some reason =>
      have declined : answer (.samplesOf native metric 0) s.fromStart =
          .decline s.fromStart reason := answer_of_failure (failure.trans met)
      rw [answer_of_failure met, declined]
      exact ⟨rfl, rfl⟩
  | none =>
      cases found : s.find native with
      | error refusal =>
          rw [answer_of_absent met found,
            answer_of_absent (failure.trans met) (finds.trans found)]
          exact ⟨rfl, rfl⟩
      | ok pair =>
          by_cases none : pair.2.listed metric = []
          · rw [answer_of_nil met found none,
              answer_of_nil (failure.trans met) (finds.trans found) none]
            exact ⟨rfl, rfl⟩
          · obtain ⟨value, next, given⟩ := answer_of_ne_nil met found none
            obtain ⟨value', next', given'⟩ :=
              answer_of_ne_nil (failure.trans met) (finds.trans found) none
            -- The position in the list does not depend on the record of requests.
            cases next.symm.trans next'
            rw [given, given']
            exact ⟨rfl, rfl⟩

theorem heedless (id : BackendId) : (backend id).Heedless SameButSince where
  samples native metric since since' s t same := by
    obtain ⟨result, state⟩ := samples_fromStart native metric since s
    obtain ⟨result', state'⟩ := samples_fromStart native metric since' t
    have same : s.fromStart = t.fromStart := same
    rw [same] at result state
    exact ⟨result.trans result'.symm, state.trans state'.symm⟩
  others request s t plain same := by
    have same : s.fromStart = t.fromStart := same
    have devices : s.devices = t.devices := (congrArg Simulated.devices same :)
    have failures : s.failures = t.failures := (congrArg Simulated.failures same :)
    refine ⟨result_of_plain devices failures plain, ?_⟩
    show (answer request s).state.fromStart = (answer request t).state.fromStart
    rw [state_answer_of_plain s plain, state_answer_of_plain t plain]
    have counted : ∀ u : Simulated, (u.count request).fromStart = u.fromStart.count request := by
      intro u
      cases request <;> rfl
    rw [counted, counted]
    exact congrArg (count · request) same

end Simulated

/-! ## Scripted drivers -/

namespace Nvml

def Source.isScript : Source → Bool
  | .script _ => true
  | .buffer _ => false

namespace Driver

/-- All samples of all devices come from scripts. -/
def Scripted (d : Driver) : Prop :=
  ∀ device ∈ d.devices, ∀ source ∈ device.sources, source.2.isScript = true

instance : DecidablePred Scripted := fun d =>
  inferInstanceAs
    (Decidable (∀ device ∈ d.devices, ∀ source ∈ device.sources, source.2.isScript = true))

/-- A script goes on with its next answer, whatever it is asked since. -/
theorem Scripted.samples_eq {d : Driver} (scripted : d.Scripted) (native : Native)
    (samplingType since since' : Int) :
    d.samples native samplingType since = d.samples native samplingType since' := by
  unfold samples
  split
  · rfl
  · rename_i place device found
    split
    · rfl
    · rename_i batch source
      have script := scripted device (mem_of_find? found) _ (Register.mem_of_lookup source)
      cases script
    · rfl

end Driver

/-- Two runs are on the same scripted driver. -/
theorem heedless (id : BackendId) :
    (backend id).Heedless fun d e => d = e ∧ d.Scripted where
  samples := by
    rintro native metric since since' d _ ⟨rfl, scripted⟩
    have kept : ∀ since, (answer (.samplesOf native metric since) d).state.Scripted := by
      intro since
      unfold Driver.Scripted
      rw [devices_answer]
      exact scripted
    have same : (answer (.samplesOf native metric since) d).result =
          (answer (.samplesOf native metric since') d).result ∧
        (answer (.samplesOf native metric since) d).state =
          (answer (.samplesOf native metric since') d).state := by
      cases sampled : samplingType? metric with
      | none =>
          rw [answer_of_unsampled sampled, answer_of_unsampled sampled]
          exact ⟨rfl, rfl⟩
      | some samplingType =>
          obtain ⟨result, state⟩ := answer_of_sampled sampled native since d
          obtain ⟨result', state'⟩ := answer_of_sampled sampled native since' d
          rw [result, state, result', state',
            scripted.samples_eq native samplingType since since']
          exact ⟨rfl, rfl⟩
    exact ⟨same.1, same.2, kept since⟩
  others := by
    rintro request d _ plain ⟨rfl, scripted⟩
    refine ⟨rfl, rfl, ?_⟩
    show (answer request d).state.Scripted
    rw [state_answer_of_plain d plain]
    exact scripted

end Nvml

/-- Where answers do not depend on the time since which samples are asked for, nothing but that time
shows whether the cursor advances. From any state and of any metric, over any devices and window, a
collection gives the same reports or ends in the same fault, makes the same calls and pauses in the
same order, and leaves the same state behind. So it is for every heedless backend; for simulated
devices, whose record of requests is the only place where the times are seen; and for a driver whose
samples are all scripted. -/
theorem cursor_unheeded (metric : Metric) (index? : Option Int) (window? : Option Window) :
    (∀ (σ : Type) (b : Backend σ) (R : σ → σ → Prop), b.Heedless R →
      ∀ s : Sessions σ, R s.backends s.backends →
        (collect b metric index? window? true s).SameButSince R
          (collect b metric index? window? false s)) ∧
    (∀ (id : BackendId) (s : Sessions Simulated),
      (collect (Simulated.backend id) metric index? window? true s).SameButSince
        Simulated.SameButSince (collect (Simulated.backend id) metric index? window? false s)) ∧
    ∀ (id : BackendId) (s : Sessions Nvml.Driver), s.backends.Scripted →
      (collect (Nvml.backend id) metric index? window? true s).SameButSince Eq
        (collect (Nvml.backend id) metric index? window? false s) := by
  refine ⟨fun σ b R heedless s start => ?_, fun id s => ?_, fun id s scripted => ?_⟩
  · exact sameButSince_of_heedless heedless metric index? window? start
  · exact sameButSince_of_heedless (Simulated.heedless id) metric index? window? rfl
  · have same := sameButSince_of_heedless (Nvml.heedless id) metric index? window? ⟨rfl, scripted⟩
    exact same.mono fun d e related => related.1

/-- The second query of a scripted driver is since the first sample or since zero, and nothing else
tells the two collections apart. Those from a backend with one sample for all are alike, too. -/
theorem script_read_with_and_without_cursor :
    let batch (time value : Int) : Nvml.Batch := ⟨1, [⟨time, ⟨.nan, value, 0, 0, 0⟩⟩]⟩
    let script : Nvml.Source := .script [.ok (batch 5 40), .ok (batch 3 61)]
    let s : Sessions Nvml.Driver := { backends := { devices := [{ sources := [(1, script)] }] } }
    let out (advance : Bool) :=
      collect (Nvml.backend 0) .utilization none (some ⟨2, 1, by decide⟩) advance s
    let other (advance : Bool) :=
      collect (.scripted 4 fun _ => .ok [⟨9, 7⟩]) .utilization none (some ⟨2, 1, by decide⟩) advance
        { backends := 0 }
    s.backends.Scripted ∧ (out true).SameButSince Eq (out false) ∧
      (out true).result.toOption.map (·.map (·.value)) = some [50] ∧
      (out true).acts ≠ (out false).acts ∧ (other true).SameButSince Eq (other false) := by
  intro batch script s out other
  have scripted : s.backends.Scripted := by decide
  have heedless : (Backend.scripted 4 fun _ => .ok [⟨9, 7⟩]).Heedless Eq :=
    .of_same fun _ _ _ _ _ => ⟨rfl, rfl⟩
  obtain ⟨general, _, driver⟩ := cursor_unheeded .utilization none (some ⟨2, 1, by decide⟩)
  exact ⟨scripted, driver 0 s scripted, by decide +kernel, by decide +kernel,
    general Nat _ Eq heedless _ rfl⟩

end GpuTelemetry
