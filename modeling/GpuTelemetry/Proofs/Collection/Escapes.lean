import Mathlib.Control.Monad.Basic
import GpuTelemetry.Proofs.Collection.Gathering
import GpuTelemetry.Proofs.Nvml
import GpuTelemetry.Proofs.Results

/-!
# What escapes from a collection

A refusal in words becomes a failure of the operation that was refused. The driver's backend has one
refusal without words, that of a sample that has no integer part: it passes through sampling as it
is and is the end of the collection, though no failure (`CollectionFault.bare`). It takes a metric
with a sample buffer and a driver with such a sample.

An index that is out of range and too long to be written escapes as well, since the failure that
would name it cannot (`CollectionFault.unnamed`). Every other collection from a driver gives reports
or a failure.

Main statement: `bare_refusals_escape`, with `not_a_number_escapes` as a case of it.
-/

namespace GpuTelemetry.Nvml

open Run (Obeys)

/-- The faults of a collection from a driver, of a metric and for one index or all. -/
inductive CollectionFault (metric : Metric) (index? : Option Int) (d : Driver) : Fault → Prop
  | failed (f : Failure) : CollectionFault metric index? d (.failed f)
  | bare {refusal : Refusal} (noInteger : NoInteger refusal) (sampled : metric.averaged = true)
      (infinite : ¬ d.Finite) : CollectionFault metric index? d (.refused refusal)
  /-- The given index is out of range, and it or the number of devices is too long to be written. -/
  | unnamed {index count n : Int} (given : index? = some index) (counted : d.count = .ok count)
      (outside : index < 0 ∨ count ≤ index)
      (overlong : Numeral.overlong? [index, count] = some n) :
      CollectionFault metric index? d (.outOfField (.inText n))

variable {id : BackendId} {d : Driver} {metric : Metric} {index? : Option Int}
  {h : Session Driver}

/-- What a collection may do in its open session: the devices and their number stay what they
are. -/
abbrev collecting (h : Session Driver) (metric : Metric) (index? : Option Int) (d : Driver) :
    Discipline (Sessions Driver) :=
  .opened h (fun x => x.devices = d.devices ∧ x.count = d.count) (CollectionFault metric index? d)

/-- A request obeys, if it is one for samples only where the metric has a sample buffer. -/
theorem asks_collecting (same : h.backend = backend id) (request : Request)
    {Q : request.Answer → Prop}
    (sampled : ∀ native sampled since, request = .samplesOf native sampled since →
      metric.averaged = true)
    (answers : ∀ x a, x.count = d.count → (answer request x).result = .ok a → Q a) :
    h.AsksWithin (collecting h metric index? d) request Q := by
  refine Session.asks_opened (fun f _ => .failed f) ?_ ?_ ?_
  · rintro x ⟨devices, count⟩
    rw [same]
    exact ⟨(devices_answer request x).trans devices, (count_answer request x).trans count⟩
  · rintro x a ⟨_, count⟩ answered
    rw [same] at answered
    exact answers x a count answered
  · rintro x refusal ⟨devices, _⟩ refused
    rw [same] at refused
    rcases refusal_cases refused with
      declined | ⟨noInteger, native, asked, since, _, batch, rfl, _, given, infinite⟩
    · exact .inl declined
    · refine .inr (.bare noInteger (sampled native asked since rfl) fun finite => ?_)
      -- Only the devices decide whether a driver is finite, so this one is as finite as that one.
      have finiteNow : x.Finite := by
        unfold Driver.Finite
        rw [devices]
        exact finite
      exact infinite (Driver.finite_samples finiteNow given)

/-- The number of devices that is given is the one that the driver reports. -/
theorem counts_collecting (same : h.backend = backend id) :
    h.AsksWithin (collecting h metric index? d) .deviceCount fun count => d.count = .ok count := by
  refine asks_collecting same _ nofun fun x count kept answered => ?_
  rw [← kept]
  exact ok_of_mapError answered

/-- Visits obey, if only the given index can be out of range. -/
theorem visits_collecting (same : h.backend = backend id) {count index : Int}
    (counted : d.count = .ok count)
    (given : index < 0 ∨ count ≤ index → index? = some index) :
    (collecting h metric index? d).AllowsVisit h metric count index fun _ => True where
  note _ := trivial
  pause _ := trivial
  failure f _ := .failed f
  missing outside := by
    -- An index without a device is named in a failure, or else it is the given one and too long.
    rcases Session.missing_cases index count with named | ⟨n, overlong, unnamed⟩
    · rw [named]
      exact .failed _
    · rw [unnamed]
      exact .unnamed (given outside) counted outside overlong
  handle := asks_collecting same _ nofun fun _ _ _ _ => trivial
  device request native _ _ reads := by
    refine asks_collecting same request ?_ fun _ _ _ _ => trivial
    rintro _ _ _ rfl
    exact reads.2

/-- What a collection does in its open session obeys. -/
theorem gather_collecting (same : h.backend = backend id) (window : Window) (advance : Bool) :
    (h.gather window advance metric fun count =>
      pure (.orBelow (index?.map ([·])) count)).Obeys (collecting h metric index? d) fun reports =>
        ∀ r ∈ reports, r.label = metric.label := by
  refine Session.obeys_gather (fun _ => trivial) (counts_collecting same) (fun count => .pure ?_)
    fun count index counted those => visits_collecting same counted those
  rw [Indices.toList_orBelow]
  exact fun index member => given_of_outside member

/-- Every fault of a collection from a driver is a failure, a bare refusal of a number or that the
index is too long to be named. -/
theorem collection_faults {s : Sessions Driver} (idle : s.busy id = false) (index? : Option Int)
    (window? : Option Window) (advance : Bool) {f : Fault}
    (ended : (collect (backend id) metric index? window? advance s).result = .error f) :
    CollectionFault metric index? s.backends f := by
  rw [Session.collect_eq_within] at ended
  rcases opened : (Session.launched (backend id) s).result with g | ⟨⟨⟩⟩
  · -- The driver refuses a start in words only, and an idle backend is not refused otherwise.
    obtain ⟨g, rfl⟩ := Session.failed_of_launched idle (fun _ => declined_of_mapError) opened
    rw [Session.within_of_error _ opened] at ended
    cases ended
    exact .failed g
  · obtain ⟨isOpen, backends⟩ := Session.opened_of_launched opened
    rw [Session.result_within _ (fun _ _ => declined_of_mapError) opened] at ended
    have same : (Session.upcoming (backend id) s).backend = backend id := rfl
    refine (gather_collecting same (window?.getD .single) advance _ ⟨isOpen, ?_⟩).faults f ended
    rw [backends]
    exact ⟨devices_answer .start s.backends, count_answer .start s.backends⟩

/-- Whatever a driver answers, its backend refuses in words, unless it was asked for samples and got
one without an integer part. Whatever a driver answers, a collection from it on an idle backend
gives reports or ends in a failure, unless such a refusal escapes or the given index is out of range
and cannot be named. -/
theorem bare_refusals_escape (id : BackendId) (s : Sessions Driver) (idle : s.busy id = false)
    (metric : Metric) (index? : Option Int) (window? : Option Window) (advance : Bool) :
    (∀ (request : Request) (refusal : Refusal),
      (answer request s.backends).result = .error refusal →
        (∃ reason, refusal = .declined reason) ∨
          NoInteger refusal ∧ ∃ native metric since samplingType batch,
            request = .samplesOf native metric since ∧
              samplingType? metric = some samplingType ∧
              (s.backends.samples native samplingType since).1 = .ok batch ∧ ¬ batch.Finite) ∧
      ∀ f, (collect (backend id) metric index? window? advance s).result = .error f →
        CollectionFault metric index? s.backends f := by
  constructor
  · intro request refusal refused
    exact refusal_cases refused
  · intro f ended
    exact collection_faults idle index? window? advance ended

/-- A driver with one device, whose buffer of utilization holds one floating-point sample. -/
def sampling (x : Binary64) : Driver :=
  { devices := [{ sources := [(1, .buffer ⟨0, [⟨1, ⟨x, 0, 0, 0, 0⟩⟩]⟩)] }] }

/-- An infinite sample is refused without words, and its refusal ends the collection. -/
theorem infinite_sample_escapes :
    let s : Sessions Driver := { backends := sampling (.infinite false) }
    (answer (.samplesOf (Driver.handleOf 0) .utilization 0) s.backends).result =
        .error .infinite ∧
      s.busy 0 = false ∧
      (collect (backend 0) .utilization none none true s).result = .error (.refused .infinite) ∧
      ((∃ reason, Refusal.infinite = .declined reason) ∨ NoInteger .infinite) ∧
      CollectionFault .utilization none s.backends (.refused .infinite) := by
  intro s
  obtain ⟨refusals, faults⟩ := bare_refusals_escape 0 s rfl .utilization none none true
  have refused : (answer (.samplesOf (Driver.handleOf 0) .utilization 0) s.backends).result =
      .error .infinite := by decide +kernel
  have ended : (collect (backend 0) .utilization none none true s).result =
      .error (.refused .infinite) := by decide +kernel
  exact ⟨refused, rfl, ended, (refusals _ _ refused).imp_right And.left, faults _ ended⟩

/-- A sample that is not a number ends a collection in a fault that is no failure. -/
theorem not_a_number_escapes :
    let s : Sessions Driver := { backends := sampling .nan }
    s.busy 0 = false ∧
      (answer (.samplesOf (Driver.handleOf 0) .utilization 0) s.backends).result =
        .error .notANumber ∧
      (¬ ∃ reason, Refusal.notANumber = .declined reason) ∧
      (collect (backend 0) .utilization none none true s).result = .error (.refused .notANumber) ∧
      ¬ ∃ f, Fault.refused .notANumber = .failed f := by
  intro s
  exact ⟨rfl, by decide +kernel, nofun, by decide +kernel, nofun⟩

end GpuTelemetry.Nvml
