import GpuTelemetry.Proofs.Results
import GpuTelemetry.Simulated

/-!
# Laws of simulated devices

A request either runs into an injected failure and is declined in its words, or it is served. Either
way the counters count it and the devices stay what they are. Main statements:

* `counters_answer`: every start and every shutdown is counted, failed or not, and nothing else is;
* `devices_answer`: no request changes the devices;
* `find_of_issued`: a handle that has been handed out stands for a device;
* `state_answer_of_other`: nothing but the counters changes with a request for anything but samples;
* `sampled_answer`: a request for samples is declined, has no device or no values to take from, or
  is handed the next value, with the next time of the clock (`handing_answer`).
-/

namespace GpuTelemetry

namespace Simulated

theorem counters_nextSample (s : Simulated) (place : Int) (metric : Metric) (device : Device) :
    (s.nextSample place metric device).2.starts = s.starts ∧
      (s.nextSample place metric device).2.shutdowns = s.shutdowns := by
  unfold nextSample
  split <;> exact ⟨rfl, rfl⟩

/-- A request that runs into an injected failure is declined in its words. -/
theorem answer_of_failure {request : Request} {s : Simulated} {reason : String}
    (met : (s.count request).failure? request = some reason) :
    answer request s = .decline (s.count request) reason := by
  unfold answer
  dsimp only
  rw [met]

/-- A request that runs into none is served. -/
theorem answer_of_spared {request : Request} {s : Simulated}
    (spared : (s.count request).failure? request = none) :
    answer request s = (s.count request).serve request := by
  unfold answer
  dsimp only
  rw [spared]

/-- Which injected failure a request runs into depends on the failures in force alone. -/
theorem failure?_congr {s t : Simulated} (same : s.failures = t.failures) (request : Request) :
    s.failure? request = t.failure? request := by
  unfold failure?
  rw [same]

/-- Serving a request leaves the counters of starts and shutdowns alone. -/
theorem counters_serve (s : Simulated) (request : Request) :
    (s.serve request).state.starts = s.starts ∧
      (s.serve request).state.shutdowns = s.shutdowns := by
  cases request with
  | handleAt index =>
      unfold serve
      dsimp only
      split <;> exact ⟨rfl, rfl⟩
  | samplesOf native metric since =>
      unfold serve
      dsimp only
      split
      · exact ⟨rfl, rfl⟩
      · exact counters_nextSample _ _ _ _
  | _ => exact ⟨rfl, rfl⟩

/-- The counters count every start and every shutdown, failed or not, and nothing else. -/
theorem counters_answer (request : Request) (s : Simulated) :
    (answer request s).state.starts = s.starts + (if request = .start then 1 else 0) ∧
      (answer request s).state.shutdowns =
        s.shutdowns + (if request = .shutdown then 1 else 0) := by
  -- Counting comes before anything can fail.
  have counted : (s.count request).starts = s.starts + (if request = .start then 1 else 0) ∧
      (s.count request).shutdowns = s.shutdowns + (if request = .shutdown then 1 else 0) := by
    cases request <;> exact ⟨rfl, rfl⟩
  have served := counters_serve (s.count request) request
  cases met : (s.count request).failure? request with
  | some reason =>
      rw [answer_of_failure met]
      exact counted
  | none =>
      rw [answer_of_spared met]
      exact ⟨served.1.trans counted.1, served.2.trans counted.2⟩

/-! ## Devices -/

theorem devices_nextSample (s : Simulated) (place : Int) (metric : Metric) (device : Device) :
    (s.nextSample place metric device).2.devices = s.devices := by
  unfold nextSample
  split <;> rfl

theorem devices_serve (s : Simulated) (request : Request) :
    (s.serve request).state.devices = s.devices := by
  cases request with
  | handleAt index =>
      unfold serve
      dsimp only
      split <;> rfl
  | samplesOf native metric since =>
      unfold serve
      dsimp only
      split
      · rfl
      · exact devices_nextSample _ _ _ _
  | _ => rfl

/-- Counting a request leaves everything but the counters alone. -/
theorem devices_count (s : Simulated) (request : Request) :
    (s.count request).devices = s.devices := by
  cases request <;> rfl

theorem devices_answer (request : Request) (s : Simulated) :
    (answer request s).state.devices = s.devices := by
  cases met : (s.count request).failure? request with
  | some reason =>
      rw [answer_of_failure met]
      exact s.devices_count request
  | none =>
      rw [answer_of_spared met, devices_serve, devices_count]

/-- A handle of the kind that is handed out for one of so many devices. -/
def Issued (devices : Nat) (native : Native) : Prop :=
  ∃ place : Nat, place < devices ∧ native = .slot place

/-- Only the place of a device has a handle, which is the place itself. -/
theorem slot_of_handleAt {s : Simulated} {index : Int} {native : Native}
    (given : (answer (.handleAt index) s).result = .ok native) :
    (0 ≤ index ∧ index < s.devices.length) ∧ native = .slot index := by
  cases met : (s.count (.handleAt index)).failure? (.handleAt index) with
  | some reason =>
      rw [answer_of_failure met] at given
      cases given
  | none =>
      rw [answer_of_spared met] at given
      unfold serve at given
      dsimp only at given
      split at given
      · -- The index itself is the place that the handle denotes.
        rename_i inside
        injection given with same
        exact ⟨inside, same.symm⟩
      · cases given

theorem issued_of_handleAt {s : Simulated} {index : Int} {native : Native}
    (given : (answer (.handleAt index) s).result = .ok native) :
    Issued s.devices.length native := by
  obtain ⟨inside, same⟩ := slot_of_handleAt given
  refine ⟨index.toNat, by omega, ?_⟩
  rw [same, Int.toNat_of_nonneg inside.1]

/-- A handle that has been handed out stands for a device. -/
theorem find_of_issued {s : Simulated} {native : Native} (issued : Issued s.devices.length native) :
    ∃ found, s.find native = .ok found := by
  obtain ⟨place, inside, rfl⟩ := issued
  have start : ¬ ((place : Int) < 0) := by omega
  have device : s.deviceAt place = .ok s.devices[place] := by
    unfold deviceAt
    simp only [if_neg start, Int.toNat_natCast, List.getElem?_eq_getElem inside]
  refine ⟨(place, s.devices[place]), ?_⟩
  show (s.deviceAt place).map _ = _
  rw [device]
  rfl

theorem find_congr {s t : Simulated} (same : s.devices = t.devices) (native : Native) :
    s.find native = t.find native := by
  unfold find deviceAt
  rw [same]

theorem find_eq_ok_iff {s : Simulated} {native : Native} {place : Int} {device : Device} :
    s.find native = .ok (place, device) ↔
      native.value.place? = some place ∧ s.deviceAt place = .ok device := by
  unfold find
  cases native.value.place? with
  | none =>
      constructor
      · intro found
        cases found
      · rintro ⟨denoted, _⟩
        cases denoted
  | some asked =>
      dsimp only
      constructor
      · intro found
        obtain ⟨other, there, same⟩ := map_eq_ok found
        cases same
        exact ⟨rfl, there⟩
      · rintro ⟨denoted, there⟩
        cases denoted
        rw [there]
        rfl

/-- A handle that is a place stands for the device at it. -/
theorem eq_place_of_find {s : Simulated} {place : Nat} {pair : Int × Device}
    (found : s.find (.slot place) = .ok pair) : pair.1 = place := by
  obtain ⟨denoted, _⟩ := find_eq_ok_iff.mp found
  exact (Option.some.inj denoted).symm

/-! ## Requests for anything but samples -/

/-- Nothing but the counters changes with a request for anything but samples. -/
theorem state_answer_of_other {request : Request}
    (other : ∀ native metric since, request ≠ .samplesOf native metric since) (s : Simulated) :
    (answer request s).state = s.count request := by
  cases met : (s.count request).failure? request with
  | some reason =>
      rw [answer_of_failure met]
      rfl
  | none =>
      rw [answer_of_spared met]
      cases request with
      | handleAt index =>
          unfold serve
          dsimp only
          split <;> rfl
      | samplesOf native metric since => exact absurd rfl (other native metric since)
      | _ => rfl

/-- So such a request does not touch the clock. -/
theorem time_answer_of_other {request : Request}
    (other : ∀ native metric since, request ≠ .samplesOf native metric since) (s : Simulated) :
    (answer request s).state.time = s.time := by
  rw [state_answer_of_other other]
  cases request <;> rfl

/-! ## Requests for samples -/

/-- The values of a metric of a device, in the order in which they are handed out. -/
def Device.listed (device : Device) (metric : Metric) : List Int :=
  (device.values.lookup metric).getD []

/-- How many values of a metric have been handed out at a place. -/
def taken (s : Simulated) (place : Int) (metric : Metric) : Nat :=
  (s.handedOut.lookup (place, metric)).getD 0

/-- The state after a request for samples has been noted. -/
def asking (native : Native) (metric : Metric) (since : Int) (s : Simulated) : Simulated :=
  { s with asked := (native, metric, since) :: s.asked }

/-- The state after the next value of a metric has been handed out at a place. -/
def handing (place : Int) (metric : Metric) (s : Simulated) : Simulated :=
  { s with
    handedOut := Register.assign (place, metric) (s.taken place metric + 1) s.handedOut
    time := s.time + 1000 }

theorem taken_handing_self (place : Int) (metric : Metric) (s : Simulated) :
    (s.handing place metric).taken place metric = s.taken place metric + 1 := by
  unfold taken handing
  dsimp only
  rw [Register.lookup_assign_self]
  rfl

theorem taken_handing_of_ne {place other : Int} {metric asked : Metric}
    (different : ¬ (place = other ∧ metric = asked)) (s : Simulated) :
    (s.handing other asked).taken place metric = s.taken place metric := by
  have keys : (place, metric) ≠ (other, asked) := by
    intro same
    exact different ⟨congrArg Prod.fst same, congrArg Prod.snd same⟩
  unfold taken handing
  dsimp only
  rw [Register.lookup_assign_of_ne _ _ keys]

theorem nextSample_of_nil {metric : Metric} {device : Device} (none : device.listed metric = [])
    (place : Int) (s : Simulated) : s.nextSample place metric device = ([], s) := by
  unfold Device.listed at none
  unfold nextSample
  rw [none]

/-- The next value is the one behind those that have been handed out, or again the last. -/
theorem nextSample_of_ne_nil {metric : Metric} {device : Device}
    (some : device.listed metric ≠ []) (place : Int) (s : Simulated) :
    ∃ value, (device.listed metric)[min (s.taken place metric)
        ((device.listed metric).length - 1)]? = .some value ∧
      s.nextSample place metric device = ([⟨s.time + 1000, value⟩], s.handing place metric) := by
  unfold Device.listed at some ⊢
  unfold nextSample taken
  cases listed : (device.values.lookup metric).getD [] with
  | nil => exact absurd listed some
  | cons first rest =>
      -- The position runs on behind the end of the list, where the last value is given again.
      have inside : min ((s.handedOut.lookup (place, metric)).getD 0) rest.length <
          (first :: rest).length := by
        simp only [List.length_cons]
        omega
      refine ⟨_, List.getElem?_eq_getElem inside, ?_⟩
      dsimp only
      rw [List.getElem?_eq_getElem inside]
      rfl

section Samples

variable {s : Simulated} {native : Native} {metric : Metric} {since : Int}
  (spared : s.failure? (.samplesOf native metric since) = none)

include spared

theorem answer_of_absent {refusal : Refusal} (absent : s.find native = .error refusal) :
    answer (.samplesOf native metric since) s =
      .refuse (s.asking native metric since) refusal := by
  have noted : (s.asking native metric since).find native = .error refusal := absent
  refine (answer_of_spared spared).trans ?_
  unfold serve
  dsimp only [count]
  unfold asking at noted ⊢
  rw [noted]

theorem answer_of_found {pair : Int × Device} (found : s.find native = .ok pair) :
    answer (.samplesOf native metric since) s =
      .ok ((s.asking native metric since).nextSample pair.1 metric pair.2).2
        ((s.asking native metric since).nextSample pair.1 metric pair.2).1 := by
  have noted : (s.asking native metric since).find native = .ok pair := found
  refine (answer_of_spared spared).trans ?_
  unfold serve
  dsimp only [count]
  unfold asking at noted ⊢
  rw [noted]

/-- A device without values of a metric has no samples of it. -/
theorem answer_of_nil {place : Int} {device : Device} (found : s.find native = .ok (place, device))
    (none : device.listed metric = []) :
    answer (.samplesOf native metric since) s = .ok (s.asking native metric since) [] := by
  rw [answer_of_found spared found, nextSample_of_nil none]

/-- Any other has one, with the next of its values. -/
theorem answer_of_ne_nil {place : Int} {device : Device}
    (found : s.find native = .ok (place, device)) (some : device.listed metric ≠ []) :
    ∃ value, (device.listed metric)[min (s.taken place metric)
        ((device.listed metric).length - 1)]? = .some value ∧
      answer (.samplesOf native metric since) s =
        .ok ((s.asking native metric since).handing place metric) [⟨s.time + 1000, value⟩] := by
  obtain ⟨value, next, given⟩ :=
    nextSample_of_ne_nil some place (s.asking native metric since)
  refine ⟨value, next, ?_⟩
  rw [answer_of_found spared found, given]
  rfl

end Samples

/-- What can become of a request for samples: it runs into an injected failure, no device has the
handle, the device has no values, or the next of them is handed out. -/
inductive Sampled (s : Simulated) (native : Native) (metric : Metric) (since : Int)
    (reply : Reply Simulated (List Sample)) : Prop
  | failed {reason : String} (met : s.failure? (.samplesOf native metric since) = some reason)
      (same : reply = .decline s reason)
  | absent {refusal : Refusal} (none : s.find native = .error refusal)
      (same : reply = .refuse (s.asking native metric since) refusal)
  | empty {place : Int} {device : Device} (found : s.find native = .ok (place, device))
      (none : device.listed metric = []) (same : reply = .ok (s.asking native metric since) [])
  | one {place : Int} {device : Device} (found : s.find native = .ok (place, device))
      (some : device.listed metric ≠ []) (value : Int)
      (same : reply = .ok ((s.asking native metric since).handing place metric)
        [⟨s.time + 1000, value⟩])

theorem sampled_answer (native : Native) (metric : Metric) (since : Int) (s : Simulated) :
    Sampled s native metric since (answer (.samplesOf native metric since) s) := by
  cases met : s.failure? (.samplesOf native metric since) with
  | some reason => exact .failed met (answer_of_failure met)
  | none =>
      cases found : s.find native with
      | error refusal => exact .absent found (answer_of_absent met found)
      | ok pair =>
          obtain ⟨place, device⟩ := pair
          by_cases none : device.listed metric = []
          · exact .empty found none (answer_of_nil met found none)
          · obtain ⟨value, _, same⟩ := answer_of_ne_nil met found none
            exact .one found none value same

/-! ## The clock -/

/-- What a request for samples gives and does to the clock: it gives no sample and the clock stands
still, or it gives one and the clock moves on to its timestamp. -/
inductive Handing (s : Simulated) (reply : Reply Simulated (List Sample)) : Prop
  | nothing (samples : ∀ rows, reply.result = .ok rows → rows = [])
      (time : reply.state.time = s.time)
  | one (value : Int) (samples : reply.result = .ok [⟨s.time + 1000, value⟩])
      (time : reply.state.time = s.time + 1000)

theorem handing_answer (native : Native) (metric : Metric) (since : Int) (s : Simulated) :
    Handing s (answer (.samplesOf native metric since) s) := by
  cases sampled_answer native metric since s with
  | failed met same =>
      rw [same]
      exact .nothing nofun rfl
  | absent none same =>
      rw [same]
      exact .nothing nofun rfl
  | empty found none same =>
      rw [same]
      exact .nothing (fun rows given => (Except.ok.inj given).symm) rfl
  | one found some value same =>
      rw [same]
      exact .one value rfl rfl

/-- The clock never goes back. -/
theorem time_le_answer (request : Request) (s : Simulated) :
    s.time ≤ (answer request s).state.time := by
  by_cases samples : ∃ native metric since, request = .samplesOf native metric since
  · obtain ⟨native, metric, since, rfl⟩ := samples
    cases handing_answer native metric since s with
    | nothing _ time => omega
    | one _ _ time => omega
  · have other : ∀ native metric since, request ≠ .samplesOf native metric since :=
      fun native metric since same => samples ⟨native, metric, since, same⟩
    have same := time_answer_of_other other s
    omega

end Simulated

end GpuTelemetry
