import GpuTelemetry.Proofs.Collection.Backends
import GpuTelemetry.Proofs.Collection.Combination

/-!
# Devices do not interfere

Simulated devices keep apart: the values handed out are counted for each place and metric, and only
the times of samples depend on all of them. So do the devices of the driver, whose scripts are each
followed on their own. Main statement: `collections_combine`.
-/

namespace GpuTelemetry

/-! ## Simulated devices -/

namespace Simulated

/-- The same share of the device at a place, counted from the start: all devices, the failures in
force and how many of its values have been handed out. -/
structure Alike (place : Nat) (s t : Simulated) : Prop where
  devices : s.devices = t.devices
  failures : s.failures = t.failures
  handedOut : ∀ metric, s.handedOut.lookup ((place : Int), metric) =
    t.handedOut.lookup ((place : Int), metric)

theorem equivalence_alike (place : Nat) : Equivalence (Alike place) where
  refl _ := ⟨rfl, rfl, fun _ => rfl⟩
  symm one := ⟨one.devices.symm, one.failures.symm, fun metric => (one.handedOut metric).symm⟩
  trans one two := ⟨one.devices.trans two.devices, one.failures.trans two.failures,
    fun metric => (one.handedOut metric).trans (two.handedOut metric)⟩

theorem alike_count (place : Nat) (s : Simulated) (request : Request) :
    Alike place s (s.count request) := by
  cases request <;> exact ⟨rfl, rfl, fun _ => rfl⟩

theorem state_answer_of_plain {request : Request} (s : Simulated) (plain : request.plain) :
    (answer request s).state = s.count request := by
  apply state_answer_of_other
  rintro native metric since rfl
  exact plain

theorem alike_answer_of_plain (place : Nat) {request : Request} (s : Simulated)
    (plain : request.plain) : Alike place s (answer request s).state := by
  rw [state_answer_of_plain s plain]
  exact alike_count place s request

/-- The next sample of a device is the same in states with the same share of it, but for its
time. -/
theorem alike_nextSample {place : Nat} {s t : Simulated} (share : Alike place s t) (metric : Metric)
    (device : Device) :
    SameLatest (fun _ _ => True) (s.nextSample place metric device).1
        (t.nextSample place metric device).1 ∧
      Alike place (s.nextSample place metric device).2 (t.nextSample place metric device).2 := by
  unfold nextSample
  rw [share.handedOut metric]
  cases (device.values.lookup metric).getD [] with
  | nil => exact ⟨.none, share⟩
  | cons first rest =>
      refine ⟨.some ⟨rfl, trivial⟩, share.devices, share.failures, fun asked => ?_⟩
      exact Register.lookup_assign_congr _ (share.handedOut asked)

theorem alike_asking (place : Nat) (native : Native) (metric : Metric) (since : Int)
    (s : Simulated) : Alike place s (s.asking native metric since) :=
  ⟨rfl, rfl, fun _ => rfl⟩

/-- Samples of another device are no concern of this one. -/
theorem alike_samples_of_other {place other : Nat} (distinct : place ≠ other) (metric : Metric)
    (since : Int) (s : Simulated) :
    Alike place s (answer (.samplesOf (.slot other) metric since) s).state := by
  have noted := alike_asking place (.slot other) metric since s
  cases sampled_answer (.slot other) metric since s with
  | failed met same =>
      rw [same]
      exact (equivalence_alike place).refl s
  | absent none same =>
      rw [same]
      exact noted
  | empty found none same =>
      rw [same]
      exact noted
  | one found some value same =>
      cases eq_place_of_find found
      rw [same]
      refine ⟨rfl, rfl, fun asked => ?_⟩
      have different : ((place : Int), asked) ≠ ((other : Int), metric) := by
        intro same
        have places : (place : Int) = other := congrArg Prod.fst same
        omega
      exact (Register.lookup_assign_of_ne _ _ different).symm

/-- What a device is asked for is found in its share. -/
theorem alike_samples {place : Nat} {s t : Simulated} (share : Alike place s t) (metric : Metric)
    (since since' : Int) :
    Matched (SameLatest fun _ _ => True)
        (answer (.samplesOf (.slot place) metric since) s).result
        (answer (.samplesOf (.slot place) metric since') t).result ∧
      Alike place (answer (.samplesOf (.slot place) metric since) s).state
        (answer (.samplesOf (.slot place) metric since') t).state := by
  have same : s.failure? (.samplesOf (.slot place) metric since) =
      t.failure? (.samplesOf (.slot place) metric since') := failure?_congr share.failures _
  have noted : Alike place (s.asking (.slot place) metric since)
      (t.asking (.slot place) metric since') :=
    ⟨share.devices, share.failures, share.handedOut⟩
  cases met : t.failure? (.samplesOf (.slot place) metric since') with
  | some reason =>
      rw [answer_of_failure (same.trans met), answer_of_failure met]
      exact ⟨.error _, share⟩
  | none =>
      -- Which device has the handle depends on the devices alone, and these are shared as a whole.
      have finds := find_congr share.devices (.slot place)
      cases found : t.find (.slot place) with
      | error refusal =>
          rw [answer_of_absent (same.trans met) (finds.trans found), answer_of_absent met found]
          exact ⟨.error refusal, noted⟩
      | ok pair =>
          rw [answer_of_found (same.trans met) (finds.trans found), answer_of_found met found,
            eq_place_of_find found]
          obtain ⟨samples, shares⟩ := alike_nextSample noted metric pair.2
          exact ⟨.ok samples, shares⟩

/-- What else is answered depends on the devices and the failures in force alone. -/
theorem result_of_plain {s t : Simulated} (devices : s.devices = t.devices)
    (failures : s.failures = t.failures) {request : Request} (plain : request.plain) :
    (answer request s).result = (answer request t).result := by
  have met : (s.count request).failure? request = (t.count request).failure? request := by
    refine failure?_congr ?_ request
    -- Counting a request leaves the failures in force.
    rw [← (alike_count 0 s request).failures, ← (alike_count 0 t request).failures]
    exact failures
  cases spared : (t.count request).failure? request with
  | some reason => rw [answer_of_failure (met.trans spared), answer_of_failure spared]; rfl
  | none =>
      rw [answer_of_spared (met.trans spared), answer_of_spared spared]
      cases request with
      | start => rfl
      | shutdown => rfl
      | deviceCount =>
          show Except.ok (s.devices.length : Int) = .ok (t.devices.length : Int)
          rw [devices]
      | handleAt index =>
          show (s.serve (.handleAt index)).result = (t.serve (.handleAt index)).result
          unfold serve
          dsimp only
          rw [devices]
          split <;> rfl
      | nameOf native =>
          exact congrArg (Except.map _) (find_congr devices native)
      | powerOf native =>
          exact congrArg (Except.map _) (find_congr devices native)
      | clockOf native =>
          exact congrArg (Except.map _) (find_congr devices native)
      | samplesOf native metric since => exact plain.elim

/-- Simulated devices keep apart. The times of their samples differ with what else is sampled, but
a simulated device has no use for a cursor. -/
theorem apart (id : BackendId) :
    (backend id).Apart Alike (fun place native => native = .slot place) fun _ _ => True where
  equivalence := equivalence_alike
  start := trivial
  issues _ _ _ given := (slot_of_handleAt given).2
  still place _ s plain := alike_answer_of_plain place s plain
  others place other native metric since s distinct known := by
    subst known
    exact alike_samples_of_other distinct metric since s
  handle _ _ _ share := result_of_plain share.devices share.failures trivial
  property _ _ _ _ _ share plain _ _ := result_of_plain share.devices share.failures plain
  samples place native metric since since' s t share known _ := by
    subst known
    exact alike_samples share metric since since'
  farewell _ _ refused := declined_of_issued (by rintro _ ⟨⟩) refused

end Simulated

/-! ## Devices of the driver -/

namespace Nvml

namespace Driver

/-- The same share of the device at a place: all devices, and how far each of its scripts is. -/
structure Alike (place : Nat) (d e : Driver) : Prop where
  devices : d.devices = e.devices
  given : ∀ samplingType, d.given.lookup (place, samplingType) =
    e.given.lookup (place, samplingType)

theorem equivalence_alike (place : Nat) : Equivalence (Alike place) where
  refl _ := ⟨rfl, fun _ => rfl⟩
  symm one := ⟨one.devices.symm, fun asked => (one.given asked).symm⟩
  trans one two := ⟨one.devices.trans two.devices, fun asked =>
    (one.given asked).trans (two.given asked)⟩

/-- Handles tell devices apart. -/
theorem handleOf_inj {place other : Nat} (same : handleOf place = handleOf other) :
    place = other := by
  have texts : place.repr = other.repr := by simpa [handleOf] using same
  have digits : Nat.toDigits 10 place = Nat.toDigits 10 other := by
    rw [← Nat.toList_repr, ← Nat.toList_repr, texts]
  rw [← Nat.ofDigitChars_ten_toDigits (n := place), digits, Nat.ofDigitChars_ten_toDigits]

theorem eq_of_find? {d : Driver} {place other : Nat} {device : Device}
    (found : d.find? (handleOf place) = some (other, device)) : other = place := by
  unfold find? at found
  obtain ⟨pair, hit, same⟩ := Option.map_eq_some_iff.mp found
  have handle : handleOf pair.2 = handleOf place := by simpa using List.find?_some hit
  cases same
  exact handleOf_inj handle

theorem find?_congr {d e : Driver} (same : d.devices = e.devices) (native : Native) :
    d.find? native = e.find? native := by
  unfold find?
  rw [same]

/-- Samples of another device are no concern of this one. -/
theorem alike_samples_of_other {place other : Nat} (distinct : place ≠ other)
    (samplingType since : Int) (d : Driver) :
    Alike place d (d.samples (handleOf other) samplingType since).2 := by
  unfold samples
  split
  · exact (equivalence_alike place).refl d
  · rename_i found
    split
    · exact (equivalence_alike place).refl d
    · exact (equivalence_alike place).refl d
    · refine ⟨rfl, fun asked => ?_⟩
      dsimp only
      rw [eq_of_find? found]
      have different : (place, asked) ≠ (other, samplingType) := by
        intro same
        exact distinct (congrArg Prod.fst same)
      exact (Register.lookup_assign_of_ne _ _ different).symm

/-- The samples of a device are the same in states with the same share of it. -/
theorem alike_samples {place : Nat} {d e : Driver} (share : Alike place d e)
    (samplingType since : Int) :
    (d.samples (handleOf place) samplingType since).1 =
        (e.samples (handleOf place) samplingType since).1 ∧
      Alike place (d.samples (handleOf place) samplingType since).2
        (e.samples (handleOf place) samplingType since).2 := by
  have finds := find?_congr share.devices (handleOf place)
  unfold samples
  rw [finds]
  cases found : e.find? (handleOf place) with
  | none => exact ⟨rfl, share⟩
  | some pair =>
      obtain ⟨same, device⟩ := pair
      cases eq_of_find? found
      dsimp only
      split
      · exact ⟨rfl, share⟩
      · exact ⟨rfl, share⟩
      · -- A script goes on from its place, which is the same for this device in both.
        rw [share.given samplingType]
        refine ⟨rfl, share.devices, fun asked => ?_⟩
        exact Register.lookup_assign_congr _ (share.given asked)

end Driver

theorem state_answer_of_plain {request : Request} (d : Driver) (plain : request.plain) :
    (answer request d).state = d := by
  cases request with
  | samplesOf native metric since => exact plain.elim
  | _ => rfl

/-- What else is answered about a device depends on the devices alone. -/
theorem result_of_plain {d e : Driver} (same : d.devices = e.devices) {request : Request}
    (plain : request.plain) {native : Native} (about : request.device? = some native) :
    (answer request d).result = (answer request e).result := by
  have property : ∀ {α : Type} (read : Device → Except ErrorCode α),
      d.property native read = e.property native read := by
    intro α read
    unfold Driver.property
    rw [Driver.find?_congr same]
  cases request with
  | nameOf device =>
      cases about
      show ((d.property native (·.name)).mapError declined).bind RawName.decode = _
      rw [property]
      rfl
  | powerOf device =>
      cases about
      exact congrArg (Except.mapError declined) (property (·.power))
  | clockOf device =>
      cases about
      exact congrArg (Except.mapError declined) (property (·.clock))
  | samplesOf device metric since => exact plain.elim
  | _ => cases about

/-- The handle at a place is that of the place. -/
theorem handleOf_of_handleAt {d : Driver} {place : Nat} {native : Native}
    (given : (answer (.handleAt place) d).result = .ok native) :
    native = Driver.handleOf place := by
  change (d.handleAt (Int.ofNat place)).mapError declined = .ok native at given
  unfold Driver.handleAt at given
  dsimp only at given
  split at given
  · cases given
  · split at given
    · cases given
    · exact (Except.ok.inj given).symm

theorem alike_answer_of_other {place other : Nat} (distinct : place ≠ other) (metric : Metric)
    (since : Int) (d : Driver) :
    Driver.Alike place d (answer (.samplesOf (Driver.handleOf other) metric since) d).state := by
  cases sampled : samplingType? metric with
  | none =>
      rw [answer_of_unsampled sampled]
      exact (Driver.equivalence_alike place).refl d
  | some samplingType =>
      rw [(answer_of_sampled sampled _ since d).2]
      exact Driver.alike_samples_of_other distinct samplingType since d

/-- A request for samples of a device is answered from its share. -/
theorem alike_answer {place : Nat} {d e : Driver} (share : Driver.Alike place d e)
    (metric : Metric) (since : Int) :
    (answer (.samplesOf (Driver.handleOf place) metric since) d).result =
        (answer (.samplesOf (Driver.handleOf place) metric since) e).result ∧
      Driver.Alike place (answer (.samplesOf (Driver.handleOf place) metric since) d).state
        (answer (.samplesOf (Driver.handleOf place) metric since) e).state := by
  cases sampled : samplingType? metric with
  | none =>
      rw [answer_of_unsampled sampled, answer_of_unsampled sampled]
      exact ⟨rfl, share⟩
  | some samplingType =>
      obtain ⟨result, state⟩ := answer_of_sampled sampled (Driver.handleOf place) since d
      obtain ⟨result', state'⟩ := answer_of_sampled sampled (Driver.handleOf place) since e
      obtain ⟨given, shares⟩ := Driver.alike_samples share samplingType since
      rw [result, result', state, state', given]
      exact ⟨rfl, shares⟩

/-- The devices of a driver keep apart. -/
theorem apart (id : BackendId) :
    (backend id).Apart Driver.Alike (fun place native => native = Driver.handleOf place) Eq where
  equivalence := Driver.equivalence_alike
  start := rfl
  issues _ _ _ given := handleOf_of_handleAt given
  still place request d plain := by
    show Driver.Alike place d (answer request d).state
    rw [state_answer_of_plain d plain]
    exact (Driver.equivalence_alike place).refl d
  others place other native metric since d distinct known := by
    subst known
    exact alike_answer_of_other distinct metric since d
  handle place d e share := by
    show (d.handleAt place).mapError declined = (e.handleAt place).mapError declined
    unfold Driver.handleAt
    rw [share.devices]
  property _ _ _ _ _ share plain about _ := result_of_plain share.devices plain about
  samples place native metric since since' d e share known same := by
    subst known same
    obtain ⟨result, shares⟩ := alike_answer share metric since
    have matched : Matched (SameLatest Eq)
        (answer (.samplesOf (Driver.handleOf place) metric since) d).result
        (answer (.samplesOf (Driver.handleOf place) metric since) e).result := by
      rw [result]
      exact .refl (SameLatest.refl fun _ => rfl) _
    exact ⟨matched, shares⟩
  farewell _ _ refused := declined_of_mapError refused

end Nvml

/-- Devices do not interfere: of any metric, over any window and with any cursor, from any state of
simulated devices and from any state of the driver, the collection of all devices is put together
from the collections of the single ones from the same state. -/
theorem collections_combine (metric : Metric) (window? : Option Window) (advance : Bool) :
    (∀ (id : BackendId) (s : Sessions Simulated),
      Combines (Simulated.backend id) metric window? advance s) ∧
    ∀ (id : BackendId) (s : Sessions Nvml.Driver),
      Combines (Nvml.backend id) metric window? advance s :=
  ⟨fun id s => (Simulated.apart id).combines metric window? advance s,
    fun id s => (Nvml.apart id).combines metric window? advance s⟩

/-- The second device is averaged alone as it is behind the first one, though the times of its
samples are then others. -/
example :
    let s : Sessions Simulated := { backends := { devices :=
      [⟨"A", 0, 0, [(.utilization, [40, 60])]⟩, ⟨"B", 0, 0, [(.utilization, [10, 30])]⟩] } }
    let collected index? := (collect (Simulated.backend 0) .utilization index?
      (some ⟨2, 0, by decide⟩) true s).result.toOption.map (·.map (·.value))
    (collected (some 0), collected (some 1), collected none) =
      (some [50], some [20], some [50, 20]) := by
  decide +kernel

end GpuTelemetry
