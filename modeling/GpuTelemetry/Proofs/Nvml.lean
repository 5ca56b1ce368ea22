import GpuTelemetry.Nvml.Backend

/-!
# Laws of the NVML backend

Requests leave the devices of the driver as they are. Whatever is refused is refused in words, with
one exception: a sample in floating point that is no number or infinite has no integer part. A
driver is finite if it has no such sample. Main statements:

* `devices_answer`, `count_answer`: no request changes the devices or the number of them that is
  reported;
* `refusal_cases`: a refusal is one in words, or that of a sample without an integer part;
* `declined_of_finite`: a finite driver refuses in words only.
-/

namespace GpuTelemetry

/-- A number that has an integer part. -/
def Binary64.isFinite : Binary64 → Bool
  | .finite .. => true
  | .nan | .infinite _ => false

namespace Nvml

/-- Every floating-point number that the type of a batch selects is finite. -/
def Batch.Finite (b : Batch) : Prop :=
  b.valueType = 0 → ∀ row ∈ b.rows, row.value.double.isFinite = true

instance : DecidablePred Batch.Finite := fun b =>
  inferInstanceAs (Decidable (b.valueType = 0 → ∀ row ∈ b.rows, row.value.double.isFinite = true))

/-- The batches that a source has to give. -/
def Source.batches : Source → List Batch
  | .script answers => answers.filterMap Except.toOption
  | .buffer batch => [batch]

/-- A driver with finite samples only. -/
def Driver.Finite (d : Driver) : Prop :=
  ∀ device ∈ d.devices, ∀ pair ∈ device.sources, ∀ batch ∈ pair.2.batches, batch.Finite

instance : DecidablePred Driver.Finite := fun d =>
  inferInstanceAs (Decidable (∀ device ∈ d.devices, ∀ pair ∈ device.sources,
    ∀ batch ∈ pair.2.batches, batch.Finite))

/-! ## Samples -/

namespace Driver

theorem mem_of_find? {d : Driver} {native : Native} {place : Nat} {device : Device}
    (found : d.find? native = some (place, device)) : device ∈ d.devices := by
  unfold find? at found
  obtain ⟨pair, hit, same⟩ := Option.map_eq_some_iff.mp found
  cases same
  exact (List.mem_zipIdx (List.mem_of_find?_eq_some hit)).2.2 ▸ List.getElem_mem _

/-- Giving samples moves a script on at most. -/
theorem exists_given_samples (d : Driver) (native : Native) (samplingType since : Int) :
    ∃ given, (d.samples native samplingType since).2 = { d with given := given } := by
  unfold samples
  split
  · exact ⟨_, rfl⟩
  · split <;> exact ⟨_, rfl⟩

/-- The rows newer than a time are among all rows. -/
theorem finite_newer {batch later : Batch} {since : Int} (finite : batch.Finite)
    (given : newer batch since = .ok later) : later.Finite := by
  unfold newer at given
  split at given
  · cases given
  · rename_i row rest rows
    cases given
    intro double r member
    have kept : r ∈ batch.rows.filter (since < ·.timestamp) := by
      rw [rows]
      exact member
    exact finite double r (List.mem_filter.mp kept).1

/-- What a finite driver gives is finite. -/
theorem finite_samples {d : Driver} (finite : d.Finite) {native : Native} {samplingType since : Int}
    {batch : Batch} (given : (d.samples native samplingType since).1 = .ok batch) :
    batch.Finite := by
  unfold samples at given
  split at given
  · cases given
  · rename_i place device found
    have known := finite device (mem_of_find? found)
    split at given
    · cases given
    · rename_i all source
      have kept := known _ (Register.mem_of_lookup source)
      exact finite_newer (kept all (List.mem_singleton_self all)) given
    · rename_i answers source
      have kept := known _ (Register.mem_of_lookup source)
      dsimp only at given
      -- How far the script has come is of no importance: every answer in it is finite.
      generalize (d.given.lookup (place, samplingType)).getD 0 = position at given
      cases answer : answers[position]? with
      | none =>
          rw [answer] at given
          cases given
      | some result =>
          rw [answer] at given
          have same : result = .ok batch := given
          subst same
          exact kept batch (List.mem_filterMap.mpr ⟨_, List.mem_of_getElem? answer, rfl⟩)

end Driver

/-! ## Requests for samples -/

/-- A request for samples of a metric that has no sample buffer is not put to the driver. -/
theorem answer_of_unsampled {metric : Metric} (unsampled : samplingType? metric = none)
    (native : Native) (since : Int) (d : Driver) :
    answer (.samplesOf native metric since) d =
      .decline d s!"{metric.label} is not a sampled metric" := by
  unfold answer
  dsimp only
  rw [unsampled]

/-- Samples are those of the driver, and the driver is left as they leave it. -/
theorem answer_of_sampled {metric : Metric} {samplingType : Int}
    (sampled : samplingType? metric = some samplingType) (native : Native) (since : Int)
    (d : Driver) :
    (answer (.samplesOf native metric since) d).result =
        ((d.samples native samplingType since).1.mapError declined).bind Batch.samples ∧
      (answer (.samplesOf native metric since) d).state =
        (d.samples native samplingType since).2 := by
  unfold answer
  dsimp only
  split
  · rename_i unsampled
    -- The metric has a sampling type, so the branch without one is out of the question.
    cases sampled.symm.trans unsampled
  · rename_i known
    cases sampled.symm.trans known
    rcases d.samples native samplingType since with ⟨given, left⟩
    cases given <;> exact ⟨rfl, rfl⟩

/-! ## Refusals -/

/-- An error code is refused in the words for it. -/
theorem declined_of_mapError {α : Type} {result : Except ErrorCode α} {refusal : Refusal}
    (refused : result.mapError declined = .error refusal) :
    ∃ reason, refusal = .declined reason := by
  cases result with
  | error code => exact ⟨errorText code, (Except.error.inj refused).symm⟩
  | ok a => cases refused

/-- The refusals of a number that has no integer part. -/
def NoInteger (refusal : Refusal) : Prop :=
  refusal = .notANumber ∨ refusal = .infinite

theorem refusal_of_select {u : Union} {valueType : Int} {refusal : Refusal}
    (refused : u.select valueType = .error refusal) :
    (∃ reason, refusal = .declined reason) ∨
      NoInteger refusal ∧ valueType = 0 ∧ u.double.isFinite = false := by
  unfold Union.select at refused
  split at refused
  · -- Only a value of type double can have no integer part.
    cases number : u.double with
    | finite negative significand exponent =>
        rw [number] at refused
        cases refused
    | nan =>
        rw [number] at refused
        cases refused
        exact .inr ⟨.inl rfl, rfl, rfl⟩
    | infinite negative =>
        rw [number] at refused
        cases refused
        exact .inr ⟨.inr rfl, rfl, rfl⟩
  · cases refused
  · cases refused
  · cases refused
  · cases refused
  · -- A value type that is not known is refused in words.
    exact .inl ⟨_, (Except.error.inj refused).symm⟩

/-- A list that cannot be mapped has a member that cannot. -/
theorem exists_of_mapM_error {α β : Type} {f : α → Except Refusal β} {refusal : Refusal} :
    ∀ {items : List α}, items.mapM f = .error refusal → ∃ a ∈ items, f a = .error refusal := by
  intro items
  induction items with
  | nil =>
      intro failed
      cases failed
  | cons a rest ih =>
      intro failed
      rw [List.mapM_cons] at failed
      cases first : f a with
      | error other =>
          rw [first] at failed
          cases failed
          exact ⟨a, List.mem_cons_self, first⟩
      | ok b =>
          rw [first] at failed
          cases others : rest.mapM f with
          | error other =>
              rw [others] at failed
              cases failed
              obtain ⟨c, member, wrong⟩ := ih others
              exact ⟨c, List.mem_cons_of_mem a member, wrong⟩
          | ok bs =>
              rw [others] at failed
              cases failed

theorem refusal_of_batch {batch : Batch} {refusal : Refusal}
    (refused : batch.samples = .error refusal) :
    (∃ reason, refusal = .declined reason) ∨ NoInteger refusal ∧ ¬ batch.Finite := by
  obtain ⟨row, member, wrong⟩ := exists_of_mapM_error refused
  cases value : row.value.select batch.valueType with
  | error other =>
      rw [value] at wrong
      cases wrong
      rcases refusal_of_select value with declined | ⟨noInteger, double, infinite⟩
      · exact .inl declined
      · refine .inr ⟨noInteger, fun finite => ?_⟩
        have isFinite := finite double row member
        rw [infinite] at isFinite
        cases isFinite
  | ok n =>
      rw [value] at wrong
      cases wrong

/-- A request moves a script on at most. -/
theorem exists_given_answer (request : Request) (d : Driver) :
    ∃ given, (answer request d).state = { d with given := given } := by
  cases request with
  | samplesOf native metric since =>
      unfold answer
      dsimp only
      split
      · exact ⟨d.given, rfl⟩
      · rename_i samplingType _
        obtain ⟨given, moved⟩ := d.exists_given_samples native samplingType since
        refine ⟨given, ?_⟩
        -- The script moves on whether or not the driver gives samples.
        split
        · rename_i answered
          rw [answered] at moved
          exact moved
        · rename_i answered
          rw [answered] at moved
          exact moved
  | _ => exact ⟨d.given, rfl⟩

/-- No request changes the devices. -/
theorem devices_answer (request : Request) (d : Driver) :
    (answer request d).state.devices = d.devices := by
  obtain ⟨given, moved⟩ := exists_given_answer request d
  rw [moved]

/-- No request changes what is reported as the number of devices. -/
theorem count_answer (request : Request) (d : Driver) :
    (answer request d).state.count = d.count := by
  obtain ⟨given, moved⟩ := exists_given_answer request d
  rw [moved]
  rfl

/-- A refusal is one in words, unless it is that of a request for samples whose answer has a number
without an integer part. -/
theorem refusal_cases {d : Driver} {request : Request} {refusal : Refusal}
    (refused : (answer request d).result = .error refusal) :
    (∃ reason, refusal = .declined reason) ∨
      NoInteger refusal ∧ ∃ native metric since samplingType batch,
        request = .samplesOf native metric since ∧ samplingType? metric = some samplingType ∧
          (d.samples native samplingType since).1 = .ok batch ∧ ¬ batch.Finite := by
  cases request with
  | nameOf native =>
      cases name : (d.property native (·.name)).mapError declined with
      | error other =>
          have same := (congrArg (·.bind RawName.decode) name).symm.trans refused
          cases same
          exact .inl (declined_of_mapError name)
      | ok raw =>
          have decoded := (congrArg (·.bind RawName.decode) name).symm.trans refused
          cases raw with
          | text s => cases decoded
          | bytes bs =>
              -- Bytes that are no text are refused in words, like the driver's own refusal of a
              -- name.
              change RawName.decode (.bytes bs) = _ at decoded
              unfold RawName.decode at decoded
              dsimp only at decoded
              split at decoded
              · cases decoded
              · exact .inl ⟨_, (Except.error.inj decoded).symm⟩
  | samplesOf native metric since =>
      unfold answer at refused
      dsimp only at refused
      split at refused
      · exact .inl ⟨_, (Except.error.inj refused).symm⟩
      · rename_i samplingType known
        split at refused
        · exact .inl ⟨_, (Except.error.inj refused).symm⟩
        · rename_i batch _ given
          -- The driver has answered, so the refusal comes from reading one of its values.
          rcases refusal_of_batch refused with declined | ⟨noInteger, infinite⟩
          · exact .inl declined
          · exact .inr ⟨noInteger, native, metric, since, samplingType, batch, rfl, known,
              congrArg Prod.fst given, infinite⟩
  -- All other requests pass the words of the driver on.
  | _ => exact .inl (declined_of_mapError refused)

/-- A finite driver refuses in words only. -/
theorem declined_of_finite {d : Driver} {request : Request} {refusal : Refusal} (finite : d.Finite)
    (refused : (answer request d).result = .error refusal) :
    ∃ reason, refusal = .declined reason := by
  rcases refusal_cases refused with declined | ⟨_, _, _, _, _, batch, _, _, given, infinite⟩
  · exact declined
  · exact absurd (Driver.finite_samples finite given) infinite

end Nvml

end GpuTelemetry
