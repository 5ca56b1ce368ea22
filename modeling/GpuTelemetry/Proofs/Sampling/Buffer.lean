import GpuTelemetry.Proofs.Nvml
import GpuTelemetry.Proofs.Results
import GpuTelemetry.Proofs.Sampling.Mean

/-!
# Readings of a buffer

A buffer of the driver holds rows and gives those that are newer than a time; it changes with no
request. So whatever a reading is since, it takes the same row, the first of greatest timestamp
(`Batch.Latest`), or finds nothing newer. A reading whose cursor does not advance takes that row in
every round. One whose cursor advances takes it once and then asks behind it, where nothing is.

Main statement: `Sampler.readings_of_buffer`.
-/

namespace GpuTelemetry

namespace Nvml

/-! ## The rows of a batch -/

namespace Batch

/-- The values of a batch are of one of the four integer types. -/
def Integral (b : Batch) : Prop :=
  1 ≤ b.valueType ∧ b.valueType ≤ 4

instance : DecidablePred Integral := fun b =>
  inferInstanceAs (Decidable (1 ≤ b.valueType ∧ b.valueType ≤ 4))

/-- The first of the rows with the greatest timestamp. -/
def Latest (b : Batch) (r : Row) : Prop :=
  ∃ before behind, b.rows = before ++ r :: behind ∧
    (∀ q ∈ before, q.timestamp < r.timestamp) ∧ ∀ q ∈ behind, q.timestamp ≤ r.timestamp

/-- The sample that a row becomes when its value is read in some way. -/
def sampleOf (read : Union → Int) (row : Row) : Sample :=
  ⟨row.timestamp, read row.value⟩

variable {b : Batch} {r : Row} {read : Union → Int}

/-- Values of an integer type are all read, and in one way. -/
theorem Integral.exists_read (integral : b.Integral) :
    ∃ read : Union → Int, ∀ u : Union, u.select b.valueType = .ok (read u) := by
  obtain ⟨low, high⟩ := integral
  have types : b.valueType = 1 ∨ b.valueType = 2 ∨ b.valueType = 3 ∨ b.valueType = 4 := by omega
  rcases types with type | type | type | type
  · exact ⟨(·.unsignedInt), fun u => by rw [type]; rfl⟩
  · exact ⟨(·.unsignedLong), fun u => by rw [type]; rfl⟩
  · exact ⟨(·.unsignedLongLong), fun u => by rw [type]; rfl⟩
  · exact ⟨(·.signedLongLong), fun u => by rw [type]; rfl⟩

theorem samples_of_read (reads : ∀ u : Union, u.select b.valueType = .ok (read u))
    (rows : List Row) : samples ⟨b.valueType, rows⟩ = .ok (rows.map (sampleOf read)) := by
  apply mapM_of_ok
  intro row _
  rw [reads]
  rfl

/-- A batch with rows has a latest one. -/
theorem exists_latest (some : b.rows ≠ []) : ∃ r, b.Latest r := by
  let samples := b.rows.map (sampleOf fun _ => 0)
  cases found : Sample.latest? samples with
  | none =>
      rw [Sample.latest?_eq_none_iff, List.map_eq_nil_iff] at found
      exact absurd found some
  | some s =>
      obtain ⟨early, late, split, smaller, bounded⟩ := Sample.isLatest_of_latest? found
      obtain ⟨before, others, rows, rfl, rest⟩ := List.map_eq_append_iff.mp split
      obtain ⟨r, behind, rfl, rfl, rfl⟩ := List.map_eq_cons_iff.mp rest
      refine ⟨r, before, behind, rows, fun q member => ?_, fun q member => ?_⟩
      · exact smaller _ (List.mem_map_of_mem member)
      · exact bounded _ (List.mem_map_of_mem member)

namespace Latest

variable (latest : b.Latest r)
include latest

theorem bound {q : Row} (member : q ∈ b.rows) : q.timestamp ≤ r.timestamp := by
  obtain ⟨before, behind, rows, smaller, bounded⟩ := latest
  rw [rows, List.mem_append, List.mem_cons] at member
  rcases member with early | rfl | late
  · exact Int.le_of_lt (smaller q early)
  · exact Int.le_refl _
  · exact bounded q late

/-- Among the rows that are newer than something it is still the latest. -/
theorem isLatest_newer {since : Int} (newer : since < r.timestamp) :
    Sample.IsLatest ((b.rows.filter (since < ·.timestamp)).map (sampleOf read))
      (sampleOf read r) := by
  obtain ⟨before, behind, rows, smaller, bounded⟩ := latest
  -- The latest row is itself newer, so it stays between what is left before and behind it.
  have kept : b.rows.filter (since < ·.timestamp) =
      before.filter (since < ·.timestamp) ++ r :: behind.filter (since < ·.timestamp) := by
    simp [rows, newer]
  rw [kept, List.map_append, List.map_cons]
  refine ⟨_, _, rfl, ?_, ?_⟩
  · intro s member
    obtain ⟨q, early, rfl⟩ := List.mem_map.mp member
    exact smaller q (List.mem_of_mem_filter early)
  · intro s member
    obtain ⟨q, late, rfl⟩ := List.mem_map.mp member
    exact bounded q (List.mem_of_mem_filter late)

end Latest

end Batch

/-! ## What the driver gives from a buffer -/

namespace Driver

/-- The samples of a metric of the device with a handle come from a buffer. -/
def Buffers (d : Driver) (native : Native) (metric : Metric) (batch : Batch) : Prop :=
  ∃ samplingType place device, samplingType? metric = some samplingType ∧
    d.find? native = some (place, device) ∧
    device.sources.lookup samplingType = some (.buffer batch)

variable {b : Batch} {r : Row} {since : Int}

theorem newer_of_lt (latest : b.Latest r) (newer : since < r.timestamp) :
    Driver.newer b since = .ok ⟨b.valueType, b.rows.filter (since < ·.timestamp)⟩ := by
  have found : r ∈ b.rows.filter (since < ·.timestamp) := by
    obtain ⟨before, behind, rows, _, _⟩ := latest
    simp [rows, newer]
  unfold Driver.newer
  split
  · rename_i none
    rw [none] at found
    cases found
  · rename_i some
    rw [some]

/-- Since its latest row a buffer has nothing. -/
theorem newer_of_le (latest : b.Latest r) (seen : r.timestamp ≤ since) :
    Driver.newer b since = .error notFound := by
  have none : b.rows.filter (since < ·.timestamp) = [] := by
    rw [List.filter_eq_nil_iff]
    intro q member
    have bound := latest.bound member
    simp
    omega
  unfold Driver.newer
  rw [none]

variable {d : Driver} {native : Native} {metric : Metric}

theorem Buffers.averaged (buffers : d.Buffers native metric b) : metric.averaged = true := by
  obtain ⟨_, _, _, sampled, _, _⟩ := buffers
  cases metric with
  | power => cases sampled
  | frequency => cases sampled
  | _ => rfl

/-- Samples from a buffer are what it has that is newer, and it is left as it is. -/
theorem Buffers.answer (buffers : d.Buffers native metric b) (since : Int) :
    (Nvml.answer (.samplesOf native metric since) d).result =
        ((Driver.newer b since).mapError declined).bind Batch.samples ∧
      (Nvml.answer (.samplesOf native metric since) d).state = d := by
  obtain ⟨samplingType, place, device, sampled, found, source⟩ := buffers
  have given : d.samples native samplingType since = (Driver.newer b since, d) := by
    unfold samples
    rw [found]
    dsimp only
    rw [source]
  obtain ⟨result, state⟩ := answer_of_sampled sampled native since d
  rw [given] at result state
  exact ⟨result, state⟩

section Given

variable {id : BackendId} {advance : Bool} {a : Answers} (buffers : d.Buffers native metric b)
include buffers

theorem Buffers.stateAt (since : Nat → Int) (j : Nat) :
    (backend id).stateAt native metric since d j = d := by
  induction j with
  | zero => rfl
  | succ j ih =>
      show (Nvml.answer (.samplesOf native metric (since j))
        ((backend id).stateAt native metric since d j)).state = d
      rw [ih]
      exact (buffers.answer (since j)).2

section Gives

variable (given : (backend id).Gives native metric advance d a)
include given

/-- An answer from a buffer depends on nothing but what the query is since. -/
theorem Buffers.answers (j : Nat) :
    a j = ((Driver.newer b (a.since advance j)).mapError declined).bind Batch.samples := by
  have answered := given j
  rw [buffers.stateAt] at answered
  rw [← answered]
  exact (buffers.answer (a.since advance j)).1

/-- A query since an earlier time takes the latest row. -/
theorem Buffers.reading_of_lt {read : Union → Int}
    (reads : ∀ u : Union, u.select b.valueType = .ok (read u)) (latest : b.Latest r) {j : Nat}
    (newer : a.since advance j < r.timestamp) :
    a.Served j ∧ a.reading j = Batch.sampleOf read r := by
  have answered := buffers.answers given j
  rw [newer_of_lt latest newer] at answered
  have rows : a j = .ok _ := answered.trans (Batch.samples_of_read reads _)
  have isLatest : Sample.IsLatest _ (Batch.sampleOf read r) := latest.isLatest_newer newer
  exact ⟨⟨_, rows, List.ne_nil_of_mem isLatest.mem⟩,
    Answers.reading_of_latest rows (Sample.latest?_eq_some_iff.mpr isLatest)⟩

/-- A query since the latest row finds nothing. -/
theorem Buffers.declined_of_le (latest : b.Latest r) {j : Nat}
    (seen : r.timestamp ≤ a.since advance j) : a j = .error (.declined "Not Found") := by
  have answered := buffers.answers given j
  rw [newer_of_le latest seen] at answered
  exact answered

end Gives

/-- With an advancing cursor the first query finds the latest row, and the second, since that row,
finds nothing. -/
theorem Buffers.exists_advancing (id : BackendId) {read : Union → Int}
    (reads : ∀ u : Union, u.select b.valueType = .ok (read u)) (latest : b.Latest r)
    (positive : 0 < r.timestamp) :
    ∃ a, (backend id).Gives native metric true d a ∧
      (a.Served 0 ∧ a.reading 0 = Batch.sampleOf read r) ∧ a.since true 1 = r.timestamp ∧
      a 1 = .error (.declined "Not Found") := by
  obtain ⟨a, given⟩ := (backend id).exists_gives native metric true d
  have first := buffers.reading_of_lt given reads latest (j := 0) positive
  have cursor : a.since true 1 = r.timestamp := congrArg Sample.timestamp first.2
  exact ⟨a, given, first, cursor, buffers.declined_of_le given latest cursor.ge⟩

end Given

end Driver

end Nvml

/-! ## Readings -/

namespace Sampler

open Nvml

section OfBuffer

variable {session : SessionId} (id : BackendId) (own : Window) {window : Window}
  {device : GpuTelemetry.Device} {metric : Metric} {b : Batch} {t : Sessions Driver} {r : Row}
  {read : Union → Int}
  (isOpen : t.phase session = .opened) (buffers : t.backends.Buffers device.native metric b)
  (latest : b.Latest r) (positive : 0 < r.timestamp)
include isOpen buffers latest positive

/-- Without advancing cursor every round is like the first. -/
theorem average_of_buffer_pinned (reads : ∀ u : Union, u.select b.valueType = .ok (read u)) :
    let s : Sampler Driver := ⟨⟨session, Nvml.backend id⟩, own, false⟩
    let out := s.average device metric window t
    out.result = .ok (read r.value) ∧ out.acts =
      (List.replicate window.count (s.query device metric 0 true)).intersperse
        (.pause window.delay) := by
  intro s out
  obtain ⟨a, given⟩ := (Nvml.backend id).exists_gives device.native metric false t.backends
  have each : ∀ j, a.Served j ∧ a.reading j = Batch.sampleOf read r := by
    intro j
    apply buffers.reading_of_lt given reads latest
    -- Every query is since zero, which the latest row is ahead of.
    rw [Answers.since_pinned]
    exact positive
  have values : ∀ j < window.count, a.Served j ∧ (a.reading j).value = read r.value := by
    intro j _
    obtain ⟨served, taken⟩ := each j
    exact ⟨served, congrArg Sample.value taken⟩
  obtain ⟨result, acts⟩ := average_of_constant (s := s) isOpen given buffers.averaged values
  refine ⟨result, acts.trans (congrArg (List.intersperse _) ?_)⟩
  rw [List.eq_replicate_iff]
  refine ⟨by simp, fun event asked => ?_⟩
  obtain ⟨j, _, rfl⟩ := List.mem_map.mp asked
  obtain ⟨rows, answered, _⟩ := (each j).1
  simp only [s, Answers.since_pinned, answered]
  rfl

/-- With an advancing cursor a window of one sample is read as it is without. -/
theorem average_of_buffer_once (reads : ∀ u : Union, u.select b.valueType = .ok (read u))
    (one : window.count = 1) :
    let s : Sampler Driver := ⟨⟨session, Nvml.backend id⟩, own, true⟩
    let out := s.average device metric window t
    out.result = .ok (read r.value) ∧ out.acts = [s.query device metric 0 true] := by
  intro s out
  obtain ⟨a, given, ⟨served, taken⟩, _⟩ := buffers.exists_advancing id reads latest positive
  have each : ∀ j < window.count, a.Served j ∧ (a.reading j).value = read r.value := by
    intro j inside
    have first : j = 0 := by omega
    subst first
    exact ⟨served, congrArg Sample.value taken⟩
  obtain ⟨result, acts⟩ := average_of_constant (s := s) isOpen given buffers.averaged each
  rw [one] at acts
  refine ⟨result, acts.trans ?_⟩
  obtain ⟨rows, answered, _⟩ := served
  show [s.query device metric 0 (a 0).isOk] = _
  rw [answered]
  rfl

/-- With an advancing cursor any other window fails at its second query. -/
theorem average_of_buffer_again (reads : ∀ u : Union, u.select b.valueType = .ok (read u))
    (more : 2 ≤ window.count) :
    let s : Sampler Driver := ⟨⟨session, Nvml.backend id⟩, own, true⟩
    let out := s.average device metric window t
    out.result = .error (.failed (.samplesFailed metric device.index "Not Found")) ∧
      out.acts = [s.query device metric 0 true, .pause window.delay,
        s.query device metric r.timestamp false] := by
  intro s out
  obtain ⟨a, given, ⟨served, _⟩, cursor, second⟩ :=
    buffers.exists_advancing id reads latest positive
  obtain ⟨asked, result, ended, divided, acts, _⟩ :=
    average_apply (s := s) isOpen given window buffers.averaged
  have early : ∀ j < 1, a.Served j := by
    intro j inside
    have first : j = 0 := by omega
    subst first
    exact served
  -- No row is newer than the latest one, and the driver then has nothing to give.
  have failed : taken metric device.index (a 1) =
      .error (.failed (.samplesFailed metric device.index "Not Found")) := by
    rw [second]
    rfl
  obtain ⟨rfl, rfl⟩ := ended.of_failed more early failed
  refine ⟨divided, acts.trans ?_⟩
  obtain ⟨rows, answered, _⟩ := served
  show [s.query device metric 0 (a 0).isOk, .pause window.delay,
    s.query device metric (a.since true 1) (a 1).isOk] = _
  rw [answered, second, cursor]
  rfl

end OfBuffer

/-- Averaged readings of a buffer with a row of positive timestamp, from an open session. Without
advancing cursor every query is since zero and the reading gives the value of the latest row, the
first one of greatest timestamp, however long the window is. With it a window of one sample gives
the same, and any other fails at its second query, since that row, as the driver has found
nothing. -/
theorem readings_of_buffer (session : SessionId) (id : BackendId) (own window : Window)
    (device : GpuTelemetry.Device) (metric : Metric) {batch : Batch} {t : Sessions Driver}
    (isOpen : t.phase session = .opened)
    (buffers : t.backends.Buffers device.native metric batch) (integral : batch.Integral)
    (positive : ∃ row ∈ batch.rows, 0 < row.timestamp) :
    let out (advance : Bool) :=
      average ⟨⟨session, Nvml.backend id⟩, own, advance⟩ device metric window t
    let query (since : Int) (answered : Bool) : Event :=
      .call (some session) id (.samplesOf device.native metric since) answered
    ∃ r value, batch.Latest r ∧ r.value.select batch.valueType = .ok value ∧
      ((out false).result = .ok value ∧ (out false).acts =
        (List.replicate window.count (query 0 true)).intersperse (.pause window.delay)) ∧
      (window.count = 1 → (out true).result = .ok value ∧ (out true).acts = [query 0 true]) ∧
      (2 ≤ window.count →
        (∃ f : Failure, (out true).result = .error (.failed f) ∧ f.notice =
          ⟨.sampleFailed, s!"get {metric.label} samples for device {device.index}",
            "Not Found"⟩) ∧
        (out true).acts = [query 0 true, .pause window.delay, query r.timestamp false]) := by
  intro out query
  obtain ⟨row, member, later⟩ := positive
  obtain ⟨r, latest⟩ := Batch.exists_latest (List.ne_nil_of_mem member)
  obtain ⟨read, reads⟩ := integral.exists_read
  -- The latest row is no older than the one assumed.
  have positive : 0 < r.timestamp := by
    have bound : row.timestamp ≤ r.timestamp := latest.bound member
    omega
  refine ⟨r, read r.value, latest, reads r.value, ?_, fun one => ?_, fun more => ?_⟩
  · exact average_of_buffer_pinned id own isOpen buffers latest positive reads
  · exact average_of_buffer_once id own isOpen buffers latest positive reads one
  · obtain ⟨failed, acts⟩ :=
      average_of_buffer_again id own isOpen buffers latest positive reads more
    exact ⟨⟨_, failed, rfl⟩, acts⟩

/-- Of two latest rows the first is taken, in every round, and behind it nothing is found. -/
theorem tied_buffer_read :
    let row (timestamp value : Int) : Row := ⟨timestamp, ⟨.nan, 0, 0, 0, value⟩⟩
    let batch : Batch := ⟨4, [row 3 50, row 7 (-4), row (-1) 9, row 7 8]⟩
    let driver : Driver := { devices := [{ sources := [(1, .buffer batch)] }] }
    let t : Sessions Driver := { backends := driver, phase := fun _ => .opened }
    let device : GpuTelemetry.Device := ⟨0, "GPU", .token "h0"⟩
    let out (advance : Bool) :=
      average ⟨⟨0, Nvml.backend 5⟩, .single, advance⟩ device .utilization ⟨3, 2, by decide⟩ t
    let query (since : Int) (answered : Bool) : Event :=
      .call (some 0) 5 (.samplesOf (.token "h0") .utilization since) answered
    (out false).result = .ok (-4) ∧
      (out false).acts =
        [query 0 true, .pause 2, query 0 true, .pause 2, query 0 true] ∧
      (∃ f : Failure, (out true).result = .error (.failed f) ∧
        f.notice = ⟨.sampleFailed, "get gpu_util samples for device 0", "Not Found"⟩) ∧
      (out true).acts = [query 0 true, .pause 2, query 7 false] := by
  intro row batch driver t device out query
  have buffers : driver.Buffers (.token "h0") .utilization batch :=
    ⟨1, 0, { sources := [(1, .buffer batch)] }, rfl, by rfl, rfl⟩
  have positive : ∃ row ∈ batch.rows, 0 < row.timestamp :=
    ⟨row 3 50, List.mem_cons_self, by decide⟩
  obtain ⟨r, value, _, _, ⟨_, pinned⟩, _, advancing⟩ := readings_of_buffer 0 5 .single
    ⟨3, 2, by decide⟩ device .utilization (t := t) rfl buffers (by decide) positive
  obtain ⟨failed, _⟩ := advancing (by decide)
  exact ⟨by decide +kernel, pinned, failed, by decide +kernel⟩

end Sampler

end GpuTelemetry
