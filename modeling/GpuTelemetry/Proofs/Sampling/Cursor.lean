import Mathlib.Order.Bounds.Defs
import GpuTelemetry.Proofs.Results
import GpuTelemetry.Proofs.Sampling.Rounds
import GpuTelemetry.Proofs.Simulated

/-!
# The advancing cursor

With an advancing cursor a reading asks for samples behind the last one that it took. If every
answer honours that, the cursor always stands at the latest sample seen so far in the whole reading,
although each round looks at its own answer only, and no sample is taken twice.

Simulated devices honour it in every state that they can come to, as all their samples have
timestamps from one clock.

Main statement: `Sampler.no_sample_taken_twice`.
-/

namespace GpuTelemetry

variable {σ : Type}

/-! ## Answers that honour the cursor -/

namespace Answers

/-- All rows of the first so many answers are behind the cursor that they were asked since. -/
def Honours (a : Answers) (asked : Nat) : Prop :=
  ∀ j < asked, ∀ rows, a j = .ok rows → ∀ r ∈ rows, a.since true j < r.timestamp

/-- The timestamps of all rows in the answers up to one. -/
def seen (a : Answers) (j : Nat) : Set Int :=
  {time | ∃ i ≤ j, ∃ rows, a i = .ok rows ∧ ∃ r ∈ rows, r.timestamp = time}

variable {a : Answers} {asked : Nat} (honours : a.Honours asked)
include honours

/-- A round moves the cursor on. -/
theorem since_lt_reading {j : Nat} (inside : j < asked) (served : a.Served j) :
    a.since true j < (a.reading j).timestamp := by
  obtain ⟨rows, answered, some⟩ := served
  exact honours j inside rows answered _ (isLatest_reading answered some).mem

section Early

variable (early : ∀ j, j + 1 < asked → a.Served j)
include early

theorem since_lt_since {i j : Nat} (before : i < j) (inside : j < asked) :
    a.since true i < a.since true j := by
  induction j with
  | zero => omega
  | succ j ih =>
      have step : a.since true j < a.since true (j + 1) :=
        since_lt_reading honours (by omega) (early j inside)
      rcases Nat.lt_succ_iff_lt_or_eq.mp before with earlier | rfl
      · have rest := ih earlier (by omega)
        omega
      · exact step

/-- Behind a round the cursor is the greatest timestamp of all answers so far. -/
theorem isGreatest_since {j : Nat} (inside : j + 1 < asked) :
    IsGreatest (a.seen j) (a.since true (j + 1)) := by
  constructor
  · obtain ⟨rows, answered, some⟩ := early j inside
    exact ⟨j, Nat.le_refl j, rows, answered, _, (isLatest_reading answered some).mem, rfl⟩
  · rintro time ⟨i, upTo, rows, answered, r, member, rfl⟩
    have some : rows ≠ [] := List.ne_nil_of_mem member
    have latest : r.timestamp ≤ a.since true (i + 1) :=
      (isLatest_reading answered some).bound member
    rcases Nat.eq_or_lt_of_le upTo with rfl | before
    · exact latest
    · -- An earlier answer is behind the cursor of its own round, and cursors only go up.
      have later : a.since true (i + 1) < a.since true (j + 1) :=
        since_lt_since honours early (by omega) inside
      omega

end Early

/-- Among answers with rows, what is taken later has a later timestamp. -/
theorem reading_lt_reading (served : ∀ j < asked, a.Served j) {i j : Nat} (before : i < j)
    (inside : j < asked) : (a.reading i).timestamp < (a.reading j).timestamp := by
  have early : ∀ j, j + 1 < asked → a.Served j := fun j within => served j (by omega)
  have step : a.since true j < (a.reading j).timestamp :=
    since_lt_reading honours inside (served j inside)
  have cursor : a.since true (i + 1) = (a.reading i).timestamp := rfl
  rcases Nat.eq_or_lt_of_le (Nat.succ_le_of_lt before) with rfl | later
  · exact step
  · have rest := since_lt_since honours early later inside
    simp only [Nat.succ_eq_add_one, cursor] at rest
    omega

end Answers

/-! ## Simulated devices -/

namespace Simulated

/-- The states that simulated devices can come to: from new ones by requests of any kind, in
whatever way they are answered, by failures that are injected and mended, and by a change of the
devices. -/
inductive Reached : Simulated → Prop
  | new (devices : List Device) : Reached { devices }
  | asked {s : Simulated} (request : Request) (before : Reached s) :
      Reached (answer request s).state
  | injected {s : Simulated} (operation : Operation) (failure : Injected) (before : Reached s) :
      Reached (s.inject operation failure)
  | mended {s : Simulated} (before : Reached s) : Reached s.mend
  | changed {s : Simulated} (devices : List Device) (before : Reached s) :
      Reached { s with devices }

theorem Reached.time_nonneg {s : Simulated} (reached : Reached s) : 0 ≤ s.time := by
  induction reached with
  | new devices => exact Int.le_refl 0
  | asked request before ih => exact Int.le_trans ih (time_le_answer request _)
  | injected operation failure before ih => exact ih
  | mended before ih => exact ih
  | changed devices before ih => exact ih

section Given

variable {id : BackendId} {native : Native} {metric : Metric} {s : Simulated} {a : Answers}
  (start : 0 ≤ s.time) (given : (backend id).Gives native metric true s a)
include start given

/-- During a reading the clock is never behind the cursor. -/
theorem since_le_time (j : Nat) :
    0 ≤ ((backend id).stateAt native metric (a.since true) s j).time ∧
      a.since true j ≤ ((backend id).stateAt native metric (a.since true) s j).time := by
  induction j with
  | zero => exact ⟨start, start⟩
  | succ j ih =>
      let before := (backend id).stateAt native metric (a.since true) s j
      have answered : (answer (.samplesOf native metric (a.since true j)) before).result = a j :=
        given j
      have clock : 0 ≤ before.time := ih.1
      show 0 ≤ (answer (.samplesOf native metric (a.since true j)) before).state.time ∧
        (a.reading j).timestamp ≤
          (answer (.samplesOf native metric (a.since true j)) before).state.time
      cases handing_answer native metric (a.since true j) before with
      -- Without a sample the cursor falls back to zero, and the clock is never below that.
      | nothing samples time =>
          have unserved : ¬ a.Served j := by
            rintro ⟨rows, served, some⟩
            exact some (samples rows (answered.trans served))
          rw [Answers.reading_of_unserved unserved, time]
          exact ⟨clock, clock⟩
      | one value samples time =>
          -- The sample that was given is one tick ahead of the clock, and the clock follows.
          have taken : a.reading j = ⟨before.time + 1000, value⟩ :=
            Answers.reading_of_latest (answered.symm.trans samples) rfl
          rw [taken, time]
          exact ⟨by omega, Int.le_refl _⟩

/-- Simulated devices honour what a reading asks since, whenever their clock has not been set below
its start. -/
theorem honours_of_given (asked : Nat) : a.Honours asked := by
  intro j _ rows served r member
  let before := (backend id).stateAt native metric (a.since true) s j
  have answered : (answer (.samplesOf native metric (a.since true j)) before).result = a j :=
    given j
  obtain ⟨_, bound⟩ := since_le_time start given j
  -- A new sample is ahead of the clock, and the clock of the cursor.
  have behind : a.since true j ≤ before.time := bound
  rw [served] at answered
  cases handing_answer native metric (a.since true j) before with
  | nothing samples time =>
      rw [samples rows answered] at member
      cases member
  | one value samples time =>
      rw [answered] at samples
      cases samples
      cases List.mem_singleton.mp member
      dsimp only
      omega

end Given

end Simulated

/-! ## Readings -/

/-- A reading with an advancing cursor, in an open session, whose backend honours what it is asked
since: the cursors of its queries increase from zero on, each behind the first is the greatest
timestamp in the answers so far, and if it gives a value, then one of as many samples as the window
has, no two of which have the same timestamp. Simulated devices honour it in every state that they
can come to. -/
theorem Sampler.no_sample_taken_twice (s : Sampler σ) (device : Device) (metric : Metric)
    (window : Window) {t : Sessions σ} (isOpen : t.phase s.session.id = .opened)
    (sampled : metric.averaged = true) (advancing : s.advance = true) :
    (∀ a, s.session.backend.Gives device.native metric true t.backends a →
      let out := s.average device metric window t
      let asked := out.calls.length
      a.Honours asked →
        out.calls.map (·.request) = (List.range asked).map
          (fun j => .samplesOf device.native metric (a.since true j)) ∧
        a.since true 0 = 0 ∧
        (∀ i j, i < j → j < asked → a.since true i < a.since true j) ∧
        (∀ j, j + 1 < asked → IsGreatest (a.seen j) (a.since true (j + 1))) ∧
        ∀ value, out.result = .ok value →
          value = Int.fdiv (∑ j ∈ Finset.range window.count, (a.reading j).value) window.count ∧
          (∀ j < window.count, ∃ rows, a j = .ok rows ∧ Sample.IsLatest rows (a.reading j)) ∧
          ∀ i j, i < j → j < window.count →
            (a.reading i).timestamp < (a.reading j).timestamp) ∧
    ∀ x, Simulated.Reached x → ∀ id native metric a,
      (Simulated.backend id).Gives native metric true x a → ∀ asked, a.Honours asked := by
  refine ⟨fun a given => ?_, fun x reached id native metric a given asked =>
    Simulated.honours_of_given reached.time_nonneg given asked⟩
  intro out asked honours
  obtain ⟨queries, result, ended, divided, acts, _⟩ :=
    average_apply isOpen (advancing ▸ given) window sampled
  have calls : out.calls = (List.range queries).map fun j =>
      s.session.call (.samplesOf device.native metric (a.since true j)) (a j).isOk := by
    rw [out.calls_of_acts, acts, calls_rounds, advancing, List.range_eq_range']
  have number : asked = queries := by
    simp only [asked, calls, List.length_map, List.length_range]
  -- What is honoured is said of the calls that are made, and there is one for each round.
  rw [number] at honours ⊢
  have early : ∀ j, j + 1 < queries → a.Served j := fun j inside => ended.served inside
  refine ⟨?_, rfl, fun i j before inside => Answers.since_lt_since honours early before inside,
    fun j inside => Answers.isGreatest_since honours early inside, fun value gave => ?_⟩
  · rw [calls, List.map_map]
    rfl
  · -- A value is only given if every round of the window has been served.
    obtain ⟨sum, total, rfl⟩ := map_eq_ok (divided.symm.trans gave)
    obtain ⟨rfl, served, rfl⟩ := ended.of_ok total
    refine ⟨rfl, fun j inside => ?_, fun i j before inside =>
      Answers.reading_lt_reading honours served before inside⟩
    obtain ⟨rows, answered, some⟩ := served j inside
    exact ⟨rows, answered, Answers.isLatest_reading answered some⟩

/-- Simulated devices one of which has been sampled before: a reading of the other starts at zero
all the same, and then follows the clock. -/
theorem earlier_sampling_left_behind :
    let x : Simulated := (Simulated.answer (.samplesOf (.slot 1) .totalPower 0)
      { devices := [⟨"A", 0, 0, [(.utilization, [10, 20, 30])]⟩,
        ⟨"B", 0, 0, [(.totalPower, [7])]⟩] }).state
    let s : Sampler Simulated := ⟨⟨0, Simulated.backend 0⟩, .single, true⟩
    let t : Sessions Simulated := { backends := x, phase := fun _ => .opened }
    let out := s.average ⟨0, "A", .slot 0⟩ .utilization ⟨3, 1, by decide⟩ t
    let query (since : Int) : Request := .samplesOf (.slot 0) .utilization since
    out.result = .ok 20 ∧ out.calls.map (·.request) = [query 0, query 2000, query 3000] ∧
      ∃ a : Answers, s.session.backend.Gives (.slot 0) .utilization true x a ∧
        a.Honours out.calls.length ∧
        out.calls.map (·.request) =
          (List.range out.calls.length).map (fun j => query (a.since true j)) ∧
        ∀ i j, i < j → j < out.calls.length → a.since true i < a.since true j := by
  intro x s t out query
  have reached : Simulated.Reached x := .asked _ (.new _)
  obtain ⟨a, given⟩ := (Simulated.backend 0).exists_gives (.slot 0) .utilization true x
  have isOpen : t.phase s.session.id = .opened := rfl
  obtain ⟨reading, simulated⟩ := s.no_sample_taken_twice ⟨0, "A", .slot 0⟩ .utilization
    ⟨3, 1, by decide⟩ isOpen rfl rfl
  have honours := simulated x reached 0 (.slot 0) .utilization a given out.calls.length
  obtain ⟨requests, _, increasing, _⟩ := reading a given honours
  exact ⟨by decide +kernel, by decide +kernel, a, given, honours, requests, increasing⟩

end GpuTelemetry
