import Mathlib.Data.Rat.Floor
import GpuTelemetry.Proofs.Sampling.Rounds

/-!
# Averaged readings

What an averaged reading does and gives, for every window, either kind of cursor and every sequence
of answers: the average of what the answers hold, rounded down, or the failure for the first answer
that holds nothing.

Main statement: `Sampler.average_eq_reference`.
-/

namespace GpuTelemetry.Sampler

variable {σ : Type} {t : Sessions σ}

/-- Dividing by the number of samples rounds down, also below zero. -/
theorem fdiv_count (sum : Int) (window : Window) :
    Int.fdiv sum window.count = ⌊(sum : ℚ) / window.count⌋ := by
  rw [Rat.floor_intCast_div_natCast, Int.fdiv_eq_ediv_of_nonneg _ (by omega)]

/-- An answer that a reading cannot use, and the reason that it gives for its failure. -/
inductive Unusable : Except Refusal (List Sample) → String → Prop
  | declined (reason : String) : Unusable (.error (.declined reason)) reason
  | empty : Unusable (.ok []) "no samples available"

/-- A reading ends with a failure of its own at an answer that it cannot use. -/
theorem taken_of_unusable {answer : Except Refusal (List Sample)} {detail : String}
    (unusable : Unusable answer detail) (metric : Metric) (index : Int) :
    ∃ f : Failure, taken metric index answer = .error (.failed f) ∧
      f.notice = ⟨.sampleFailed, s!"get {metric.label} samples for device {index}", detail⟩ := by
  cases unusable with
  | declined => exact ⟨.samplesFailed metric index detail, rfl, rfl⟩
  | empty => exact ⟨.samplesEmpty metric index, rfl, rfl⟩

/-- An averaged reading in an open session. The backend gives some sequence of answers, and whatever
it is: query zero is since zero, and a later one since the timestamp of the first latest row of the
answer before it if the cursor advances, else since zero. If the answers that it takes to fill the
window all have rows, the reading gives the floor of the average of their latest values, after one
query for each and a pause between any two. At the first that it cannot use it fails for the reason
of that answer. -/
theorem average_eq_reference (s : Sampler σ) (device : Device) (metric : Metric)
    (window : Window) (isOpen : t.phase s.session.id = .opened)
    (sampled : metric.averaged = true) :
    (∃ a, s.session.backend.Gives device.native metric s.advance t.backends a) ∧
    ∀ a, s.session.backend.Gives device.native metric s.advance t.backends a →
      let out := s.average device metric window t
      let query (j : Nat) := s.query device metric (a.since s.advance j) (a j).isOk
      (a.since s.advance 0 = 0 ∧ ∀ j rows, a j = .ok rows → rows ≠ [] →
        Sample.IsLatest rows (a.reading j) ∧
          a.since s.advance (j + 1) = if s.advance then (a.reading j).timestamp else 0) ∧
      ((∀ j < window.count, a.Served j) →
        out.result = .ok
          ⌊((∑ j ∈ Finset.range window.count, (a.reading j).value : ℤ) : ℚ) / window.count⌋ ∧
        out.acts = ((List.range window.count).map query).intersperse (.pause window.delay)) ∧
      ∀ k < window.count, ∀ detail, (∀ j < k, a.Served j) → Unusable (a k) detail →
        (∃ f : Failure, out.result = .error (.failed f) ∧ f.notice =
          ⟨.sampleFailed, s!"get {metric.label} samples for device {device.index}", detail⟩) ∧
        out.acts = ((List.range (k + 1)).map query).intersperse (.pause window.delay) := by
  refine ⟨Backend.exists_gives .., fun a given => ?_⟩
  intro out query
  obtain ⟨asked, result, ended, divided, acts, _⟩ := average_apply isOpen given window sampled
  have queries : out.acts = ((List.range asked).map query).intersperse (.pause window.delay) := by
    rw [List.range_eq_range']
    exact acts
  refine ⟨⟨rfl, fun j rows answered some => ⟨Answers.isLatest_reading answered some, rfl⟩⟩,
    fun served => ?_, fun k within detail early unusable => ?_⟩
  · -- All answers served: the reading has asked for the whole window.
    obtain ⟨rfl, rfl⟩ := ended.of_served served
    refine ⟨?_, queries⟩
    rw [← fdiv_count]
    exact divided
  · obtain ⟨f, failed, named⟩ := taken_of_unusable unusable metric device.index
    -- An answer of no use: it is the last one that was asked for.
    obtain ⟨rfl, rfl⟩ := ended.of_failed within early failed
    exact ⟨⟨f, divided, named⟩, queries⟩

/-- Of two latest rows the first counts, a negative average is rounded down as well, and a third
sample is asked for since the second and declined. -/
theorem tied_rows_averaged :
    let rows : Answers
      | 0 => .ok [⟨5, 3⟩, ⟨9, -4⟩, ⟨9, 100⟩]
      | 1 => .ok [⟨12, -3⟩]
      | _ => .error (.declined "gone")
    let s : Sampler Nat := ⟨⟨0, Backend.scripted 7 rows⟩, .single, true⟩
    let device : Device := ⟨1, "A", .token "x"⟩
    let t : Sessions Nat := { backends := 0, phase := fun _ => .opened }
    let pair := s.average device .utilization ⟨2, 3, by decide⟩ t
    let triple := s.average device .utilization ⟨3, 0, by decide⟩ t
    pair.result = .ok (-4) ∧
      pair.acts =
        [s.query device .utilization 0 true, .pause 3, s.query device .utilization 9 true] ∧
      (∃ f : Failure, triple.result = .error (.failed f) ∧
        f.notice = ⟨.sampleFailed, "get gpu_util samples for device 1", "gone"⟩) ∧
      triple.acts = [s.query device .utilization 0 true, .pause 0,
        s.query device .utilization 9 true, .pause 0, s.query device .utilization 12 false] := by
  intro rows s device t pair triple
  have given : s.session.backend.Gives device.native .utilization s.advance t.backends rows :=
    Backend.gives_scripted device.native .utilization 7 true rows
  have served : ∀ j < 2, rows.Served j := by
    intro j inside
    have cases : j = 0 ∨ j = 1 := by omega
    rcases cases with rfl | rfl
    · exact ⟨_, rfl, List.cons_ne_nil _ _⟩
    · exact ⟨_, rfl, List.cons_ne_nil _ _⟩
  have isOpen : t.phase s.session.id = .opened := rfl
  obtain ⟨_, full, _⟩ :=
    (average_eq_reference s device .utilization ⟨2, 3, by decide⟩ isOpen rfl).2 rows given
  obtain ⟨_, _, failed⟩ :=
    (average_eq_reference s device .utilization ⟨3, 0, by decide⟩ isOpen rfl).2 rows given
  obtain ⟨average, acts⟩ := full served
  obtain ⟨failure, asked⟩ := failed 2 (by decide) "gone" served (.declined "gone")
  refine ⟨?_, acts, failure, asked⟩
  -- The floor of a rational does not evaluate, unlike the sum and the integer division.
  have sum : ∑ j ∈ Finset.range 2, (rows.reading j).value = -7 := by decide
  refine average.trans (congrArg Except.ok ?_)
  show ⌊((∑ j ∈ Finset.range 2, (rows.reading j).value : ℤ) : ℚ) / (2 : ℕ)⌋ = -4
  rw [sum]
  exact (fdiv_count (-7) ⟨2, 3, by decide⟩).symm

end GpuTelemetry.Sampler
