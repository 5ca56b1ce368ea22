import Mathlib.Algebra.Order.BigOperators.Group.Finset
import Mathlib.Data.Finset.Lattice.Fold
import GpuTelemetry.Proofs.Sampling.Rounds

/-!
# The mean of a reading

What a reading gives is the mean of the latest values of its answers, rounded down
(`Answers.mean`). It lies between the least and the greatest of them and grows with each of them.
In which order the rows of an answer come does not matter, as long as no two have the same timestamp
(`Sample.latest?_perm`).

Main statement: `Sampler.average_in_any_order`.
-/

namespace GpuTelemetry

variable {σ : Type}

/-! ## Means -/

namespace Answers

/-- The mean of the latest values of the first so many answers, rounded down. -/
def mean (a : Answers) (count : Nat) : Int :=
  Int.fdiv (∑ j ∈ Finset.range count, (a.reading j).value) count

variable {a b : Answers} {count : Nat}

theorem mean_eq_ediv (a : Answers) (count : Nat) :
    a.mean count = (∑ j ∈ Finset.range count, (a.reading j).value) / count :=
  Int.fdiv_eq_ediv_of_nonneg _ (Int.natCast_nonneg count)

theorem mean_congr (same : ∀ j < count, a.reading j = b.reading j) :
    a.mean count = b.mean count := by
  have sums : ∑ j ∈ Finset.range count, (a.reading j).value =
      ∑ j ∈ Finset.range count, (b.reading j).value := by
    apply Finset.sum_congr rfl
    intro j inside
    rw [same j (Finset.mem_range.mp inside)]
  unfold mean
  rw [sums]

section Bounds

variable (some : 0 < count)
include some

/-- The mean grows with each of the values. -/
theorem mean_le_mean (each : ∀ j < count, (a.reading j).value ≤ (b.reading j).value) :
    a.mean count ≤ b.mean count := by
  have sums : ∑ j ∈ Finset.range count, (a.reading j).value ≤
      ∑ j ∈ Finset.range count, (b.reading j).value := by
    apply Finset.sum_le_sum
    intro j inside
    exact each j (Finset.mem_range.mp inside)
  rw [mean_eq_ediv, mean_eq_ediv]
  exact Int.ediv_le_ediv (by omega) sums

theorem le_mean {least : Int} (bound : ∀ j < count, least ≤ (a.reading j).value) :
    least ≤ a.mean count := by
  have sum : count • least ≤ ∑ j ∈ Finset.range count, (a.reading j).value := by
    have terms := Finset.card_nsmul_le_sum (Finset.range count) (fun j => (a.reading j).value)
      least fun j inside => bound j (Finset.mem_range.mp inside)
    simpa using terms
  rw [mean_eq_ediv]
  apply Int.le_ediv_of_mul_le (by omega)
  rw [Int.mul_comm]
  simpa using sum

theorem mean_le {most : Int} (bound : ∀ j < count, (a.reading j).value ≤ most) :
    a.mean count ≤ most := by
  have sum : ∑ j ∈ Finset.range count, (a.reading j).value ≤ count • most := by
    have terms := Finset.sum_le_card_nsmul (Finset.range count) (fun j => (a.reading j).value)
      most fun j inside => bound j (Finset.mem_range.mp inside)
    simpa using terms
  rw [mean_eq_ediv]
  apply Int.ediv_le_of_le_mul (by omega)
  rw [Int.mul_comm]
  simpa using sum

/-- The mean of one value is that value. -/
theorem mean_of_constant {value : Int} (all : ∀ j < count, (a.reading j).value = value) :
    a.mean count = value := by
  have low : value ≤ a.mean count := le_mean some fun j inside => (all j inside).ge
  have high : a.mean count ≤ value := mean_le some fun j inside => (all j inside).le
  omega

end Bounds

end Answers

/-! ## The order of the rows -/

/-- Which sample is the latest does not depend on the order in which they come, if no two have the
same timestamp. -/
theorem Sample.latest?_perm {rows others : List Sample} (perm : rows.Perm others)
    (distinct : (rows.map (·.timestamp)).Nodup) : latest? rows = latest? others := by
  cases found : latest? rows with
  | none =>
      have none : rows = [] := latest?_eq_none_iff.mp found
      have noneEither : others = [] := (none ▸ perm).nil_eq.symm
      rw [latest?_eq_none_iff.mpr noneEither]
  | some r =>
      have latest : IsLatest rows r := isLatest_of_latest? found
      cases found' : latest? others with
      | none =>
          have none : rows = [] := (latest?_eq_none_iff.mp found' ▸ perm).eq_nil
          exact absurd latest.mem (by simp [none])
      | some r' =>
          have latest' : IsLatest others r' := isLatest_of_latest? found'
          have member : r' ∈ rows := perm.mem_iff.mpr latest'.mem
          -- Each of the two is no later than the other.
          have times : r.timestamp = r'.timestamp := by
            have before := latest'.bound (perm.mem_iff.mp latest.mem)
            have behind := latest.bound member
            omega
          rw [List.inj_on_of_nodup_map distinct latest.mem member times]

namespace Answers

/-- Two answers with the same rows in whatever order, no two of them with the same timestamp. -/
def Reordered (a b : Answers) (j : Nat) : Prop :=
  ∃ rows others, a j = .ok rows ∧ b j = .ok others ∧ rows.Perm others ∧
    (rows.map (·.timestamp)).Nodup

variable {a b : Answers}

theorem Reordered.reading_eq {j : Nat} (reordered : Reordered a b j) :
    a.reading j = b.reading j := by
  obtain ⟨rows, others, answered, answered', perm, distinct⟩ := reordered
  unfold reading
  rw [answered, answered']
  dsimp only
  rw [Sample.latest?_perm perm distinct]

theorem Reordered.isOk_eq {j : Nat} (reordered : Reordered a b j) : (a j).isOk = (b j).isOk := by
  obtain ⟨rows, others, answered, answered', _, _⟩ := reordered
  rw [answered, answered']
  rfl

/-- What a query is since depends on the answers before it. -/
theorem since_congr {advance : Bool} {j : Nat} (before : ∀ i < j, a.reading i = b.reading i) :
    a.since advance j = b.since advance j := by
  cases j with
  | zero => rfl
  | succ j =>
      have last := before j (Nat.lt_succ_self j)
      simp only [since, last]

end Answers

/-! ## Readings -/

namespace Sampler

variable {s : Sampler σ} {device : Device} {metric : Metric} {window : Window} {t : Sessions σ}
  {a b : Answers}

/-- A reading whose answers all have rows gives the mean, after one query for each sample. -/
theorem average_of_served (isOpen : t.phase s.session.id = .opened)
    (given : s.session.backend.Gives device.native metric s.advance t.backends a)
    (sampled : metric.averaged = true) (served : ∀ j < window.count, a.Served j) :
    (s.average device metric window t).result = .ok (a.mean window.count) ∧
      (s.average device metric window t).acts =
        s.rounds device metric window a 0 window.count := by
  obtain ⟨asked, result, ended, divided, acts, _⟩ := average_apply isOpen given window sampled
  obtain ⟨rfl, rfl⟩ := ended.of_served served
  exact ⟨divided, acts⟩

/-- If all of them have the same latest value, the reading gives it. -/
theorem average_of_constant (isOpen : t.phase s.session.id = .opened)
    (given : s.session.backend.Gives device.native metric s.advance t.backends a)
    (sampled : metric.averaged = true) {value : Int}
    (each : ∀ j < window.count, a.Served j ∧ (a.reading j).value = value) :
    (s.average device metric window t).result = .ok value ∧
      (s.average device metric window t).acts =
        s.rounds device metric window a 0 window.count := by
  obtain ⟨result, acts⟩ := average_of_served isOpen given sampled fun j inside => (each j inside).1
  rw [Answers.mean_of_constant window.count_pos fun j inside => (each j inside).2] at result
  exact ⟨result, acts⟩

/-- Reordered answers are asked for in the same rounds. -/
theorem rounds_of_reordered {count : Nat} (reordered : ∀ j < count, Answers.Reordered a b j) :
    s.rounds device metric window b 0 count = s.rounds device metric window a 0 count := by
  have queries : ∀ j ∈ List.range' 0 count,
      s.query device metric (b.since s.advance j) (b j).isOk =
        s.query device metric (a.since s.advance j) (a j).isOk := by
    intro j member
    have inside : j < count := by simpa using member
    -- The cursor comes from earlier answers, whose latest rows are the same in either order.
    have cursor : a.since s.advance j = b.since s.advance j := by
      apply Answers.since_congr
      intro i before
      exact (reordered i (by omega)).reading_eq
    rw [cursor, (reordered j inside).isOk_eq]
  unfold rounds
  rw [List.map_congr_left queries]

/-- A reading in an open session whose answers all have rows gives a mean of their latest values. It
is neither less than the least of them nor more than the greatest, and it is their value if all of
them have the same. Another reading, in whatever state of the backend, gives no less if none of its
latest values is less; and if its answers have the same rows in another order, no two of a row's
timestamps being the same, then it gives the same, asks since the same times and pauses in the same
places. -/
theorem average_in_any_order (s : Sampler σ) (device : Device) (metric : Metric) (window : Window)
    {t : Sessions σ} (isOpen : t.phase s.session.id = .opened) (sampled : metric.averaged = true) :
    ∀ a, s.session.backend.Gives device.native metric s.advance t.backends a →
      (∀ j < window.count, a.Served j) →
      let out := s.average device metric window t
      let rounds := Finset.range window.count
      let value (j : Nat) := (a.reading j).value
      (∀ j < window.count, ∃ rows, a j = .ok rows ∧ Sample.IsLatest rows (a.reading j)) ∧
      ∃ mean, out.result = .ok mean ∧
        (∃ some : rounds.Nonempty, rounds.inf' some value ≤ mean ∧ mean ≤ rounds.sup' some value) ∧
        (∀ same, (∀ j < window.count, value j = same) → mean = same) ∧
        ∀ t' : Sessions σ, t'.phase s.session.id = .opened →
          ∀ b, s.session.backend.Gives device.native metric s.advance t'.backends b →
          (∀ j < window.count, b.Served j) →
          let other := s.average device metric window t'
          ((∀ j < window.count, value j ≤ (b.reading j).value) →
            ∃ mean', other.result = .ok mean' ∧ mean ≤ mean') ∧
          ((∀ j < window.count, Answers.Reordered a b j) →
            other.result = .ok mean ∧ other.acts = out.acts) := by
  intro a given served out rounds value
  obtain ⟨result, acts⟩ := average_of_served isOpen given sampled served
  have some := window.count_pos
  have nonempty : rounds.Nonempty := Finset.nonempty_range_iff.mpr (by omega)
  refine ⟨fun j inside => ?_, a.mean window.count, result, ⟨nonempty, ?_, ?_⟩,
    fun same all => Answers.mean_of_constant some all, ?_⟩
  · obtain ⟨rows, answered, some⟩ := served j inside
    exact ⟨rows, answered, Answers.isLatest_reading answered some⟩
  · apply Answers.le_mean some
    intro j inside
    exact Finset.inf'_le value (Finset.mem_range.mpr inside)
  · apply Answers.mean_le some
    intro j inside
    exact Finset.le_sup' value (Finset.mem_range.mpr inside)
  · intro t' isOpen' b given' served' other
    obtain ⟨result', acts'⟩ := average_of_served isOpen' given' sampled served'
    refine ⟨fun each => ⟨_, result', Answers.mean_le_mean some each⟩, fun reordered => ⟨?_, ?_⟩⟩
    · -- The mean depends on the latest rows only, which keep their places among the answers.
      rw [Answers.mean_congr fun j inside => (reordered j inside).reading_eq]
      exact result'
    · exact acts'.trans ((rounds_of_reordered reordered).trans acts.symm)

/-- The same rows in another order give the same mean, rounded down below zero too, and a greater
latest value gives no smaller one. -/
theorem reordered_rows_averaged :
    let script : Answers
      | 0 => .ok [⟨5, 3⟩, ⟨9, -4⟩]
      | 1 => .ok [⟨12, -3⟩, ⟨11, 7⟩]
      | 2 => .ok [⟨9, -4⟩, ⟨5, 3⟩]
      | 3 => .ok [⟨11, 7⟩, ⟨12, -3⟩]
      | 4 => .ok [⟨9, 10⟩]
      | 5 => .ok [⟨8, -3⟩]
      | _ => .error (.declined "gone")
    let s : Sampler Nat := ⟨⟨0, Backend.scripted 7 script⟩, .single, true⟩
    let t (asked : Nat) : Sessions Nat := { backends := asked, phase := fun _ => .opened }
    let out (asked : Nat) := s.average ⟨1, "A", .token "x"⟩ .utilization ⟨2, 3, by decide⟩ (t asked)
    (out 0).result = .ok (-4) ∧ (out 2).result = .ok (-4) ∧ (out 2).acts = (out 0).acts ∧
      ∃ mean, (out 4).result = .ok mean ∧ -4 ≤ mean := by
  intro script s t out
  have given (asked : Nat) : s.session.backend.Gives (.token "x") .utilization s.advance
      (t asked).backends fun j => script (asked + j) :=
    Backend.gives_scripted_from (.token "x") .utilization 7 true script asked
  have cases : ∀ j < 2, j = 0 ∨ j = 1 := by omega
  have served (asked : Nat) (early : asked = 0 ∨ asked = 2 ∨ asked = 4) :
      ∀ j < 2, Answers.Served (fun j => script (asked + j)) j := by
    intro j inside
    rcases early with rfl | rfl | rfl <;> rcases cases j inside with rfl | rfl <;>
      exact ⟨_, rfl, List.cons_ne_nil _ _⟩
  obtain ⟨_, mean, result, _, _, others⟩ := average_in_any_order s ⟨1, "A", .token "x"⟩ .utilization
    ⟨2, 3, by decide⟩ (t := t 0) rfl rfl _ (given 0) (served 0 (.inl rfl))
  have first : (out 0).result = .ok (-4) := by decide +kernel
  cases first.symm.trans result
  obtain ⟨_, same⟩ := others (t 2) rfl _ (given 2) (served 2 (.inr (.inl rfl)))
  obtain ⟨more, _⟩ := others (t 4) rfl _ (given 4) (served 4 (.inr (.inr rfl)))
  obtain ⟨result', acts'⟩ := same fun j inside => by
    rcases cases j inside with rfl | rfl
    · exact ⟨_, _, rfl, rfl, .swap _ _ _, by decide⟩
    · exact ⟨_, _, rfl, rfl, .swap _ _ _, by decide⟩
  refine ⟨first, result', acts', more fun j inside => ?_⟩
  rcases cases j inside with rfl | rfl
  · decide
  · decide

end Sampler

end GpuTelemetry
