import GpuTelemetry.Sampler

/-!
# Answers to the queries of a reading

An averaged reading asks one backend for samples, over and over, and what it asks next depends on
what it was answered. Seen from the outside there is a sequence of answers, and each query is since
the cursor that the answer before it leaves (`Answers.since`). Which sequence a backend gives
depends on the state that it is in (`Backend.Gives`).

Main statements:

* `Sample.latest?_eq_some_iff`: the sample that is taken from an answer is the first of those with
  the greatest timestamp;
* `Backend.exists_gives`: every backend gives a sequence of answers from every state;
* `Backend.gives_scripted`: every sequence is given by some backend.
-/

namespace GpuTelemetry

variable {σ : Type}

/-! ## The latest sample -/

namespace Sample

/-- A row of greatest timestamp with smaller ones before it: the first row of greatest timestamp. -/
def IsLatest (rows : List Sample) (r : Sample) : Prop :=
  ∃ before behind, rows = before ++ r :: behind ∧
    (∀ q ∈ before, q.timestamp < r.timestamp) ∧ ∀ q ∈ behind, q.timestamp ≤ r.timestamp

variable {rows : List Sample} {r q : Sample}

theorem IsLatest.mem (latest : IsLatest rows r) : r ∈ rows := by
  obtain ⟨before, behind, rfl, _, _⟩ := latest
  exact List.mem_append_right _ List.mem_cons_self

theorem IsLatest.bound (latest : IsLatest rows r) (member : q ∈ rows) :
    q.timestamp ≤ r.timestamp := by
  obtain ⟨before, behind, rfl, smaller, bounded⟩ := latest
  rcases List.mem_append.mp member with early | late
  · exact Int.le_of_lt (smaller q early)
  · rcases List.mem_cons.mp late with rfl | late
    · exact Int.le_refl _
    · exact bounded q late

theorem latest?_eq_none_iff : latest? rows = none ↔ rows = [] := by
  cases rows with
  | nil => exact ⟨fun _ => rfl, fun _ => rfl⟩
  | cons sample rest =>
      refine ⟨fun none => ?_, fun empty => absurd empty (List.cons_ne_nil _ _)⟩
      unfold latest? at none
      split at none <;> cases none

theorem isLatest_of_latest? (found : latest? rows = some r) : IsLatest rows r := by
  induction rows generalizing r with
  | nil => cases found
  | cons first rest ih =>
      unfold latest? at found
      split at found
      · next none =>
          cases found
          exact ⟨[], rest, rfl, nofun, latest?_eq_none_iff.mp none ▸ nofun⟩
      · next later some =>
          have latest : IsLatest rest later := ih some
          split at found
          · -- A later row is newer and so remains the latest, with one more row before it.
            next smaller =>
              cases found
              obtain ⟨before, behind, split, early, late⟩ := latest
              exact ⟨first :: before, behind, congrArg (first :: ·) split,
                List.forall_mem_cons.mpr ⟨smaller, early⟩, late⟩
          · -- Nothing behind this row is newer. A tie goes to the row that comes first.
            next notSmaller =>
              cases found
              refine ⟨[], rest, rfl, nofun, fun q member => ?_⟩
              have bound := latest.bound member
              omega

/-- The sample that is taken is the first one of greatest timestamp. -/
theorem latest?_eq_some_iff : latest? rows = some r ↔ IsLatest rows r := by
  refine ⟨isLatest_of_latest?, fun latest => ?_⟩
  obtain ⟨before, behind, rfl, early, late⟩ := latest
  induction before with
  | nil =>
      unfold latest?
      rw [List.nil_append]
      dsimp only
      split
      · rfl
      · next later found =>
          -- The latest of the rows behind is not newer than the one at hand.
          have bound := late later (isLatest_of_latest? found).mem
          rw [if_neg (by omega)]
  | cons first before ih =>
      obtain ⟨smaller, early⟩ := List.forall_mem_cons.mp early
      simp only [List.cons_append, latest?, ih early, if_pos smaller]

end Sample

/-! ## Sequences of answers -/

/-- The answers to the queries for samples of one reading, in order. -/
abbrev Answers := Nat → Except Refusal (List Sample)

namespace Answers

/-- An answer with a row. -/
def Served (a : Answers) (j : Nat) : Prop :=
  ∃ rows, a j = .ok rows ∧ rows ≠ []

/-- What a reading takes from an answer: its latest sample. If there is none, this stands for
nothing. -/
def reading (a : Answers) (j : Nat) : Sample :=
  match a j with
  | .ok rows => (Sample.latest? rows).getD ⟨0, 0⟩
  | .error _ => ⟨0, 0⟩

/-- What a query is since: at first and without advancing cursor zero, else the timestamp that was
taken last. -/
def since (a : Answers) (advance : Bool) : Nat → Int
  | 0 => 0
  | j + 1 => if advance then (a.reading j).timestamp else 0

variable {a : Answers} {j : Nat} {rows : List Sample}

theorem reading_of_latest {r : Sample} (answered : a j = .ok rows)
    (found : Sample.latest? rows = some r) : a.reading j = r := by
  unfold reading
  rw [answered]
  exact congrArg (Option.getD · _) found

theorem isLatest_reading (answered : a j = .ok rows) (some : rows ≠ []) :
    Sample.IsLatest rows (a.reading j) := by
  cases found : Sample.latest? rows with
  | none => exact absurd (Sample.latest?_eq_none_iff.mp found) some
  | some r => exact reading_of_latest answered found ▸ Sample.isLatest_of_latest? found

/-- An answer without rows stands for nothing. -/
theorem reading_of_unserved (unserved : ¬ a.Served j) : a.reading j = ⟨0, 0⟩ := by
  unfold reading
  cases answered : a j with
  | error refusal => rfl
  | ok rows =>
      cases rows with
      | nil => rfl
      | cons r rest => exact absurd ⟨_, answered, List.cons_ne_nil _ _⟩ unserved

/-- A cursor that does not advance stays at zero. -/
theorem since_pinned (j : Nat) : a.since false j = 0 := by
  cases j <;> rfl

theorem since_succ (advance : Bool) (j : Nat) :
    a.since advance (j + 1) = if advance then (a.reading j).timestamp else a.since advance j := by
  cases advance with
  | false => exact (since_pinned j).symm
  | true => rfl

end Answers

/-! ## What a backend gives -/

namespace Backend

variable (b : Backend σ) (native : Native) (metric : Metric)

/-- The state of a backend behind the first so many queries for samples. -/
def stateAt (since : Nat → Int) (x : σ) : Nat → σ
  | 0 => x
  | j + 1 => (b.answer (.samplesOf native metric (since j)) (stateAt since x j)).state

/-- From a state on, a backend answers the queries of a reading with a sequence of answers, each
query being since what the answers before it leave. -/
def Gives (advance : Bool) (x : σ) (a : Answers) : Prop :=
  ∀ j, (b.answer (.samplesOf native metric (a.since advance j))
    (b.stateAt native metric (a.since advance) x j)).result = a j

/-- The state of a backend and the cursor before each query of a reading. -/
def course (advance : Bool) (x : σ) : Nat → σ × Int
  | 0 => (x, 0)
  | j + 1 =>
    let reply := b.answer (.samplesOf native metric (course advance x j).2) (course advance x j).1
    (reply.state, Answers.since (fun _ => reply.result) advance 1)

/-- Every backend gives a sequence of answers, from every state. -/
theorem exists_gives (advance : Bool) (x : σ) : ∃ a, b.Gives native metric advance x a := by
  let a : Answers := fun j =>
    (b.answer (.samplesOf native metric (b.course native metric advance x j).2)
      (b.course native metric advance x j).1).result
  -- The two components of the course are what the sequence itself says.
  have both : ∀ j, b.course native metric advance x j =
      (b.stateAt native metric (a.since advance) x j, a.since advance j) := by
    intro j
    induction j with
    | zero => rfl
    | succ j ih =>
        have cursor : (b.course native metric advance x (j + 1)).2 = a.since advance (j + 1) := rfl
        have state : (b.course native metric advance x (j + 1)).1 =
            b.stateAt native metric (a.since advance) x (j + 1) := by
          show (b.answer (.samplesOf native metric (b.course native metric advance x j).2)
            (b.course native metric advance x j).1).state = _
          rw [ih]
          rfl
        exact Prod.ext state cursor
  refine ⟨a, fun j => ?_⟩
  show _ = (b.answer (.samplesOf native metric (b.course native metric advance x j).2)
    (b.course native metric advance x j).1).result
  rw [both j]

/-- A backend that counts the queries for samples and answers them by a script. -/
def scripted (id : BackendId) (script : Answers) : Backend Nat where
  id := id
  vendor := "Script"
  answer
    | .samplesOf _ _ _, j => ⟨script j, j + 1, []⟩
    | .start, j | .shutdown, j => .ok j ()
    | .deviceCount, j | .powerOf _, j | .clockOf _, j => .ok j 1
    | .handleAt index, j => .ok j (.slot index)
    | .nameOf _, j => .ok j "scripted"

/-- Behind its first so many queries a script goes on where it is. -/
theorem gives_scripted_from (id : BackendId) (advance : Bool) (a : Answers) (asked : Nat) :
    (scripted id a).Gives native metric advance asked fun j => a (asked + j) := by
  let later : Answers := fun j => a (asked + j)
  have queries : ∀ j, (scripted id a).stateAt native metric (later.since advance) asked j =
      asked + j := by
    intro j
    induction j with
    | zero => rfl
    | succ j ih => exact congrArg (· + 1) ih
  intro j
  exact congrArg a (queries j)

/-- Every sequence of answers is given by some backend. -/
theorem gives_scripted (id : BackendId) (advance : Bool) (a : Answers) :
    (scripted id a).Gives native metric advance 0 a := by
  have whole := gives_scripted_from native metric id advance a 0
  simp only [Nat.zero_add] at whole
  exact whole

end Backend

end GpuTelemetry
