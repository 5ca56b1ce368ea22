import GpuTelemetry.Proofs.Laboratory.Bench
import GpuTelemetry.Proofs.Session.Guarded

/-!
# Queries in the laboratory

Steps in a laboratory come in any order: sessions are made, started and finished, samplers and feeds
are kept beyond the end of their sessions and used again, collections are taken in between, failures
are injected and the driver is replaced. As long as nobody asks a backend directly, every query is
guarded.

A bench is kept in order with respect to some known sessions that include all those it refers to.
Main statement: `every_query_guarded`.
-/

namespace GpuTelemetry

variable {σ : Type}

namespace Workbench

/-- All sessions that the bench refers to are known, and the known sessions are in order. -/
structure Kept (known : Session σ → Prop) (bench : Workbench σ) (past : List Call) : Prop where
  handles : ∀ pair ∈ bench.handles, known pair.2
  samplers : ∀ pair ∈ bench.samplers, known pair.2.session
  feeds : ∀ pair ∈ bench.feeds, known pair.2.session ∧ known pair.2.sampler.session
  orderly : Orderly known bench.sessions past

theorem kept_iff {known : Session σ → Prop} {bench : Workbench σ} {past : List Call} :
    Kept known bench past ↔ Refers (fun _ => True) known (Orderly known) bench past :=
  ⟨fun kept => ⟨fun _ _ => trivial, kept.handles, kept.samplers, kept.feeds, kept.orderly⟩,
    fun refers => ⟨refers.handles, refers.samplers, refers.feeds, refers.sessions⟩⟩

end Workbench

namespace Laboratory

/-- The moves in a laboratory that leave its bench tidy. -/
abbrev tidy : Moves Laboratory :=
  .keeping fun lab past => ∃ known, Workbench.Kept known lab.bench past

theorem follows_take (step : Step) (indirect : step.direct = false) : (take step).Follows tidy := by
  have refers := booked_take orderly_ledger (fun _ => trivial) step fun direct => by
    rw [direct] at indirect
    cases indirect
  unfold tidy
  simpa only [Workbench.kept_iff] using refers

/-- In every run of steps that ask no backend directly, whatever fails on the way, a query reaches a
backend only behind a successful start by its session, with no start and no shutdown of that backend
in between. -/
theorem every_query_guarded (simulated : List (String × Simulated)) (driver : Nvml.Driver)
    (steps : List Step) (indirect : ∀ step ∈ steps, step.direct = false) :
    ∀ before c after,
      (perform steps (setUp simulated driver)).calls = before ++ c :: after →
      c.request.lifecycle = false →
      ∃ id earlier between, c.session = some id ∧
        before = earlier ++ ⟨some id, c.backend, .start, true⟩ :: between ∧
        ∀ d ∈ between, d.turns c.backend = false := by
  intro before c after split query
  have tidied : (perform steps).Follows tidy :=
    .each fun step member => (follows_take step (indirect step member)).attempt
  have nobody : Workbench.Kept (fun _ => False) (setUp simulated driver).bench [] :=
    ⟨by simp [setUp], by simp [setUp], by simp [setUp], .empty _⟩
  -- In the end some sessions are known, and every query so far is guarded, known or not.
  obtain ⟨known, kept⟩ := tidied (setUp simulated driver) [] ⟨_, nobody⟩
  obtain ⟨id, own, last⟩ := kept.orderly.guarded before c after split query
  obtain ⟨_, earlier, between, behind, quiet⟩ := lastTurn_eq_some_iff.mp last
  exact ⟨id, earlier, between, own, behind, quiet⟩

/-- A feed is left half-way and its session finished; it is asked again while another session is
open on the same backend, and then that session counts the devices. -/
def secondSession : List Step :=
  [.onBench (.make "first" "gpus"), .onBench (.start "first"),
    .onBench (.sampler "reader" "first" none true),
    .onBench (.feed "reports" "first" "reader" .power none none), .onBench (.next "reports"),
    .onBench (.finish "first"), .onBench (.make "second" "gpus"), .onBench (.start "second"),
    .onBench (.next "reports"), .onBench (.count "second")]

/-- The half-consumed feed of the first session asks nothing, and the last query is behind the start
of the second one. -/
theorem second_session_guarded :
    let lab := setUp [("gpus", { devices := [⟨"A", 250, 1500, []⟩, ⟨"B", 250, 1500, []⟩] })] {}
    let calls := (perform secondSession lab).calls
    (∀ step ∈ secondSession, step.direct = false) ∧
      calls = calls.dropLast ++ [⟨some 1, 0, .deviceCount, true⟩] ∧
      ∃ id earlier between, some 1 = some id ∧
        calls.dropLast = earlier ++ ⟨some id, 0, .start, true⟩ :: between ∧
        ∀ d ∈ between, d.turns 0 = false := by
  intro lab calls
  have indirect : ∀ step ∈ secondSession, step.direct = false := by decide
  have last : calls = calls.dropLast ++ [⟨some 1, 0, .deviceCount, true⟩] := by decide
  exact ⟨indirect, last,
    every_query_guarded _ _ secondSession indirect calls.dropLast _ [] last rfl⟩

end Laboratory

end GpuTelemetry
