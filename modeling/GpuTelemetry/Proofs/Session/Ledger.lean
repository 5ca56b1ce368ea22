import GpuTelemetry.Proofs.Session.Queries

/-!
# Ledgers

An invariant of sessions that speaks of those sessions that are known to somebody is a `Ledger` if
nothing that known sessions do spoils it, and a session becomes known when it is made. A ledger is
kept by whole runs in sessions of their own too (`Ledger.within`), which leave one more session
known.

Backends may have to be lawful for that, so a ledger is kept for sessions on lawful backends.
-/

namespace GpuTelemetry

variable {σ α : Type}

/-- An invariant of sessions and calls, given the known sessions, that is kept by what they do. -/
structure Ledger (lawful : Backend σ → Prop)
    (inv : (Session σ → Prop) → Sessions σ → List Call → Prop) : Prop where
  queries : ∀ {known : Session σ → Prop} {h : Session σ}, known h →
    h.Queries (.keeping (inv known))
  start : ∀ {known : Session σ → Prop} {h : Session σ}, known h →
    h.start.Follows (.keeping (inv known))
  finish : ∀ {known : Session σ → Prop} {h : Session σ}, known h →
    h.finish.Follows (.keeping (inv known))
  make : ∀ {known : Session σ → Prop} {s : Sessions σ} {past : List Call} (b : Backend σ),
    lawful b → inv known s past →
    inv (fun h => known h ∨ h = Session.upcoming b s) s.withNew past
  /-- The state behind the backends does not matter. -/
  behind : ∀ {known : Session σ → Prop} {s : Sessions σ} {past : List Call} (x : σ),
    inv known s past → inv known { s with backends := x } past

namespace Ledger

variable {lawful : Backend σ → Prop} {inv : (Session σ → Prop) → Sessions σ → List Call → Prop}
  (ledger : Ledger lawful inv)

include ledger

/-- A run in a session of its own leaves one more session known. -/
theorem within {b : Backend σ} (law : lawful b) {body : Session σ → Run (Sessions σ) α}
    {known : Session σ → Prop} {s : Sessions σ} {past : List Call} (kept : inv known s past)
    (inside : ∀ (known : Session σ → Prop) h, known h →
      (body h).Follows (.keeping (inv known))) :
    ∃ known' : Session σ → Prop, (∀ h, known h → known' h) ∧
      inv known' (Session.within b body s).state (past ++ (Session.within b body s).calls) := by
  let grown : Session σ → Prop := fun h => known h ∨ h = Session.upcoming b s
  have held : grown (Session.upcoming b s) := .inr rfl
  have rest : Run.Follows (.keeping (inv grown)) (do
      (Session.upcoming b s).enter
      Run.ensuring (body (Session.upcoming b s)) (Session.upcoming b s).finish) := by
    refine (Session.follows_enter (ledger.start held)).bind fun _ => ?_
    exact (inside grown _ held).ensuring (ledger.finish held)
  refine ⟨grown, fun h => .inl, ?_⟩
  -- Making the session is silent, so the past is the one in which the rest begins.
  rw [Session.within_apply]
  exact rest s.withNew past (ledger.make b law kept)

end Ledger

end GpuTelemetry
