import GpuTelemetry.Proofs.Calls

/-!
# Moves

A way of moving relates the state before a run, the calls it makes and the state after it, and can
be strung together. A run that follows a way of moving wherever it starts does so however it is put
together: there is one rule for each way of building a run, and a fact on all runs of a kind needs
nothing but the facts on their single calls.

Keeping an invariant of the state and of the calls so far is a way of moving (`Moves.keeping`), and
so is not moving at all (`Moves.still`).
-/

namespace GpuTelemetry

variable {σ τ α β : Type}

/-- A way in which a run may move: from a state, with calls, to a state. -/
structure Moves (σ : Type) where
  rel : σ → List Call → σ → Prop
  stay : ∀ s, rel s [] s
  join : ∀ {s t u first second}, rel s first t → rel t second u → rel s (first ++ second) u

/-- The moves that keep an invariant of the state and of all calls so far. -/
def Moves.keeping (inv : σ → List Call → Prop) : Moves σ where
  rel s calls t := ∀ past, inv s past → inv t (past ++ calls)
  stay := by
    intro s past holds
    rwa [List.append_nil]
  join := by
    intro s t u first second one two past holds
    rw [← List.append_assoc]
    exact two _ (one _ holds)

/-- Standing still: nothing is called and nothing changes. -/
def Moves.still : Moves σ where
  rel s calls t := calls = [] ∧ t = s
  stay s := ⟨rfl, rfl⟩
  join := by
    rintro s t u first second ⟨rfl, rfl⟩ ⟨rfl, rfl⟩
    exact ⟨rfl, rfl⟩

namespace Run

/-- A run that moves in a given way from every state. -/
def Follows (m : Moves σ) (body : Run σ α) : Prop :=
  ∀ s, m.rel s (body s).calls (body s).state

variable {m : Moves σ}

/-- A run that calls nothing and changes nothing moves in every way. -/
theorem Follows.idle {body : Run σ α} (calls : ∀ s, (body s).calls = [])
    (state : ∀ s, (body s).state = s) : body.Follows m := by
  intro s
  rw [calls, state]
  exact m.stay s

/-- So does a run that stands still. -/
theorem Follows.of_still {body : Run σ α} (still : body.Follows .still) : body.Follows m :=
  .idle (fun s => (still s).1) fun s => (still s).2

/-- A run that calls nothing keeps an invariant if its state does. -/
theorem Follows.keeping_of_silent {inv : σ → List Call → Prop} {body : Run σ α}
    (calls : ∀ s, (body s).calls = [])
    (kept : ∀ s past, inv s past → inv (body s).state past) : body.Follows (.keeping inv) := by
  intro s past holds
  rw [calls, List.append_nil]
  exact kept s past holds

theorem Follows.pure (a : α) : (pure a : Run σ α).Follows m :=
  .idle (fun _ => rfl) (fun _ => rfl)

theorem Follows.fault (f : Fault) : (fault f : Run σ α).Follows m :=
  .idle (fun _ => rfl) (fun _ => rfl)

theorem Follows.fail (f : Failure) : (fail f : Run σ α).Follows m :=
  .fault _

theorem Follows.get : (get : Run σ σ).Follows m :=
  .idle (fun _ => rfl) (fun _ => rfl)

theorem Follows.note (n : Note) : (note n : Run σ Unit).Follows m :=
  .idle (fun _ => rfl) (fun _ => rfl)

theorem Follows.print (line : String) : (print line : Run σ Unit).Follows m :=
  .idle (fun _ => rfl) (fun _ => rfl)

theorem Follows.ofExcept (result : Except Fault α) :
    (ofExcept result : Run σ α).Follows m := by
  cases result with
  | ok a => exact .pure a
  | error f => exact .fault f

theorem Follows.bind {first : Run σ α} {next : α → Run σ β} (one : first.Follows m)
    (two : ∀ a, (next a).Follows m) : (first >>= next).Follows m := by
  intro s
  rcases given : (first s).result with f | a
  · rw [calls_bind_of_error next given, bind_of_error next given]
    exact one s
  · rw [calls_bind_of_ok next given, bind_of_ok next given]
    exact m.join (one s) (two a _)

theorem Follows.attempt {body : Run σ α} (one : body.Follows m) : (attempt body).Follows m :=
  one

theorem Follows.orFail {body : Run σ α} (failure : String → Failure) (one : body.Follows m) :
    (orFail body failure).Follows m := by
  intro s
  obtain ⟨state, events⟩ := orFail_apply body failure s
  show m.rel s (callsOf _) _
  rw [state, events]
  exact one s

theorem Follows.ensuring {body : Run σ α} {cleanup : Run σ Unit} (one : body.Follows m)
    (two : cleanup.Follows m) : (ensuring body cleanup).Follows m := by
  intro s
  rw [calls_ensuring, state_ensuring]
  exact m.join (one s) (two _)

theorem Follows.each {visit : α → Run σ β} {items : List α}
    (one : ∀ a ∈ items, (visit a).Follows m) : (each visit items).Follows m := by
  induction items with
  | nil => exact .pure []
  | cons a rest ih =>
      have others : (Run.each visit rest).Follows m :=
        ih fun b later => one b (List.mem_cons_of_mem a later)
      exact (one a List.mem_cons_self).bind fun _ => others.bind fun _ => .pure _

/-- What follows a run that stands still makes all the calls, if anything follows it. -/
theorem Follows.behind {P : List Call → Prop} {first : Run σ α} {next : α → Run σ β} {s : σ}
    (still : first.Follows .still) (nothing : P []) (rest : ∀ a, P (next a s).calls) :
    P ((first >>= next) s).calls := by
  obtain ⟨calls, state⟩ := still s
  rcases result : (first s).result with f | a
  · rw [calls_bind_of_error next result, calls]
    exact nothing
  · rw [calls_bind_of_ok next result, calls, state]
    exact rest a

/-- A run on a part of a larger state moves as it does on the part. -/
theorem Follows.zoom {body : Run σ α} {part : τ → σ} {put : σ → τ → τ} {n : Moves τ}
    (one : body.Follows m)
    (lift : ∀ t calls s, m.rel (part t) calls s → n.rel t calls (put s t)) :
    (zoom part put body).Follows n := by
  intro t
  exact lift t _ _ (one (part t))

end Run

end GpuTelemetry
