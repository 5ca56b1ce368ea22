import GpuTelemetry.Run

/-!
# Laws of runs

Runs form a lawful monad, and one run after another has the events of both, in order. Main
statements:

* `bind_of_ok` and `bind_of_error`: what the first run's result means for a sequence of two;
* `events_attempt` and `events_ensuring`: catching a fault loses no event, and a cleanup comes
  behind everything that it cleans up after.
-/

namespace GpuTelemetry.Run

variable {σ τ α β : Type}

@[simp] theorem pure_apply (a : α) (s : σ) : (pure a : Run σ α) s = ⟨.ok a, s, []⟩ := rfl

@[simp] theorem fault_apply (f : Fault) (s : σ) : (fault f : Run σ α) s = ⟨.error f, s, []⟩ := rfl

@[simp] theorem fail_apply (f : Failure) (s : σ) :
    (fail f : Run σ α) s = ⟨.error (.failed f), s, []⟩ := rfl

@[simp] theorem emit_apply (event : Event) (s : σ) : emit event s = ⟨.ok (), s, [event]⟩ := rfl

@[simp] theorem note_apply (n : Note) (s : σ) : note n s = ⟨.ok (), s, [.note n]⟩ := rfl

@[simp] theorem print_apply (line : String) (s : σ) : print line s = ⟨.ok (), s, [.print line]⟩ :=
  rfl

@[simp] theorem get_apply (s : σ) : (get : Run σ σ) s = ⟨.ok s, s, []⟩ := rfl

@[simp] theorem modify_apply (f : σ → σ) (s : σ) : modify f s = ⟨.ok (), f s, []⟩ := rfl

/-- A run after one that gave a value starts from its state, and adds to its events. -/
theorem bind_of_ok {first : Run σ α} {s : σ} {a : α} (next : α → Run σ β)
    (given : (first s).result = .ok a) :
    (first >>= next) s =
      ⟨(next a (first s).state).result, (next a (first s).state).state,
        (first s).events ++ (next a (first s).state).events⟩ := by
  show andThen first next s = _
  unfold andThen
  rcases eq : first s with ⟨result, state, events⟩
  rw [eq] at given
  subst given
  rfl

/-- Nothing comes after a run that ended in a fault. -/
theorem bind_of_error {first : Run σ α} {s : σ} {f : Fault} (next : α → Run σ β)
    (given : (first s).result = .error f) :
    (first >>= next) s = ⟨.error f, (first s).state, (first s).events⟩ := by
  show andThen first next s = _
  unfold andThen
  rcases eq : first s with ⟨result, state, events⟩
  rw [eq] at given
  subst given
  rfl

/-- What a run that causes no event gives is handed on. -/
theorem bind_of_silent {first : Run σ α} {s s' : σ} {a : α} (next : α → Run σ β)
    (given : first s = ⟨.ok a, s', []⟩) : (first >>= next) s = next a s' := by
  rw [bind_of_ok (a := a) next (by rw [given]), given]
  rfl

/-- A fault without any event is all there is to a sequence. -/
theorem bind_of_silent_error {first : Run σ α} {s s' : σ} {f : Fault} (next : α → Run σ β)
    (given : first s = ⟨.error f, s', []⟩) : (first >>= next) s = ⟨.error f, s', []⟩ := by
  rw [bind_of_error (f := f) next (by rw [given]), given]

/-- A sequence that gives a result is one of two runs that do. -/
theorem results_of_bind {first : Run σ α} {next : α → Run σ β} {s : σ} {b : β}
    (given : ((first >>= next) s).result = .ok b) :
    ∃ a, (first s).result = .ok a ∧ (next a (first s).state).result = .ok b := by
  rcases result : (first s).result with f | a
  · rw [bind_of_error _ result] at given
    cases given
  · rw [bind_of_ok _ result] at given
    exact ⟨a, rfl, given⟩

/-- What comes behind a run depends on its outcome alone. -/
theorem bind_congr {x y : Run σ α} {s : σ} (next : α → Run σ β) (same : x s = y s) :
    (x >>= next) s = (y >>= next) s := by
  show andThen x next s = andThen y next s
  unfold andThen
  rw [same]

/-- What comes behind a run matters only for the result that the run gives, and from its state. -/
theorem bind_congr_behind {x : Run σ α} {s : σ} {next other : α → Run σ β}
    (same : ∀ a, (x s).result = .ok a → next a (x s).state = other a (x s).state) :
    (x >>= next) s = (x >>= other) s := by
  rcases result : (x s).result with f | a
  · rw [bind_of_error _ result, bind_of_error _ result]
  · rw [bind_of_ok _ result, bind_of_ok _ result, same a result]

theorem error_of_map {x : Run σ α} {s : σ} {give : α → β} {f : Fault}
    (failed : ((x >>= fun a => pure (give a)) s).result = .error f) :
    (x s).result = .error f := by
  rcases result : (x s).result with fault | a
  · rw [bind_of_error _ result] at failed
    cases failed
    rfl
  · rw [bind_of_ok _ result] at failed
    cases failed

/-- Two runs that do the same from every state are the same. -/
theorem ext {x y : Run σ α} (same : ∀ s, x s = y s) : x = y := funext same

private theorem bind_pure_run (x : Run σ α) : (x >>= pure) = x := by
  apply ext
  intro s
  rcases result : (x s).result with f | a
  · rw [bind_of_error _ result, ← result]
  · rw [bind_of_ok _ result]
    simp [← result]

private theorem bind_assoc_run {γ : Type} (x : Run σ α) (f : α → Run σ β) (g : β → Run σ γ) :
    (x >>= f >>= g) = (x >>= fun a => f a >>= g) := by
  apply ext
  intro s
  rcases result : (x s).result with fault | a
  · have first : ((x >>= f) s).result = .error fault := by rw [bind_of_error _ result]
    rw [bind_of_error _ first, bind_of_error _ result, bind_of_error _ result]
  · rw [bind_of_ok (fun a => f a >>= g) result]
    have joined := bind_of_ok f result
    rcases next : (f a (x s).state).result with fault | b
    · have second : ((x >>= f) s).result = .error fault := by rw [joined, next]
      rw [bind_of_error _ second, bind_of_error _ next, joined]
    · have second : ((x >>= f) s).result = .ok b := by rw [joined, next]
      rw [bind_of_ok _ second, bind_of_ok _ next, joined]
      simp

private theorem pure_bind_run (a : α) (f : α → Run σ β) : (pure a >>= f) = f a := by
  apply ext
  intro s
  rw [bind_of_ok (a := a) f rfl]
  rfl

instance : LawfulMonad (Run σ) :=
  LawfulMonad.mk' (Run σ) bind_pure_run pure_bind_run bind_assoc_run

@[simp] theorem result_attempt (body : Run σ α) (s : σ) :
    (attempt body s).result = .ok (body s).result := rfl

@[simp] theorem state_attempt (body : Run σ α) (s : σ) :
    (attempt body s).state = (body s).state := rfl

@[simp] theorem events_attempt (body : Run σ α) (s : σ) :
    (attempt body s).events = (body s).events := rfl

/-- Naming the operation that failed changes neither the state nor the events. -/
theorem orFail_apply (body : Run σ α) (failure : String → Failure) (s : σ) :
    (orFail body failure s).state = (body s).state ∧
      (orFail body failure s).events = (body s).events := by
  unfold orFail
  rcases body s with ⟨result, state, events⟩
  split
  · rename_i declined
    cases declined
    exact ⟨rfl, rfl⟩
  · exact ⟨rfl, rfl⟩

/-- What becomes of a refusal depends on the outcome alone. -/
theorem orFail_congr {x y : Run σ α} {s : σ} (failure : String → Failure) (same : x s = y s) :
    orFail x failure s = orFail y failure s := by
  unfold orFail
  rw [same]

theorem result_orFail_of_ok {body : Run σ α} {s : σ} {a : α} (failure : String → Failure)
    (given : (body s).result = .ok a) : (orFail body failure s).result = .ok a := by
  unfold orFail
  rcases eq : body s with ⟨result, state, events⟩
  rw [eq] at given
  subst given
  rfl

theorem result_orFail_of_declined {body : Run σ α} {s : σ} {reason : String}
    (failure : String → Failure) (given : (body s).result = .error (.refused (.declined reason))) :
    (orFail body failure s).result = .error (.failed (failure reason)) := by
  unfold orFail
  rcases eq : body s with ⟨result, state, events⟩
  rw [eq] at given
  subst given
  rfl

/-- Any other fault stays what it is. -/
theorem result_orFail_of_other {body : Run σ α} {s : σ} {f : Fault} (failure : String → Failure)
    (other : ∀ reason, f ≠ .refused (.declined reason)) (given : (body s).result = .error f) :
    (orFail body failure s).result = .error f := by
  unfold orFail
  rcases eq : body s with ⟨result, state, events⟩
  rw [eq] at given
  subst given
  split
  · rename_i reason _ _ same
    cases same
    exact absurd rfl (other reason)
  · rfl

/-- A fault stays what it is or becomes the failure. -/
theorem result_orFail_of_error {body : Run σ α} {s : σ} {f : Fault} (failure : String → Failure)
    (given : (body s).result = .error f) :
    ∃ g, (orFail body failure s).result = .error g ∧
      (g = f ∨ ∃ reason, g = .failed (failure reason)) := by
  by_cases declined : ∃ reason, f = .refused (.declined reason)
  · obtain ⟨reason, rfl⟩ := declined
    exact ⟨_, result_orFail_of_declined failure given, .inr ⟨reason, rfl⟩⟩
  · have other : ∀ reason, f ≠ .refused (.declined reason) := fun reason same =>
      declined ⟨reason, same⟩
    exact ⟨f, result_orFail_of_other failure other given, .inl rfl⟩

/-- A cleanup follows its body, from the state that the body left. -/
theorem events_ensuring (body : Run σ α) (cleanup : Run σ Unit) (s : σ) :
    (ensuring body cleanup s).events =
      (body s).events ++ (cleanup (body s).state).events := by
  unfold ensuring
  rw [bind_of_ok (a := (body s).result) _ rfl]
  rcases result : (cleanup (body s).state).result with f | u
  · rw [bind_of_error _ (by simpa using result)]
    simp
  · rw [bind_of_ok (a := u) _ (by simpa using result)]
    cases (body s).result <;> simp [done, fault]

/-- A cleanup that ends well leaves its body's result alone. -/
theorem result_ensuring_of_ok {body : Run σ α} {cleanup : Run σ Unit} {s : σ}
    (well : (cleanup (body s).state).result = .ok ()) :
    (ensuring body cleanup s).result = (body s).result := by
  unfold ensuring
  rw [bind_of_ok (a := (body s).result) _ rfl, bind_of_ok (a := ()) _ (by simpa using well)]
  cases (body s).result <;> rfl

/-- The state after a cleanup is the one that the cleanup left. -/
theorem state_ensuring (body : Run σ α) (cleanup : Run σ Unit) (s : σ) :
    (ensuring body cleanup s).state = (cleanup (body s).state).state := by
  unfold ensuring
  rw [bind_of_ok (a := (body s).result) _ rfl]
  rcases result : (cleanup (body s).state).result with f | u
  · rw [bind_of_error _ (by simpa using result)]
    simp
  · rw [bind_of_ok (a := u) _ (by simpa using result)]
    cases (body s).result <;> simp [done, fault]

/-- Behind a visit that gives a result, the other items are visited from the state it left. -/
theorem each_cons_of_ok {visit : α → Run σ β} {a : α} {s : σ} {b : β} (rest : List α)
    (gave : (visit a s).result = .ok b) :
    each visit (a :: rest) s =
      ⟨(each visit rest (visit a s).state).result.map (b :: ·),
        (each visit rest (visit a s).state).state,
        (visit a s).events ++ (each visit rest (visit a s).state).events⟩ := by
  show (visit a >>= _) s = _
  rw [bind_of_ok _ gave]
  rcases others : (each visit rest (visit a s).state).result with f | bs
  · rw [bind_of_error _ others]
    rfl
  · rw [bind_of_ok _ others]
    simp [Except.map]

/-- A visit that ends in a fault is the last one. -/
theorem each_cons_of_error {visit : α → Run σ β} {a : α} {s : σ} {f : Fault} (rest : List α)
    (failed : (visit a s).result = .error f) :
    each visit (a :: rest) s = ⟨.error f, (visit a s).state, (visit a s).events⟩ :=
  bind_of_error _ failed

theorem each_map {γ : Type} (visit : β → Run σ α) (place : γ → β) (items : List γ) :
    each visit (items.map place) = each (fun c => visit (place c)) items := by
  induction items with
  | nil => rfl
  | cons c rest ih =>
      show (visit (place c) >>= fun first => each visit (rest.map place) >>= _) = _
      rw [ih]
      rfl

end GpuTelemetry.Run
