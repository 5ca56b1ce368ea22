/-!
# Results

What a result tells about the results that it was made from: a sequence that succeeds has gone
through successes (`ok_of_bind`), and a list is visited up to the first member without a value
(`mapM_of_ok`, `mapM_of_error`).
-/

namespace GpuTelemetry

variable {ε α β : Type}

theorem ok_of_bind {first : Except ε α} {next : α → Except ε β} {b : β}
    (given : first >>= next = .ok b) : ∃ a, first = .ok a ∧ next a = .ok b := by
  cases first with
  | error e => cases given
  | ok a => exact ⟨a, rfl, given⟩

/-- Equal results have equal values. -/
theorem eq_of_ok {x y : Except ε α} {a b : α} (same : x = y) (first : x = .ok a)
    (second : y = .ok b) : a = b :=
  Except.ok.inj (first.symm.trans (same.trans second))

theorem ok_of_mapError {δ : Type} {first : Except ε α} {f : ε → δ} {a : α}
    (given : first.mapError f = .ok a) : first = .ok a := by
  cases first with
  | error e => cases given
  | ok b =>
      cases given
      rfl

theorem map_eq_ok {x : Except ε α} {f : α → β} {b : β} (mapped : x.map f = .ok b) :
    ∃ a, x = .ok a ∧ b = f a := by
  cases x with
  | error e => cases mapped
  | ok a => exact ⟨a, rfl, (Except.ok.inj mapped).symm⟩

theorem map_eq_error {x : Except ε α} {f : α → β} {e : ε}
    (mapped : x.map f = .error e) : x = .error e := by
  cases x with
  | error e' =>
      cases mapped
      rfl
  | ok a => cases mapped

theorem mapM_of_ok {f : α → Except ε β} {g : α → β} {items : List α}
    (given : ∀ a ∈ items, f a = .ok (g a)) : items.mapM f = .ok (items.map g) := by
  induction items with
  | nil => rfl
  | cons a rest ih =>
      rw [List.mapM_cons, given a List.mem_cons_self,
        ih fun b member => given b (List.mem_cons_of_mem a member)]
      rfl

/-- The first member without a value decides. -/
theorem mapM_of_error {f : α → Except ε β} {before behind : List α} {a : α} {e : ε}
    (given : ∀ b ∈ before, ∃ value, f b = .ok value) (failed : f a = .error e) :
    (before ++ a :: behind).mapM f = .error e := by
  induction before with
  | nil =>
      show (a :: behind).mapM f = _
      rw [List.mapM_cons, failed]
      rfl
  | cons b rest ih =>
      obtain ⟨value, first⟩ := given b List.mem_cons_self
      show (b :: (rest ++ a :: behind)).mapM f = _
      rw [List.mapM_cons, first, ih fun c member => given c (List.mem_cons_of_mem b member)]
      rfl

end GpuTelemetry
