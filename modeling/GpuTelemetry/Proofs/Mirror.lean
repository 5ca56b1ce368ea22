import GpuTelemetry.Run.Lemmas

/-!
# Runs side by side

Two runs, possibly on states of different types, of which one mirrors the other: from related states
they end in the same fault or in related results, in related states again and with related events.
What relates states and events is a `Mirror`; there is one rule for each way of building a run
(`Run.Mirrors`).
-/

namespace GpuTelemetry

variable {σ τ α β γ δ : Type}

/-- Two results that are the same fault, or related. -/
inductive Matched {ε : Type} (E : α → β → Prop) : Except ε α → Except ε β → Prop
  | ok {a : α} {b : β} (related : E a b) : Matched E (.ok a) (.ok b)
  | error (e : ε) : Matched E (.error e) (.error e)

namespace Matched

theorem refl {ε : Type} {E : α → α → Prop} (reflexive : ∀ a, E a a) (result : Except ε α) :
    Matched E result result := by
  cases result with
  | ok a => exact .ok (reflexive a)
  | error e => exact .error e

theorem eq {ε : Type} {x y : Except ε α} (matched : Matched Eq x y) : x = y := by
  cases matched with
  | ok same => rw [same]
  | error e => rfl

theorem mono {ε : Type} {E F : α → β → Prop} {x : Except ε α} {y : Except ε β}
    (matched : Matched E x y) (weaker : ∀ a b, E a b → F a b) : Matched F x y := by
  cases matched with
  | ok related => exact .ok (weaker _ _ related)
  | error e => exact .error e

theorem mapError {ε ε' : Type} {E : α → β → Prop} {x : Except ε α} {y : Except ε β}
    (matched : Matched E x y) (f : ε → ε') : Matched E (x.mapError f) (y.mapError f) := by
  cases matched with
  | ok related => exact .ok related
  | error e => exact .error (f e)

end Matched

/-- What relates two runs: a relation of their states, and one of their events that holds of the
events of one run after another if it holds of those of each. -/
structure Mirror (σ τ : Type) where
  state : σ → τ → Prop
  events : List Event → List Event → Prop
  nothing : events [] []
  join : ∀ {l k l' k'}, events l k → events l' k' → events (l ++ l') (k ++ k')

/-- An outcome that mirrors another one. -/
structure Outcome.Mirrored (m : Mirror σ τ) (E : α → β → Prop) (o : Outcome σ α)
    (p : Outcome τ β) : Prop where
  result : Matched E o.result p.result
  state : m.state o.state p.state
  events : m.events o.events p.events

namespace Run

/-- Two runs whose outcomes mirror each other from all related states. -/
def Mirrors (m : Mirror σ τ) (E : α → β → Prop) (x : Run σ α) (y : Run τ β) : Prop :=
  ∀ s t, m.state s t → Outcome.Mirrored m E (x s) (y t)

variable {m : Mirror σ τ} {E : α → β → Prop} {F : γ → δ → Prop} {x : Run σ α} {y : Run τ β}

theorem Mirrors.mono {F : α → β → Prop} (one : Mirrors m E x y) (weaker : ∀ a b, E a b → F a b) :
    Mirrors m F x y := by
  intro s t start
  obtain ⟨results, states, events⟩ := one s t start
  exact ⟨results.mono weaker, states, events⟩

theorem Mirrors.pure {a : α} {b : β} (related : E a b) :
    Mirrors m E (pure a : Run σ α) (pure b : Run τ β) :=
  fun _ _ start => ⟨.ok related, start, m.nothing⟩

theorem Mirrors.fault (f : Fault) : Mirrors m E (fault f : Run σ α) (fault f : Run τ β) :=
  fun _ _ start => ⟨.error f, start, m.nothing⟩

theorem Mirrors.emit {e e' : Event} (related : m.events [e] [e']) :
    Mirrors m Eq (emit e) (emit e') :=
  fun _ _ start => ⟨.ok rfl, start, related⟩

theorem Mirrors.modify {f : σ → σ} {g : τ → τ}
    (kept : ∀ s t, m.state s t → m.state (f s) (g t)) : Mirrors m Eq (modify f) (modify g) :=
  fun s t start => ⟨.ok rfl, kept s t start, m.nothing⟩

/-- A look at the states gives what the relation says of them. -/
theorem Mirrors.look {f : σ → α} {g : τ → β} (related : ∀ s t, m.state s t → E (f s) (g t)) :
    Mirrors m E (fun s => ⟨.ok (f s), s, []⟩ : Run σ α) (fun t => ⟨.ok (g t), t, []⟩ : Run τ β) :=
  fun s t start => ⟨.ok (related s t start), start, m.nothing⟩

theorem Mirrors.ofExcept {a : Except Fault α} {b : Except Fault β} (matched : Matched E a b) :
    Mirrors m E (ofExcept a) (ofExcept b) := by
  cases matched with
  | ok related => exact .pure related
  | error f => exact .fault f

/-- Sequences mirror each other if their first runs do, and their second runs from related results
on. -/
theorem Mirrors.bind {next : α → Run σ γ} {other : β → Run τ δ} (one : Mirrors m E x y)
    (two : ∀ a b, E a b → Mirrors m F (next a) (other b)) :
    Mirrors m F (x >>= next) (y >>= other) := by
  intro s t start
  obtain ⟨results, states, events⟩ := one s t start
  generalize first : (x s).result = result at results
  generalize second : (y t).result = result' at results
  cases results with
  | ok related =>
      rw [bind_of_ok next first, bind_of_ok other second]
      -- Both first runs gave results, and these are related like the states.
      have rest := two _ _ related _ _ states
      exact ⟨rest.result, rest.state, m.join events rest.events⟩
  | error f =>
      rw [bind_of_error next first, bind_of_error other second]
      exact ⟨.error f, states, events⟩

/-- Where the first runs have the same results, the second ones take them over. -/
theorem Mirrors.andThen {x : Run σ α} {y : Run τ α} {next : α → Run σ γ} {other : α → Run τ δ}
    (one : Mirrors m Eq x y) (two : ∀ a, Mirrors m F (next a) (other a)) :
    Mirrors m F (x >>= next) (y >>= other) := by
  refine one.bind ?_
  rintro a _ rfl
  exact two a

/-- What is caught is the same fault or related results. -/
theorem Mirrors.attempt (one : Mirrors m E x y) :
    Mirrors m (Matched E) (attempt x) (attempt y) := by
  intro s t start
  obtain ⟨results, states, events⟩ := one s t start
  exact ⟨.ok results, states, events⟩

/-- Where the runs have the same results, what is caught is the same. -/
theorem Mirrors.caught {x : Run σ α} {y : Run τ α} (one : Mirrors m Eq x y) :
    Mirrors m Eq (Run.attempt x) (Run.attempt y) :=
  one.attempt.mono fun _ _ => Matched.eq

/-- Naming the operation that failed keeps two runs in step. -/
theorem Mirrors.orFail (failure : String → Failure) (one : Mirrors m E x y) :
    Mirrors m E (orFail x failure) (orFail y failure) := by
  intro s t start
  obtain ⟨results, states, events⟩ := one s t start
  unfold Run.orFail
  generalize x s = o at results states events
  generalize y t = p at results states events
  obtain ⟨result, state, trace⟩ := o
  obtain ⟨result', state', trace'⟩ := p
  cases results with
  | ok related => exact ⟨.ok related, states, events⟩
  | error f =>
      split
      · rename_i declined
        cases declined
        exact ⟨.error _, states, events⟩
      · rename_i other
        split
        · rename_i declined
          cases declined
          -- The faults are the same, so either both requests have been declined or neither.
          exact absurd rfl (other _ _ _)
        · exact ⟨.error f, states, events⟩

theorem Mirrors.ensuring {cleanup : Run σ Unit} {cleanup' : Run τ Unit} (one : Mirrors m E x y)
    (two : Mirrors m Eq cleanup cleanup') :
    Mirrors m E (ensuring x cleanup) (ensuring y cleanup') := by
  refine one.attempt.bind fun result result' matched => two.andThen fun _ => ?_
  cases matched with
  | ok related => exact .pure related
  | error f => exact .fault f

theorem Mirrors.each {visit : α → Run σ γ} {other : α → Run τ γ} {items : List α}
    (one : ∀ a ∈ items, Mirrors m Eq (visit a) (other a)) :
    Mirrors m Eq (each visit items) (each other items) := by
  induction items with
  | nil => exact .pure rfl
  | cons a rest ih =>
      have others := ih fun b member => one b (List.mem_cons_of_mem a member)
      refine (one a List.mem_cons_self).andThen fun first => ?_
      exact others.andThen fun results => .pure rfl

/-- Runs on parts of larger states mirror each other if the parts do, and putting them back keeps
the larger states related. -/
theorem Mirrors.zoom {σ' τ' : Type} {larger : Mirror σ' τ'} {part : σ' → σ} {put : σ → σ' → σ'}
    {part' : τ' → τ} {put' : τ → τ' → τ'} (same : ∀ l k, m.events l k → larger.events l k)
    (parts : ∀ s t, larger.state s t → m.state (part s) (part' t))
    (kept : ∀ s t u v, larger.state s t → m.state u v → larger.state (put u s) (put' v t))
    (one : Mirrors m E x y) : Mirrors larger E (zoom part put x) (zoom part' put' y) := by
  intro s t start
  obtain ⟨results, states, events⟩ := one _ _ (parts s t start)
  exact ⟨results, kept s t _ _ start states, same _ _ events⟩

end Run

end GpuTelemetry
