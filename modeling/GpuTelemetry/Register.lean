/-!
# Registers

A register is a list of pairs with at most one value for each key, in the order in which the keys
came in. Its values are found with `List.lookup`; `Register.assign` replaces the value of a key or
adds the key at the end.
-/

namespace GpuTelemetry.Register

variable {κ ν : Type} [DecidableEq κ]

/-- The register with a new value for a key. -/
def assign (key : κ) (value : ν) : List (κ × ν) → List (κ × ν)
  | [] => [(key, value)]
  | (k, v) :: rest => if k = key then (key, value) :: rest else (k, v) :: assign key value rest

theorem lookup_assign_self [BEq κ] [LawfulBEq κ] (key : κ) (value : ν)
    (register : List (κ × ν)) : (assign key value register).lookup key = some value := by
  induction register with
  | nil => simp [assign]
  | cons pair rest ih =>
      obtain ⟨k, v⟩ := pair
      by_cases h : k = key
      · simp [assign, h]
      · have h' : (key == k) = false := by simpa using fun e => h e.symm
        simp [assign, h, List.lookup_cons, h', ih]

theorem lookup_assign_of_ne [BEq κ] [LawfulBEq κ] {key other : κ} (value : ν)
    (register : List (κ × ν)) (different : other ≠ key) :
    (assign key value register).lookup other = register.lookup other := by
  have differs : (other == key) = false := by simpa using different
  induction register with
  | nil => simp [assign, List.lookup_cons, differs]
  | cons pair rest ih =>
      obtain ⟨k, v⟩ := pair
      by_cases h : k = key
      · subst h
        simp [assign, List.lookup_cons, differs]
      · simp [assign, h, List.lookup_cons, ih]

/-- Registers that agree on a key still do after the same assignment. -/
theorem lookup_assign_congr [BEq κ] [LawfulBEq κ] {key other : κ} (value : ν)
    {register register' : List (κ × ν)} (same : register.lookup other = register'.lookup other) :
    (assign key value register).lookup other = (assign key value register').lookup other := by
  by_cases own : other = key
  · subst own
    rw [lookup_assign_self, lookup_assign_self]
  · rw [lookup_assign_of_ne _ _ own, lookup_assign_of_ne _ _ own]
    exact same

/-- Whatever a register holds after an assignment was assigned or has been there before. -/
theorem mem_assign {key : κ} {value : ν} {register : List (κ × ν)} {pair : κ × ν}
    (member : pair ∈ assign key value register) : pair = (key, value) ∨ pair ∈ register := by
  induction register with
  | nil => exact .inl (List.mem_singleton.mp member)
  | cons first rest ih =>
      obtain ⟨k, v⟩ := first
      unfold assign at member
      split at member
      · rcases List.mem_cons.mp member with new | old
        · exact .inl new
        · exact .inr (List.mem_cons_of_mem _ old)
      · rcases List.mem_cons.mp member with same | later
        · exact .inr (List.mem_cons.mpr (.inl same))
        · rcases ih later with new | old
          · exact .inl new
          · exact .inr (List.mem_cons_of_mem _ old)

theorem mem_of_lookup {key : κ} {value : ν} {register : List (κ × ν)}
    (found : register.lookup key = some value) : (key, value) ∈ register := by
  obtain ⟨before, after, rfl, _⟩ := List.lookup_eq_some_iff.mp found
  exact List.mem_append_right _ List.mem_cons_self

end GpuTelemetry.Register
