import GpuTelemetry.Proofs.Session.Ledger

/-!
# Exclusive sessions

Among the sessions that are known, at most one is open on each backend, and the busy backends are
those of open sessions. This is a ledger for sessions on backends of any kind (`exclusive_ledger`),
whoever else asks the backends in between.
-/

namespace GpuTelemetry

variable {σ : Type}

/-- Known sessions are told apart by their numbers and agree with the busy backends. -/
structure Exclusive (lawful : Backend σ → Prop) (known : Session σ → Prop) (s : Sessions σ) :
    Prop where
  made : ∀ h, known h → h.id < s.made
  lawful : ∀ h, known h → lawful h.backend
  same : ∀ h k, known h → known k → h.id = k.id → h = k
  alone : ∀ h k, known h → known k → s.phase h.id = .opened → s.phase k.id = .opened →
    h.backend.id = k.backend.id → h = k
  busy : ∀ id, s.busy id = true ↔ ∃ h, known h ∧ h.backend.id = id ∧ s.phase h.id = .opened

namespace Exclusive

variable {lawful : Backend σ → Prop} {known : Session σ → Prop} {s t : Sessions σ} {h : Session σ}

/-- Nobody knows a session yet. -/
theorem empty (backends : σ) : Exclusive lawful (fun _ => False) { backends } where
  made _ none := none.elim
  lawful _ none := none.elim
  same _ _ none := none.elim
  alone _ _ none := none.elim
  busy id := by simp

/-- The state behind the backends does not matter. -/
theorem congr (exclusive : Exclusive lawful known s) (phase : t.phase = s.phase)
    (busy : t.busy = s.busy) (made : t.made = s.made) : Exclusive lawful known t where
  made := by
    rw [made]
    exact exclusive.made
  lawful := exclusive.lawful
  same := exclusive.same
  alone := by
    rw [phase]
    exact exclusive.alone
  busy := by
    rw [phase, busy]
    exact exclusive.busy

theorem busy_of_opened (exclusive : Exclusive lawful known s) (held : known h)
    (isOpen : s.phase h.id = .opened) : s.busy h.backend.id = true :=
  (exclusive.busy _).mpr ⟨h, held, rfl, isOpen⟩

/-- One known session starts or ends its use of a backend on which no other one is open, and the
backend is busy afterwards exactly if the session is open. -/
theorem turn (exclusive : Exclusive lawful known s) (held : known h)
    (alone : ∀ k, known k → s.phase k.id = .opened → k.backend.id = h.backend.id → k = h)
    (made : t.made = s.made) (others : ∀ id, id ≠ h.id → t.phase id = s.phase id)
    (rest : ∀ id, id ≠ h.backend.id → t.busy id = s.busy id)
    (own : t.busy h.backend.id = true ↔ t.phase h.id = .opened) : Exclusive lawful known t := by
  -- Whoever else is open afterwards was open before, and so is on another backend.
  have elsewhere : ∀ k, known k → t.phase k.id = .opened → k ≠ h →
      s.phase k.id = .opened ∧ k.backend.id ≠ h.backend.id := by
    intro k knownK isOpen other
    rw [others k.id fun same => other (exclusive.same k h knownK held same)] at isOpen
    exact ⟨isOpen, fun on => other (alone k knownK isOpen on)⟩
  refine ⟨made ▸ exclusive.made, exclusive.lawful, exclusive.same, ?_, fun id => ⟨?_, ?_⟩⟩
  · intro k l knownK knownL openK openL on
    by_cases own : k = h
    · subst own
      by_cases same : l = k
      · exact same.symm
      · exact absurd on.symm (elsewhere l knownL openL same).2
    · obtain ⟨wasOpen, off⟩ := elsewhere k knownK openK own
      by_cases same : l = h
      · rw [same] at on
        exact absurd on off
      · exact exclusive.alone k l knownK knownL wasOpen (elsewhere l knownL openL same).1 on
  · intro busy
    by_cases on : id = h.backend.id
    · exact ⟨h, held, on.symm, own.mp (on ▸ busy)⟩
    · rw [rest id on] at busy
      obtain ⟨k, knownK, at_, isOpen⟩ := (exclusive.busy id).mp busy
      refine ⟨k, knownK, at_, ?_⟩
      rw [others k.id fun same => on ?_]
      · exact isOpen
      · rw [← at_, exclusive.same k h knownK held same]
  · rintro ⟨k, knownK, rfl, isOpen⟩
    by_cases same : k = h
    · subst same
      exact own.mpr isOpen
    · obtain ⟨wasOpen, off⟩ := elsewhere k knownK isOpen same
      rw [rest _ off]
      exact exclusive.busy_of_opened knownK wasOpen

/-- No known session is open on an idle backend. -/
theorem alone_of_idle (exclusive : Exclusive lawful known s) (idle : s.busy h.backend.id = false) :
    ∀ k, known k → s.phase k.id = .opened → k.backend.id = h.backend.id → k = h := by
  intro k knownK isOpen on
  have busy := exclusive.busy_of_opened knownK isOpen
  rw [on, idle] at busy
  cases busy

theorem started (exclusive : Exclusive lawful known s) (held : known h) :
    Exclusive lawful known (h.start s).state := by
  cases h.starting s with
  | refused fault misuse result =>
      rw [result]
      exact exclusive
  | served fresh idle reply result state calls =>
      rw [state]
      -- The start was only asked for on an idle backend, so no other session is open on it.
      refine exclusive.turn held (exclusive.alone_of_idle idle) rfl
        (fun id other => Sessions.phase_setPhase_of_ne _ _ other)
        (fun id other => Sessions.busy_setBusy_of_ne _ _ other) ?_
      simp [Sessions.opened]
  | declined reason fresh idle reply result state calls =>
      rw [state]
      refine exclusive.turn held (exclusive.alone_of_idle idle) rfl
        (fun id other => Sessions.phase_setPhase_of_ne _ _ other) (fun id other => rfl) ?_
      rw [Sessions.phase_setPhase_self]
      simp [Sessions.setPhase, Backend.asked, idle]
  | broken refusal fresh idle other reply result state calls =>
      rw [state]
      -- The session stays fresh, for the start is neither done nor failed.
      exact exclusive.congr rfl rfl rfl

theorem finished (exclusive : Exclusive lawful known s) (held : known h) :
    Exclusive lawful known (h.finish s).state := by
  cases h.finishing s with
  | ignored shut result =>
      rw [result]
      exact exclusive
  | closed isOpen result state calls =>
      rw [state]
      refine exclusive.turn held
        (fun k knownK openK on => exclusive.alone k h knownK held openK isOpen on) rfl
        (fun id other => Sessions.phase_setPhase_of_ne _ _ other)
        (fun id other => Sessions.busy_setBusy_of_ne _ _ other) ?_
      simp [Sessions.closed]

theorem asked (exclusive : Exclusive lawful known s) (request : Request) :
    Exclusive lawful known (h.ask request s).state := by
  by_cases isOpen : s.phase h.id = .opened
  · rw [Session.ask_of_opened isOpen]
    exact exclusive.congr rfl rfl rfl
  · rw [Session.ask_of_not_opened isOpen]
    exact exclusive

/-- A session becomes known when it is made. -/
theorem make (exclusive : Exclusive lawful known s) {b : Backend σ} (law : lawful b) :
    Exclusive lawful (fun h => known h ∨ h = Session.upcoming b s) s.withNew := by
  have apart : ∀ h, known h → h.id ≠ s.made := fun h held => Nat.ne_of_lt (exclusive.made h held)
  have old : ∀ h, known h → s.withNew.phase h.id = s.phase h.id := fun h held =>
    Sessions.phase_withNew_of_ne (apart h held)
  have shut : s.withNew.phase (Session.upcoming b s).id ≠ .opened := by
    show s.withNew.phase s.made ≠ .opened
    rw [s.phase_withNew_made]
    exact Session.Phase.noConfusion
  refine ⟨?_, ?_, ?_, ?_, fun id => ?_⟩
  · rintro h (held | rfl)
    · exact Nat.lt_succ_of_lt (exclusive.made h held)
    · exact Nat.lt_succ_self s.made
  · rintro h (held | rfl)
    · exact exclusive.lawful h held
    · exact law
  · rintro h k (heldH | rfl) (heldK | rfl) same
    · exact exclusive.same h k heldH heldK same
    · exact absurd same (apart h heldH)
    · exact absurd same.symm (apart k heldK)
    · rfl
  · rintro h k (heldH | rfl) (heldK | rfl) openH openK on
    · rw [old h heldH] at openH
      rw [old k heldK] at openK
      exact exclusive.alone h k heldH heldK openH openK on
    · -- A session that has just been made is not open, and so no second one on its backend.
      exact absurd openK shut
    · exact absurd openH shut
    · rfl
  · rw [Sessions.busy_withNew, exclusive.busy]
    constructor
    · rintro ⟨h, held, on, isOpen⟩
      exact ⟨h, .inl held, on, by rw [old h held, isOpen]⟩
    · rintro ⟨h, held | rfl, on, isOpen⟩
      · rw [old h held] at isOpen
        exact ⟨h, held, on, isOpen⟩
      · exact absurd isOpen shut

end Exclusive

/-- What sessions do keeps them exclusive. -/
theorem exclusive_ledger (lawful : Backend σ → Prop) :
    Ledger lawful fun known s _ => Exclusive lawful known s where
  queries _ request _ _ _ exclusive := exclusive.asked request
  start held _ _ exclusive := exclusive.started held
  finish held _ _ exclusive := exclusive.finished held
  make _ law exclusive := exclusive.make law
  behind _ exclusive := exclusive.congr rfl rfl rfl

end GpuTelemetry
