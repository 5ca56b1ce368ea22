import GpuTelemetry.Proofs.Session.Ledger

/-!
# Guarded queries

A query is guarded if its session has started the backend and nobody has started it or shut it down
since. Sessions may be forgotten while they are open, and samplers and feeds may keep a session that
has been closed long ago, so the sessions in question are those that are still known to somebody.
`Orderly` is what sessions and calls have to agree on for every query of a known session to be
guarded: an open session owns the last turn of its backend.

Each operation keeps it so: whatever goes through known sessions (`Orderly.through`), starting and
finishing one of them (`orderly_start`, `orderly_finish`) and making one (`Orderly.make`). So it is
a ledger (`orderly_ledger`).
-/

namespace GpuTelemetry

variable {σ : Type}

/-- Every query among calls was made by a session whose start is the last turn of the backend. -/
def Guarded (calls : List Call) : Prop :=
  ∀ before c after, calls = before ++ c :: after → c.request.lifecycle = false →
    ∃ id, c.session = some id ∧
      lastTurn c.backend before = some ⟨some id, c.backend, .start, true⟩

namespace Guarded

theorem nil : Guarded [] := by
  intro before c after split
  exact absurd split (by simp)

/-- Further calls are guarded if each query among them is, given all that comes before it. -/
theorem append {first second : List Call} (one : Guarded first)
    (two : ∀ before c after, second = before ++ c :: after → c.request.lifecycle = false →
      ∃ id, c.session = some id ∧
        lastTurn c.backend (first ++ before) = some ⟨some id, c.backend, .start, true⟩) :
    Guarded (first ++ second) := by
  intro before c after split query
  rcases List.append_eq_append_iff.mp split with ⟨between, rfl, late⟩ | ⟨between, early, rest⟩
  · exact two between c after late query
  · -- With nothing in between the query is the very first of the further calls.
    cases between with
    | nil =>
        rw [List.append_nil] at early
        subst early
        rw [← List.append_nil first]
        exact two [] c after rest.symm query
    | cons d between =>
        rw [List.cons_append] at rest
        injection rest with same rest
        subst same
        exact one before c between early query

/-- A start or a shutdown asks nothing. -/
theorem turn {calls : List Call} {c : Call} (guarded : Guarded calls)
    (turn : c.request.lifecycle = true) : Guarded (calls ++ [c]) := by
  refine guarded.append fun before d after split query => ?_
  have same : d = c := by
    have member : d ∈ [c] := by
      rw [split]
      exact List.mem_append_right _ List.mem_cons_self
    exact List.mem_singleton.mp member
  rw [same, turn] at query
  exact absurd query Bool.noConfusion

end Guarded

/-- Known sessions agree with the state of all sessions and with the calls so far: sessions with one
number are on one backend, and an open one has its backend to itself since it started it. -/
structure Orderly (known : Session σ → Prop) (s : Sessions σ) (past : List Call) : Prop where
  made : ∀ h, known h → h.id < s.made
  backend : ∀ h k, known h → known k → h.id = k.id → h.backend.id = k.backend.id
  busy : ∀ h, known h → s.phase h.id = .opened → s.busy h.backend.id = true
  started : ∀ h, known h → s.phase h.id = .opened →
    lastTurn h.backend.id past = some (h.call .start true)
  guarded : Guarded past

namespace Orderly

variable {known : Session σ → Prop} {s : Sessions σ} {past : List Call} {h : Session σ}

/-- Nobody knows a session yet. -/
theorem empty (s : Sessions σ) : Orderly (fun _ => False) s [] where
  made _ none := none.elim
  backend _ _ none := none.elim
  busy _ none := none.elim
  started _ none := none.elim
  guarded := .nil

/-- The state behind the backends does not matter. -/
theorem congr (orderly : Orderly known s past) {t : Sessions σ} (phase : t.phase = s.phase)
    (busy : t.busy = s.busy) (made : t.made = s.made) : Orderly known t past where
  made := by
    rw [made]
    exact orderly.made
  backend := orderly.backend
  busy := by
    rw [phase, busy]
    exact orderly.busy
  started := by
    rw [phase]
    exact orderly.started
  guarded := orderly.guarded

/-- Whatever is reached through known sessions is guarded. -/
theorem through {hs : List (Session σ)} {t : Sessions σ} {calls : List Call}
    (orderly : Orderly known s past) (allKnown : ∀ h ∈ hs, known h)
    (moved : Through hs s calls t) : Orderly known t (past ++ calls) := by
  -- Nothing that is called is a turn of any backend, so the last turns are what they were.
  have quiet : ∀ c ∈ calls, c.request.lifecycle = false := by
    intro c member
    obtain ⟨h, held, isOpen, request, answered, query, rfl⟩ := moved.queries c member
    exact query
  refine ⟨?_, orderly.backend, ?_, ?_, ?_⟩
  · rw [moved.made]
    exact orderly.made
  · rw [moved.phase, moved.busy]
    exact orderly.busy
  · intro h known isOpen
    rw [moved.phase] at isOpen
    rw [lastTurn_append_of_quiet past quiet]
    exact orderly.started h known isOpen
  · refine orderly.guarded.append fun before c after split query => ?_
    have member : c ∈ calls := by
      rw [split]
      exact List.mem_append_right _ List.mem_cons_self
    obtain ⟨h, held, isOpen, request, answered, _, rfl⟩ := moved.queries c member
    refine ⟨h.id, rfl, ?_⟩
    rw [lastTurn_append_of_quiet past fun d early =>
      quiet d (split ▸ List.mem_append_left _ early)]
    exact orderly.started h (allKnown h held) isOpen

/-- One known session makes a start or a shutdown, with no other one open on its backend. If it is
open afterwards, it is because the start succeeded. -/
theorem turn (orderly : Orderly known s past) (held : known h) {t : Sessions σ}
    {request : Request} {answered : Bool} (turn : request.lifecycle = true)
    (alone : ∀ k, known k → s.phase k.id = .opened → k.backend.id = h.backend.id → k.id = h.id)
    (made : t.made = s.made) (others : ∀ id, id ≠ h.id → t.phase id = s.phase id)
    (rest : ∀ id, id ≠ h.backend.id → t.busy id = s.busy id)
    (own : t.phase h.id = .opened →
      t.busy h.backend.id = true ∧ request = .start ∧ answered = true) :
    Orderly known t (past ++ [h.call request answered]) := by
  -- Whoever else is open afterwards was open before, and so is on another backend.
  have elsewhere : ∀ k, known k → t.phase k.id = .opened → k.id ≠ h.id →
      s.phase k.id = .opened ∧ k.backend.id ≠ h.backend.id := by
    intro k knownK isOpen other
    rw [others k.id other] at isOpen
    exact ⟨isOpen, fun on => other (alone k knownK isOpen on)⟩
  refine ⟨?_, orderly.backend, ?_, ?_, orderly.guarded.turn turn⟩
  · rw [made]
    exact orderly.made
  · intro k knownK isOpen
    by_cases same : k.id = h.id
    · rw [orderly.backend k h knownK held same]
      rw [same] at isOpen
      exact (own isOpen).1
    · obtain ⟨wasOpen, off⟩ := elsewhere k knownK isOpen same
      rw [rest _ off]
      exact orderly.busy k knownK wasOpen
  · intro k knownK isOpen
    rw [lastTurn_snoc, Session.turns_call_iff, turn, Bool.and_true]
    by_cases same : k.id = h.id
    · have on : k.backend.id = h.backend.id := orderly.backend k h knownK held same
      rw [same] at isOpen
      obtain ⟨_, rfl, rfl⟩ := own isOpen
      rw [on, beq_self_eq_true, if_pos rfl]
      unfold Session.call
      rw [on, same]
    · obtain ⟨wasOpen, off⟩ := elsewhere k knownK isOpen same
      rw [beq_false_of_ne (Ne.symm off), if_neg Bool.false_ne_true]
      exact orderly.started k knownK wasOpen

/-- No known session is open on an idle backend. -/
theorem alone_of_idle (orderly : Orderly known s past) (idle : s.busy h.backend.id = false) :
    ∀ k, known k → s.phase k.id = .opened → k.backend.id = h.backend.id → k.id = h.id := by
  intro k knownK isOpen on
  have busy := orderly.busy k knownK isOpen
  rw [on, idle] at busy
  exact absurd busy Bool.false_ne_true

/-- At most one known session is open on a backend. -/
theorem alone_of_opened (orderly : Orderly known s past) (held : known h)
    (isOpen : s.phase h.id = .opened) :
    ∀ k, known k → s.phase k.id = .opened → k.backend.id = h.backend.id → k.id = h.id := by
  intro k knownK openK on
  -- Both starts are the last turn of the one backend.
  have last := orderly.started k knownK openK
  rw [on, orderly.started h held isOpen] at last
  injection last with same
  injection same with number
  injection number with number
  exact number.symm

/-- A session becomes known when it is made. -/
theorem make (orderly : Orderly known s past) (b : Backend σ) :
    Orderly (fun h => known h ∨ h = Session.upcoming b s) s.withNew past := by
  have apart : ∀ h, known h → h.id ≠ s.made := fun h held => Nat.ne_of_lt (orderly.made h held)
  have old : ∀ h, known h → s.withNew.phase h.id = s.phase h.id := fun h held =>
    Sessions.phase_withNew_of_ne (apart h held)
  have fresh : s.withNew.phase (Session.upcoming b s).id = .fresh := s.phase_withNew_made
  refine ⟨?_, ?_, ?_, ?_, orderly.guarded⟩
  · rintro h (held | rfl)
    · exact Nat.lt_succ_of_lt (orderly.made h held)
    · exact Nat.lt_succ_self s.made
  · rintro h k (heldH | rfl) (heldK | rfl) same
    · exact orderly.backend h k heldH heldK same
    · exact absurd same (apart h heldH)
    · exact absurd same.symm (apart k heldK)
    · rfl
  · rintro h (held | rfl) isOpen
    · rw [old h held] at isOpen
      exact orderly.busy h held isOpen
    · -- The new session is fresh, so nothing has to be known of the turns of its backend.
      rw [fresh] at isOpen
      cases isOpen
  · rintro h (held | rfl) isOpen
    · rw [old h held] at isOpen
      exact orderly.started h held isOpen
    · rw [fresh] at isOpen
      cases isOpen

end Orderly

section Operations

variable {known : Session σ → Prop} {h : Session σ} (held : known h)

include held

/-- A known session may ask what it likes. -/
theorem orderly_queries : h.Queries (.keeping (Orderly known)) := by
  intro request query s past orderly
  have moved : Through [h] s (h.ask request s).calls (h.ask request s).state :=
    Session.queries_through (List.mem_singleton_self h) request query s
  refine orderly.through ?_ moved
  intro k member
  rw [List.mem_singleton.mp member]
  exact held

theorem orderly_start : h.start.Follows (.keeping (Orderly known)) := by
  intro s past orderly
  cases h.starting s with
  | refused fault misuse result =>
      rw [result]
      exact (Moves.keeping (Orderly known)).stay s past orderly
  | served fresh idle reply result state calls =>
      rw [state, calls]
      exact orderly.turn held rfl (orderly.alone_of_idle idle) rfl
        (fun id other => Sessions.phase_setPhase_of_ne _ _ other)
        (fun id other => Sessions.busy_setBusy_of_ne _ _ other)
        fun _ => ⟨Sessions.busy_setBusy_self .., rfl, rfl⟩
  | declined reason fresh idle reply result state calls =>
      rw [state, calls]
      refine orderly.turn held rfl (orderly.alone_of_idle idle) rfl
        (fun id other => Sessions.phase_setPhase_of_ne _ _ other) (fun id other => rfl) ?_
      intro isOpen
      -- A session whose start has failed is closed and owns no turn.
      rw [Sessions.phase_setPhase_self] at isOpen
      cases isOpen
  | broken refusal fresh idle other reply result state calls =>
      rw [state, calls]
      refine orderly.turn held rfl (orderly.alone_of_idle idle) rfl (fun id other => rfl)
        (fun id other => rfl) ?_
      intro isOpen
      -- One whose start has broken off is still fresh.
      rw [Backend.phase_asked, fresh] at isOpen
      cases isOpen

theorem orderly_finish : h.finish.Follows (.keeping (Orderly known)) := by
  intro s past orderly
  cases h.finishing s with
  | ignored shut result =>
      rw [result]
      exact (Moves.keeping (Orderly known)).stay s past orderly
  | closed isOpen result state calls =>
      rw [state, calls]
      refine orderly.turn held rfl (orderly.alone_of_opened held isOpen) rfl
        (fun id other => Sessions.phase_setPhase_of_ne _ _ other)
        (fun id other => Sessions.busy_setBusy_of_ne _ _ other) ?_
      -- The shutdown takes the turn, but then the session is no longer open.
      intro stillOpen
      rw [Sessions.closed, Sessions.phase_setBusy, Sessions.phase_setPhase_self] at stillOpen
      cases stillOpen

end Operations

/-- What sessions do keeps them in order. -/
theorem orderly_ledger : Ledger (fun _ : Backend σ => True) Orderly where
  queries := orderly_queries
  start := orderly_start
  finish := orderly_finish
  make b _ orderly := orderly.make b
  behind _ orderly := orderly.congr rfl rfl rfl

end GpuTelemetry
