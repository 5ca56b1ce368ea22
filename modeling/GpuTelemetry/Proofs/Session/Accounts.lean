import GpuTelemetry.Proofs.Session.Steps

/-!
# The accounts of sessions

Sessions that are made one after the other, on any backends, and started and finished in any order.
If backends either start or decline to, the sessions, the busy backends and the calls so far agree
in the way that `Accounts` states, and each operation keeps it so: `Accounts.make`,
`Accounts.follows_start` and `Accounts.follows_finish`.
-/

namespace GpuTelemetry

variable {σ : Type}

/-- A backend that gives words for not starting, if it does not. -/
def Backend.Obliging (b : Backend σ) : Prop :=
  ∀ s refusal, (b.answer .start s).result = .error refusal → ∃ reason, refusal = .declined reason

/-- How many starts and shutdowns a session can have asked for in a phase. -/
def Session.Phase.Spent : Session.Phase → Nat → Nat → Prop
  | .fresh, starts, shutdowns => starts = 0 ∧ shutdowns = 0
  | .opened, starts, shutdowns => starts = 1 ∧ shutdowns = 0
  | .closed, starts, shutdowns => starts = 1 ∧ shutdowns ≤ 1

theorem Session.Phase.Spent.at_most_once {phase : Session.Phase} {starts shutdowns : Nat}
    (spent : phase.Spent starts shutdowns) : starts ≤ 1 ∧ shutdowns ≤ 1 := by
  cases phase <;> unfold Session.Phase.Spent at spent <;> omega

/-- The sessions made so far, in the order of their numbers, agree with their state and with the
calls so far. -/
structure Accounts (handles : List (Session σ)) (s : Sessions σ) (past : List Call) : Prop where
  numbered : ∀ (place : Nat) (h : Session σ), handles[place]? = some h → h.id = place
  made : s.made = handles.length
  single : ∀ h ∈ handles, ∀ k ∈ handles, s.phase h.id = .opened → s.phase k.id = .opened →
    h.backend.id = k.backend.id → h = k
  busy : ∀ id, s.busy id = true ↔ ∃ h ∈ handles, h.backend.id = id ∧ s.phase h.id = .opened
  balance : ∀ id, timesOn id .start past =
    timesOn id .shutdown past + failuresOn id .start past + (s.busy id).toNat
  spent : ∀ h ∈ handles,
    (s.phase h.id).Spent (timesBy h.id .start past) (timesBy h.id .shutdown past)
  owned : ∀ c ∈ past, ∃ h ∈ handles, c.session = some h.id

namespace Accounts

variable {handles : List (Session σ)} {s : Sessions σ} {past : List Call} {h : Session σ}

/-- Sessions are told apart by their numbers. -/
theorem eq_of_id (accounts : Accounts handles s past) {k : Session σ} (one : h ∈ handles)
    (two : k ∈ handles) (same : h.id = k.id) : h = k := by
  obtain ⟨i, atI⟩ := List.mem_iff_getElem?.mp one
  obtain ⟨j, atJ⟩ := List.mem_iff_getElem?.mp two
  -- A session's number is its place.
  have place : i = j := by
    rw [← accounts.numbered i h atI, ← accounts.numbered j k atJ, same]
  subst place
  rw [atI] at atJ
  injection atJ

theorem id_lt_made (accounts : Accounts handles s past) (held : h ∈ handles) : h.id < s.made := by
  obtain ⟨i, atI⟩ := List.mem_iff_getElem?.mp held
  obtain ⟨inside, _⟩ := List.getElem?_eq_some_iff.mp atI
  rw [accounts.numbered i h atI, accounts.made]
  exact inside

/-- The accounts say nothing about the state behind the backends. -/
theorem congr (accounts : Accounts handles s past) {t : Sessions σ} (phase : t.phase = s.phase)
    (busy : t.busy = s.busy) (made : t.made = s.made) : Accounts handles t past where
  numbered := accounts.numbered
  made := made.trans accounts.made
  single := by
    rw [phase]
    exact accounts.single
  busy := by
    rw [phase, busy]
    exact accounts.busy
  balance := by
    rw [busy]
    exact accounts.balance
  spent := by
    rw [phase]
    exact accounts.spent
  owned := accounts.owned

/-- Nothing has been made yet. -/
theorem empty (backends : σ) : Accounts [] { backends : Sessions σ } [] where
  numbered place h held := by simp at held
  made := rfl
  single h held := absurd held List.not_mem_nil
  busy id := by simp
  balance id := rfl
  spent h held := absurd held List.not_mem_nil
  owned c member := absurd member List.not_mem_nil

/-- A new session starts an account of its own, with nothing on it. -/
theorem make (accounts : Accounts handles s past) (b : Backend σ) :
    Accounts (handles ++ [Session.upcoming b s]) s.withNew past := by
  have old : ∀ h ∈ handles, s.withNew.phase h.id = s.phase h.id := fun h held =>
    Sessions.phase_withNew_of_ne (Nat.ne_of_lt (accounts.id_lt_made held))
  have new : s.withNew.phase (Session.upcoming b s).id = .fresh := s.phase_withNew_made
  have shut : s.withNew.phase (Session.upcoming b s).id ≠ .opened := by
    rw [new]
    exact Session.Phase.noConfusion
  -- Every call so far belongs to a session with a smaller number.
  have silent : ∀ c ∈ past, c.session ≠ some (Session.upcoming b s).id := by
    intro c member same
    obtain ⟨h, held, own⟩ := accounts.owned c member
    have equal : h.id = s.made := Option.some.inj (own.symm.trans same)
    exact Nat.ne_of_lt (accounts.id_lt_made held) equal
  refine ⟨?_, ?_, ?_, ?_, accounts.balance, ?_, ?_⟩
  · intro place h held
    rw [List.getElem?_append] at held
    split at held
    · exact accounts.numbered place h held
    · rename_i outside
      obtain ⟨inside, eq⟩ := List.getElem?_eq_some_iff.mp held
      rw [List.getElem_singleton] at eq
      rw [← eq]
      show s.made = place
      rw [List.length_singleton] at inside
      rw [accounts.made]
      omega
  · rw [List.length_append, Sessions.made_withNew, accounts.made]
    rfl
  · intro h held k holding one two same
    rcases List.mem_append.mp held with earlier | last
    · rcases List.mem_append.mp holding with before | newest
      · rw [old h earlier] at one
        rw [old k before] at two
        exact accounts.single h earlier k before one two same
      · rw [List.mem_singleton.mp newest] at two
        exact absurd two shut
    · rw [List.mem_singleton.mp last] at one
      exact absurd one shut
  · intro id
    rw [Sessions.busy_withNew, accounts.busy]
    constructor
    · rintro ⟨h, held, on, isOpen⟩
      exact ⟨h, List.mem_append_left _ held, on, by rw [old h held, isOpen]⟩
    · rintro ⟨h, held, on, isOpen⟩
      rcases List.mem_append.mp held with earlier | last
      · exact ⟨h, earlier, on, by rw [← old h earlier, isOpen]⟩
      · rw [List.mem_singleton.mp last] at isOpen
        exact absurd isOpen shut
  · intro h held
    rcases List.mem_append.mp held with earlier | last
    · rw [old h earlier]
      exact accounts.spent h earlier
    · rw [List.mem_singleton.mp last, new]
      exact ⟨timesBy_eq_zero _ silent, timesBy_eq_zero _ silent⟩
  · intro c member
    obtain ⟨h, held, own⟩ := accounts.owned c member
    exact ⟨h, List.mem_append_left _ held, own⟩

/-- One session makes a start or a shutdown and changes its phase, while no other session is open on
its backend: it is enough to look at the session and at its backend. -/
theorem turn (accounts : Accounts handles s past) (held : h ∈ handles) {t : Sessions σ}
    {request : Request} {answered : Bool} {phase : Session.Phase}
    (alone : ∀ k ∈ handles, s.phase k.id = .opened → k.backend.id = h.backend.id → k = h)
    (made : t.made = s.made) (own : t.phase h.id = phase)
    (others : ∀ id, id ≠ h.id → t.phase id = s.phase id)
    (busy : t.busy h.backend.id = decide (phase = .opened))
    (rest : ∀ id, id ≠ h.backend.id → t.busy id = s.busy id)
    (balance : timesOn h.backend.id .start (past ++ [h.call request answered]) =
      timesOn h.backend.id .shutdown (past ++ [h.call request answered]) +
        failuresOn h.backend.id .start (past ++ [h.call request answered]) +
          (decide (phase = .opened)).toNat)
    (spent : phase.Spent (timesBy h.id .start (past ++ [h.call request answered]))
      (timesBy h.id .shutdown (past ++ [h.call request answered]))) :
    Accounts handles t (past ++ [h.call request answered]) := by
  have apart : ∀ k ∈ handles, k ≠ h → k.id ≠ h.id := fun k holding different same =>
    different (accounts.eq_of_id holding held same)
  have before : ∀ k ∈ handles, k ≠ h → t.phase k.id = s.phase k.id := fun k holding different =>
    others k.id (apart k holding different)
  -- Afterwards, too, nobody else can be open on the backend of `h`.
  have only : ∀ k ∈ handles, t.phase k.id = .opened → k.backend.id = h.backend.id → k = h := by
    intro k holding isOpen on
    by_cases same : k = h
    · exact same
    · rw [before k holding same] at isOpen
      exact alone k holding isOpen on
  refine ⟨accounts.numbered, made.trans accounts.made, ?_, ?_, ?_, ?_, ?_⟩
  · intro k holding l keeping one two same
    by_cases first : k = h
    · rw [first] at same ⊢
      exact (only l keeping two same.symm).symm
    · by_cases second : l = h
      · rw [second] at same ⊢
        exact only k holding one same
      · rw [before k holding first] at one
        rw [before l keeping second] at two
        exact accounts.single k holding l keeping one two same
  · intro id
    by_cases on : id = h.backend.id
    · rw [on, busy, decide_eq_true_eq, ← own]
      constructor
      · intro isOpen
        exact ⟨h, held, rfl, isOpen⟩
      · rintro ⟨k, holding, same, isOpen⟩
        rw [← only k holding isOpen same]
        exact isOpen
    · rw [rest id on, accounts.busy]
      have elsewhere : ∀ k ∈ handles, k.backend.id = id → t.phase k.id = s.phase k.id := by
        intro k holding same
        refine before k holding fun equal => on ?_
        rw [← same, equal]
      constructor
      · rintro ⟨k, holding, same, isOpen⟩
        exact ⟨k, holding, same, by rw [elsewhere k holding same, isOpen]⟩
      · rintro ⟨k, holding, same, isOpen⟩
        exact ⟨k, holding, same, by rw [← elsewhere k holding same, isOpen]⟩
  · intro id
    by_cases on : id = h.backend.id
    · rw [on, busy]
      exact balance
    · have off : ¬ h.backend.id = id := fun same => on same.symm
      rw [rest id on]
      simpa [Session.call, off] using accounts.balance id
  · intro k holding
    by_cases same : k = h
    · rw [same, own]
      exact spent
    · have other : ¬ h.id = k.id := fun equal => apart k holding same equal.symm
      rw [before k holding same]
      simpa [Session.call, other] using accounts.spent k holding
  · intro c member
    rcases List.mem_append.mp member with early | last
    · exact accounts.owned c early
    · rw [List.mem_singleton.mp last]
      exact ⟨h, held, rfl⟩

/-- No session is open on an idle backend. -/
theorem alone_of_idle (accounts : Accounts handles s past) (idle : s.busy h.backend.id = false) :
    ∀ k ∈ handles, s.phase k.id = .opened → k.backend.id = h.backend.id → k = h := by
  intro k holding isOpen on
  have busy := (accounts.busy h.backend.id).mpr ⟨k, holding, on, isOpen⟩
  rw [idle] at busy
  exact absurd busy Bool.false_ne_true

/-- Starting a session books a start, and an open session if it succeeds. -/
theorem follows_start (obliging : h.backend.Obliging) (held : h ∈ handles) :
    h.start.Follows (.keeping (Accounts handles)) := by
  intro s past accounts
  cases h.starting s with
  | refused fault misuse result =>
      rw [result]
      exact (Moves.keeping (Accounts handles)).stay s past accounts
  | broken refusal fresh idle other reply result state calls =>
      obtain ⟨reason, declined⟩ := obliging _ _ reply
      exact absurd declined (other reason)
  | declined reason fresh idle reply result state calls =>
      have balance := accounts.balance h.backend.id
      have spent := accounts.spent h held
      rw [fresh] at spent
      rw [idle] at balance
      rw [state, calls]
      refine accounts.turn held (accounts.alone_of_idle idle) rfl
        (Sessions.phase_setPhase_self ..) (fun id other => Sessions.phase_setPhase_of_ne _ _ other)
        idle (fun id _ => rfl) ?_ ?_
      -- The start is booked as a failure, so that the balance does not expect a shutdown.
      · simp [Session.call] at balance ⊢
        omega
      · simp [Session.call, Session.Phase.Spent] at spent ⊢
        omega
  | served fresh idle reply result state calls =>
      have balance := accounts.balance h.backend.id
      have spent := accounts.spent h held
      rw [fresh] at spent
      rw [idle] at balance
      rw [state, calls]
      refine accounts.turn held (accounts.alone_of_idle idle) rfl
        (Sessions.phase_setPhase_self ..) (fun id other => Sessions.phase_setPhase_of_ne _ _ other)
        (Sessions.busy_setBusy_self ..) (fun id other => Sessions.busy_setBusy_of_ne _ _ other)
        ?_ ?_
      · simp [Session.call] at balance ⊢
        omega
      · simpa [Session.call, Session.Phase.Spent] using spent

/-- Finishing an open session books its shutdown. -/
theorem follows_finish (held : h ∈ handles) :
    h.finish.Follows (.keeping (Accounts handles)) := by
  intro s past accounts
  cases h.finishing s with
  | ignored shut result =>
      rw [result]
      exact (Moves.keeping (Accounts handles)).stay s past accounts
  | closed isOpen result state calls =>
      have balance := accounts.balance h.backend.id
      have spent := accounts.spent h held
      have busy := (accounts.busy h.backend.id).mpr ⟨h, held, rfl, isOpen⟩
      -- An open session has spent its start only, so the shutdown is its first one.
      rw [isOpen] at spent
      rw [busy] at balance
      rw [state, calls]
      refine accounts.turn held (fun k holding open' on => ?_) rfl
        (Sessions.phase_setPhase_self ..) (fun id other => Sessions.phase_setPhase_of_ne _ _ other)
        (Sessions.busy_setBusy_self ..) (fun id other => Sessions.busy_setBusy_of_ne _ _ other)
        ?_ ?_
      · exact accounts.single k holding h held open' isOpen on
      · simp [Session.call] at balance ⊢
        omega
      · simpa [Session.call, Session.Phase.Spent] using spent

end Accounts

end GpuTelemetry
