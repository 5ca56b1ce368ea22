import GpuTelemetry.Proofs.Session.Linked
import GpuTelemetry.Proofs.Session.Queries

/-!
# What is local to a session

A session changes how far it has come, whether its backend is busy, and what lies behind its backend
when it has that started or shut down (`Session.Change`). A session on another backend takes no
notice of such changes (`Session.Ignores`), if the two backends take none of each other's starts and
shutdowns (`Backend.Aloof`). An operation is local if it makes no other changes, and is the same
under all changes that its session takes no notice of (`Session.Local`).

Main statement: local operations of sessions that are apart commute (`Session.Local.commute`).
-/

namespace GpuTelemetry

variable {σ α β : Type}

open Run (Mirrors)

/-- Two runs that commute from a state: in either order each has the same result and the same
events, and the state in the end is the same. -/
structure Run.Commute (x : Run σ α) (y : Run σ β) (s : σ) : Prop where
  first : (x (y s).state).result = (x s).result ∧ (x (y s).state).events = (x s).events
  second : (y (x s).state).result = (y s).result ∧ (y (x s).state).events = (y s).events
  state : (x (y s).state).state = (y (x s).state).state

/-- States are related to what a change makes of them, and nothing else happens. -/
def Mirror.along (f : σ → σ) : Mirror σ σ where
  state s t := t = f s
  events := Eq
  nothing := rfl
  join := by
    rintro l k l' k' rfl rfl
    rfl

/-- A backend that takes no notice when another one is started or shut down. -/
structure Backend.Aloof (b c : Backend σ) : Prop where
  result : ∀ request other x, request.lifecycle = true → other.lifecycle = true →
    (b.answer request (c.answer other x).state).result = (b.answer request x).result
  notes : ∀ request other x, request.lifecycle = true → other.lifecycle = true →
    (b.answer request (c.answer other x).state).notes = (b.answer request x).notes
  state : ∀ request other x, request.lifecycle = true → other.lifecycle = true →
    (b.answer request (c.answer other x).state).state =
      (c.answer other (b.answer request x).state).state

/-- Backends take no notice of each other if each sees a part of the state that the other leaves
alone. -/
theorem Backend.Aloof.zoom {σ' τ : Type} (b : Backend σ) (c : Backend σ') {get : τ → σ}
    {set : σ → τ → τ} {get' : τ → σ'} {set' : σ' → τ → τ} (mine : ∀ y t, get (set' y t) = get t)
    (theirs : ∀ x t, get' (set x t) = get' t)
    (both : ∀ x y t, set x (set' y t) = set' y (set x t)) :
    (b.zoom get set).Aloof (c.zoom get' set') where
  result request other t _ _ := by
    show (b.answer request (get (set' _ t))).result = _
    rw [mine]
    rfl
  notes request other t _ _ := by
    show (b.answer request (get (set' _ t))).notes = _
    rw [mine]
    rfl
  state request other t _ _ := by
    show set (b.answer request (get (set' _ t))).state (set' _ t) =
      set' (c.answer other (get' (set _ t))).state (set _ t)
    rw [mine, theirs, both]

namespace Sessions

variable (s : Sessions σ)

theorem setPhase_setPhase_of_ne {id other : SessionId} (different : id ≠ other)
    (phase phase' : Session.Phase) :
    (s.setPhase id phase).setPhase other phase' = (s.setPhase other phase').setPhase id phase := by
  unfold setPhase
  congr 1
  funext number
  dsimp only
  by_cases own : number = id
  · rw [own, if_neg different, if_pos rfl, if_pos rfl]
  · rw [if_neg own, if_neg own]

theorem setBusy_setBusy_of_ne {id other : BackendId} (different : id ≠ other)
    (busy busy' : Bool) :
    (s.setBusy id busy).setBusy other busy' = (s.setBusy other busy').setBusy id busy := by
  unfold setBusy
  congr 1
  funext number
  dsimp only
  by_cases own : number = id
  · rw [own, if_neg different, if_pos rfl, if_pos rfl]
  · rw [if_neg own, if_neg own]

end Sessions

namespace Session

variable {h k : Session σ} {f g : Sessions σ → Sessions σ} {x : Run (Sessions σ) α}
  {y : Run (Sessions σ) β}

/-- The changes that a session makes. -/
inductive Change (h : Session σ) : (Sessions σ → Sessions σ) → Prop
  | stay : Change h fun s => s
  | phase {f : Sessions σ → Sessions σ} (phase : Phase) (before : Change h f) :
      Change h fun s => (f s).setPhase h.id phase
  | busy {f : Sessions σ → Sessions σ} (busy : Bool) (before : Change h f) :
      Change h fun s => (f s).setBusy h.backend.id busy
  | asked {f : Sessions σ → Sessions σ} (request : Request) (turn : request.lifecycle = true)
      (before : Change h f) : Change h fun s => h.backend.asked request (f s)

/-- A change that a session takes no notice of: it sees the same, and its own changes can as well be
made ahead of it. -/
structure Ignores (h : Session σ) (f : Sessions σ → Sessions σ) : Prop where
  phase : ∀ s, (f s).phase h.id = s.phase h.id
  busy : ∀ s, (f s).busy h.backend.id = s.busy h.backend.id
  setPhase : ∀ s phase, (f s).setPhase h.id phase = f (s.setPhase h.id phase)
  setBusy : ∀ s busy, (f s).setBusy h.backend.id busy = f (s.setBusy h.backend.id busy)
  asked : ∀ s request, request.lifecycle = true →
    h.backend.asked request (f s) = f (h.backend.asked request s)
  reply : ∀ s session request, request.lifecycle = true →
    (h.backend.ask session request (f s)).result = (h.backend.ask session request s).result ∧
      (h.backend.ask session request (f s)).events = (h.backend.ask session request s).events

/-- Two sessions that are not the same, on backends that take no notice of each other. -/
structure Apart (h k : Session σ) : Prop where
  number : h.id ≠ k.id
  backend : h.backend.id ≠ k.backend.id
  aloof : h.backend.Aloof k.backend

/-- What a session changes is no concern of another one that is apart from it. -/
theorem Change.ignored (change : k.Change f) (apart : h.Apart k) : h.Ignores f := by
  induction change with
  | stay => exact ⟨fun _ => rfl, fun _ => rfl, fun _ _ => rfl, fun _ _ => rfl, fun _ _ _ => rfl,
      fun _ _ _ _ => ⟨rfl, rfl⟩⟩
  | @phase f phase before ih =>
      refine ⟨fun s => ?_, ih.busy, fun s other => ?_, fun s busy => ?_, fun s request turn => ?_,
        ih.reply⟩
      · -- The phases are those of two sessions with different numbers.
        rw [Sessions.phase_setPhase_of_ne _ _ apart.number, ih.phase]
      · rw [Sessions.setPhase_setPhase_of_ne _ apart.number.symm, ih.setPhase]
      · rw [← ih.setBusy]
        rfl
      · rw [← ih.asked s request turn]
        rfl
  | @busy f busy before ih =>
      refine ⟨ih.phase, fun s => ?_, fun s phase => ?_, fun s other => ?_, fun s request turn => ?_,
        ih.reply⟩
      · -- And the marks are those of two different backends.
        rw [Sessions.busy_setBusy_of_ne _ _ apart.backend, ih.busy]
      · rw [← ih.setPhase]
        rfl
      · rw [Sessions.setBusy_setBusy_of_ne _ apart.backend.symm, ih.setBusy]
      · rw [← ih.asked s request turn]
        rfl
  | @asked f other turn before ih =>
      refine ⟨ih.phase, ih.busy, fun s phase => ?_, fun s busy => ?_, fun s request turn' => ?_,
        fun s session request turn' => ?_⟩
      · rw [← ih.setPhase]
        rfl
      · rw [← ih.setBusy]
        rfl
      · rw [← ih.asked s request turn']
        -- Only requests concern the state behind the backends, and the backends are aloof.
        unfold Backend.asked
        rw [apart.aloof.state request other _ turn' turn]
      · obtain ⟨result, events⟩ := ih.reply s session request turn'
        rw [← result, ← events]
        unfold Backend.ask Backend.asked
        dsimp only
        rw [apart.aloof.result request other _ turn' turn,
          apart.aloof.notes request other _ turn' turn]
        exact ⟨rfl, rfl⟩

/-- The changes of a session can as well be made ahead of one that it takes no notice of. -/
theorem Change.comm (change : h.Change f) (ignores : h.Ignores g) (s : Sessions σ) :
    f (g s) = g (f s) := by
  induction change with
  | stay => rfl
  | phase phase before ih =>
      dsimp only
      rw [ih, ignores.setPhase]
  | busy busy before ih =>
      dsimp only
      rw [ih, ignores.setBusy]
  | asked request turn before ih =>
      dsimp only
      rw [ih, ignores.asked _ request turn]

theorem Ignores.mirrors_ask (ignores : h.Ignores f) {request : Request}
    (turn : request.lifecycle = true) (session : Option SessionId) :
    Mirrors (.along f) Eq (h.backend.ask session request) (h.backend.ask session request) := by
  rintro s t rfl
  obtain ⟨result, events⟩ := ignores.reply s session request turn
  refine ⟨?_, ignores.asked s request turn, events.symm⟩
  rw [result]
  exact .refl (fun _ => rfl) _

theorem Ignores.matching (ignores : h.Ignores f) : h.Matching (.along f) h where
  note _ := rfl
  named := rfl
  phase s t start := by
    rw [show t = f s from start, ignores.phase]
  busy s t start := by
    rw [show t = f s from start, ignores.busy]
  setPhase s t phase start := by
    rw [show t = f s from start]
    exact ignores.setPhase s phase
  setBusy s t busy start := by
    rw [show t = f s from start]
    exact ignores.setBusy s busy
  asked := ignores.mirrors_ask rfl _

/-- An operation of a session by which only the session changes, and which is the same under all
changes that the session takes no notice of. -/
structure Local (h : Session σ) (x : Run (Sessions σ) α) : Prop where
  changes : ∀ s, ∃ f, h.Change f ∧ (x s).state = f s
  steady : ∀ f, h.Ignores f → Mirrors (.along f) Eq x x

namespace Local

theorem phase (h : Session σ) : h.Local h.phase where
  changes _ := ⟨fun s => s, .stay, rfl⟩
  steady _ ignores := ignores.matching.looked

theorem vendor (h : Session σ) : h.Local h.vendor where
  changes s := by
    have still : h.vendor.Follows .still := Queries.vendor h
    exact ⟨fun s => s, .stay, (still s).2⟩
  steady _ ignores := ignores.matching.vendor

theorem start (h : Session σ) : h.Local h.start where
  changes s := by
    have asked : h.Change fun s => h.backend.asked .start s := .asked .start rfl .stay
    cases h.starting s with
    | refused fault misuse result => exact ⟨fun s => s, .stay, by rw [result]⟩
    | served fresh idle reply result state calls =>
        exact ⟨_, (asked.phase .opened).busy true, state⟩
    | declined reason fresh idle reply result state calls => exact ⟨_, asked.phase .closed, state⟩
    | broken refusal fresh idle other reply result state calls => exact ⟨_, asked, state⟩
  steady _ ignores := ignores.matching.start

theorem enter (h : Session σ) : h.Local h.enter where
  changes s := by
    by_cases isOpen : s.phase h.id = .opened
    · rw [enter_of_opened isOpen]
      exact ⟨fun s => s, .stay, rfl⟩
    · rw [enter_of_not_opened isOpen]
      exact (start h).changes s
  steady _ ignores := ignores.matching.enter

theorem finish (h : Session σ) : h.Local h.finish where
  changes s := by
    cases h.finishing s with
    | ignored shut result => exact ⟨fun s => s, .stay, by rw [result]⟩
    | closed isOpen result state calls =>
        have asked : h.Change fun s => h.backend.asked .shutdown s := .asked .shutdown rfl .stay
        exact ⟨_, (asked.phase .closed).busy false, state⟩
  steady _ ignores := ignores.matching.finish (ignores.mirrors_ask rfl _)

/-- What is made of the result concerns nobody. -/
theorem map (one : h.Local x) (give : α → β) : h.Local (x >>= fun a => pure (give a)) where
  changes s := by
    obtain ⟨f, change, state⟩ := one.changes s
    refine ⟨f, change, ?_⟩
    rcases result : (x s).result with fault | a
    · rw [Run.bind_of_error _ result]
      exact state
    · rw [Run.bind_of_ok _ result]
      exact state
  steady f ignores := (one.steady f ignores).andThen fun _ => .pure rfl

/-- Local operations of two sessions that are apart commute. -/
theorem commute (one : h.Local x) (two : k.Local y) (apart : h.Apart k) (apart' : k.Apart h)
    (s : Sessions σ) : Run.Commute x y s := by
  obtain ⟨f, changeF, stateF⟩ := one.changes s
  obtain ⟨g, changeG, stateG⟩ := two.changes s
  have ignoresG : h.Ignores g := changeG.ignored apart
  have early := one.steady g ignoresG s (g s) rfl
  have late := two.steady f (changeF.ignored apart') s (f s) rfl
  -- Each run gives the same behind the change that the other one makes.
  refine ⟨?_, ?_, ?_⟩
  · rw [stateG]
    exact ⟨early.result.eq.symm, early.events.symm⟩
  · rw [stateF]
    exact ⟨late.result.eq.symm, late.events.symm⟩
  · calc (x (y s).state).state
        = (x (g s)).state := by rw [stateG]
      _ = g (x s).state := early.state
      _ = g (f s) := by rw [stateF]
      _ = f (g s) := (changeF.comm ignoresG s).symm
      _ = f (y s).state := by rw [stateG]
      _ = (y (f s)).state := late.state.symm
      _ = (y (x s).state).state := by rw [stateF]

end Local

end Session

end GpuTelemetry
