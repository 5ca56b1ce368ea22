import GpuTelemetry.Command.Execution
import GpuTelemetry.Proofs.Session.Queries
import GpuTelemetry.Survey

/-!
# Episodes

The calls that one session makes from beginning to end are an `Episode`: none at all, or a start
that fails, or a start that succeeds, queries, and a shutdown as the last. A session is cleaned up
after in two ways, inside `Session.within` and by a command, and both make one episode however their
body ends.

Main statement: `complete_episodes`. In every run of a collection, of a command and of the survey
each call belongs to a session, and each session's calls are an episode.
-/

namespace GpuTelemetry

variable {σ α : Type}

/-- The calls of a session on a backend from beginning to end. -/
inductive Episode (id : SessionId) (backend : BackendId) : List Call → Prop
  /-- The session was refused before any call. -/
  | unstarted : Episode id backend []
  /-- The start failed, and nothing was asked after it. -/
  | failed : Episode id backend [⟨some id, backend, .start, false⟩]
  /-- The start succeeded, and after the queries came one shutdown and nothing else. -/
  | served {queries : List Call} {answered : Bool}
      (only : ∀ c ∈ queries, c.session = some id ∧ c.backend = backend ∧
        c.request.lifecycle = false) :
      Episode id backend
        (⟨some id, backend, .start, true⟩ :: queries ++ [⟨some id, backend, .shutdown, answered⟩])

/-- Calls that all belong to sessions, each of which makes an episode. -/
structure Complete (calls : List Call) : Prop where
  owned : ∀ c ∈ calls, c.session ≠ none
  episodes : ∀ id, ∃ backend, Episode id backend (calls.filter (·.session == some id))

namespace Episode

variable {id : SessionId} {backend : BackendId} {calls : List Call}

theorem session_eq (episode : Episode id backend calls) : ∀ c ∈ calls, c.session = some id := by
  intro c member
  cases episode with
  | unstarted => exact absurd member List.not_mem_nil
  | failed => rw [List.mem_singleton.mp member]
  | served only =>
      rcases List.mem_append.mp member with early | last
      · rcases List.mem_cons.mp early with first | query
        · rw [first]
        · exact (only c query).1
      · rw [List.mem_singleton.mp last]

theorem filter_self (episode : Episode id backend calls) :
    calls.filter (·.session == some id) = calls := by
  rw [List.filter_eq_self]
  intro c member
  simpa using episode.session_eq c member

theorem filter_of_ne {other : SessionId} (episode : Episode id backend calls)
    (different : id ≠ other) : calls.filter (·.session == some other) = [] := by
  rw [List.filter_eq_nil_iff]
  intro c member same
  have own := episode.session_eq c member
  simp only [own, beq_iff_eq, Option.some.injEq] at same
  exact different same

end Episode

/-- No calls at all are complete. -/
theorem Complete.nil : Complete [] where
  owned _ member := absurd member List.not_mem_nil
  episodes _ := ⟨0, .unstarted⟩

/-- One episode is complete. -/
theorem Complete.of_episode {id : SessionId} {backend : BackendId} {calls : List Call}
    (episode : Episode id backend calls) : Complete calls where
  owned c member := by simp [episode.session_eq c member]
  episodes other := by
    by_cases same : id = other
    · subst same
      rw [episode.filter_self]
      exact ⟨backend, episode⟩
    · rw [episode.filter_of_ne same]
      exact ⟨backend, .unstarted⟩

/-- Episodes of two different sessions are complete, one after the other. -/
theorem Complete.of_episodes {id other : SessionId} {backend second : BackendId}
    {calls later : List Call} (one : Episode id backend calls)
    (two : Episode other second later) (different : id ≠ other) : Complete (calls ++ later) where
  owned c member := by
    rcases List.mem_append.mp member with early | late
    · simp [one.session_eq c early]
    · simp [two.session_eq c late]
  episodes third := by
    rw [List.filter_append]
    -- A session other than these two has no call, and that is an episode as well.
    by_cases first : id = third
    · subst first
      rw [one.filter_self, two.filter_of_ne (Ne.symm different), List.append_nil]
      exact ⟨backend, one⟩
    · rw [one.filter_of_ne first, List.nil_append]
      by_cases last : other = third
      · subst last
        rw [two.filter_self]
        exact ⟨second, two⟩
      · rw [two.filter_of_ne last]
        exact ⟨second, .unstarted⟩

namespace Session

/-! ## Sessions with a cleanup -/

/-- What an open session is used for and the cleanup behind it: queries and one shutdown. -/
theorem calls_used {h : Session σ} {body : Run (Sessions σ) α} {s : Sessions σ}
    (through : body.Follows (Moves.through [h])) (isOpen : s.phase h.id = .opened) :
    ∃ queries answered,
      (Run.ensuring body h.finish s).calls = queries ++ [h.call .shutdown answered] ∧
        ∀ c ∈ queries, c.session = some h.id ∧ c.backend = h.backend.id ∧
          c.request.lifecycle = false := by
  have used := through s
  have stillOpen : (body s).state.phase h.id = .opened := by rw [used.phase, isOpen]
  rw [Run.calls_ensuring]
  cases h.finishing (body s).state with
  -- The body does not close the session, so there is a shutdown behind it.
  | ignored shut _ => exact absurd stillOpen shut
  | closed _ _ _ calls =>
      refine ⟨(body s).calls, _, by rw [calls], ?_⟩
      intro c member
      obtain ⟨request, answered, query, rfl⟩ := used.of_singleton c member
      exact ⟨rfl, rfl, query⟩

/-- Starting a session and, if that succeeds, using it with the cleanup behind it is an episode. -/
theorem episode_of_start {h : Session σ} {s : Sessions σ} {calls : List Call}
    (refused : ∀ fault, (h.start s).result = .error fault → calls = (h.start s).calls)
    (served : (h.start s).result = .ok () → ∃ body : Run (Sessions σ) α,
      body.Follows (Moves.through [h]) ∧
        calls = (h.start s).calls ++ (Run.ensuring body h.finish (h.start s).state).calls) :
    Episode h.id h.backend.id calls := by
  cases h.starting s with
  -- A start that is refused makes no call. One that fails makes the only call of its episode.
  | refused fault misuse result =>
      rw [refused fault (by rw [result]), result]
      exact .unstarted
  | declined reason _ _ _ result _ made =>
      rw [refused _ result, made]
      exact .failed
  | broken refusal _ _ _ _ result _ made =>
      rw [refused _ result, made]
      exact .failed
  | served fresh idle reply result state made =>
      obtain ⟨body, through, eq⟩ := served result
      have isOpen : (h.start s).state.phase h.id = .opened := by
        rw [state]
        exact Sessions.phase_setPhase_self ..
      obtain ⟨queries, answered, used, only⟩ := calls_used through isOpen
      rw [eq, made, used, ← List.append_assoc]
      exact .served only

/-- A run inside a session of its own makes one episode. -/
theorem episode_within (b : Backend σ) {body : Session σ → Run (Sessions σ) α}
    (through : ∀ h, (body h).Follows (Moves.through [h])) (s : Sessions σ) :
    Episode s.made b.id (within b body s).calls := by
  -- Entering a new session is starting it, which is what makes the episode.
  have entered := enter_upcoming b s
  refine episode_of_start (α := α) (h := upcoming b s) (s := s.withNew) ?_ ?_
  · intro fault failed
    rw [← entered] at failed ⊢
    rw [within_apply, Run.calls_bind_of_error _ failed]
  · intro started
    refine ⟨body (upcoming b s), through _, ?_⟩
    rw [← entered] at started ⊢
    rw [within_apply, Run.calls_bind_of_ok _ started]

end Session

/-! ## Commands -/

namespace Command

theorem follows_reporting {m : Moves σ} {body : Run σ ExitStatus} (one : body.Follows m) :
    (reporting body).Follows m := by
  unfold reporting
  refine one.attempt.bind fun result => ?_
  split
  · exact .pure _
  · exact (Run.Follows.note _).bind fun _ => (Run.Follows.print _).bind fun _ => .pure _
  · exact .fault _

/-- A command opens its session and closes it in one episode. -/
theorem episode_inSession (backend : Except Failure (Backend σ))
    {body : Session σ → Run (Sessions σ) ExitStatus}
    (through : ∀ h, (body h).Follows (Moves.through [h])) (s : Sessions σ) :
    ∃ id, Episode s.made id (inSession backend body s).calls := by
  cases backend with
  | error failure => exact ⟨0, .unstarted⟩
  | ok b =>
      refine ⟨b.id, Session.episode_of_start (α := ExitStatus) (h := Session.upcoming b s)
        (s := s.withNew) ?_ ?_⟩
      · intro fault failed
        unfold inSession
        dsimp only
        rw [Run.bind_of_silent _ (Session.make_apply b s),
          Run.calls_bind_of_ok _ (Run.result_attempt _ _), failed]
        -- Without a session there is no body, and what is printed about the fault calls nothing.
        refine (congrArg (_ ++ ·) ?_).trans (List.append_nil _)
        cases fault <;> rfl
      · intro started
        refine ⟨reporting (body (Session.upcoming b s)), follows_reporting (through _), ?_⟩
        unfold inSession
        dsimp only
        rw [Run.bind_of_silent _ (Session.make_apply b s),
          Run.calls_bind_of_ok _ (Run.result_attempt _ _), started]
        rfl

variable {m : Moves (Sessions σ)} {h : Session σ} (queries : h.Queries m)

include queries

theorem follows_printReports (machine : Machine) (format : Format) {sampler : Sampler σ}
    (samples : sampler.session.Queries m) (metric : Metric) (count : Int) (indices : Indices) :
    (printReports machine format h sampler metric count indices).Follows m := by
  have report := queries.report samples metric count
  cases format with
  | line =>
      refine Run.Follows.bind (Indices.follows_visit (fun index => ?_) indices) fun _ => .pure _
      exact (report index).bind fun _ => (Run.Follows.ofExcept _).bind fun _ => .print _
  | document =>
      refine Run.Follows.bind (Indices.follows_visit report indices) fun reports => ?_
      exact (Run.Follows.ofExcept _).bind fun _ => .print _

theorem follows_body (c : Command) (machine : Machine) (options : Options) (window : Window)
    (advance : Bool) : (c.body machine options window advance h).Follows m := by
  unfold body
  refine queries.countDevices.bind fun count => ?_
  split
  · exact (Run.Follows.print _).bind fun _ => .pure _
  · refine Run.Follows.bind ?_ fun indices => ?_
    · unfold chosen
      split
      · split
        · exact .fault _
        · split
          · exact .fault _
          · exact .pure _
      · split
        · exact .pure _
        · exact .fail _
    · split
      · refine Run.Follows.bind (Indices.follows_visit (fun index => ?_) indices) fun _ => .pure _
        exact (queries.resolveBelow count index).bind fun _ =>
          (Run.Follows.ofExcept _).bind fun _ => .print _
      · exact (follows_printReports queries machine _ queries _ count indices).bind fun _ => .pure _

end Command

theorem episode_collect (b : Backend σ) (metric : Metric) (index? : Option Int)
    (window? : Option Window) (advance : Bool) (s : Sessions σ) :
    Episode s.made b.id (collect b metric index? window? advance s).calls :=
  Session.episode_within b (fun h => Session.follows_collection
    (Session.queries_through (List.mem_singleton_self h)) metric index? _ advance) s

/-- The calls of a command are complete, however its arguments and settings turn out. -/
theorem Command.complete_run (c : Command) (machine : Machine) (args : List String)
    (env : Environment) (backend : Except Failure (Backend σ)) (s : Sessions σ) :
    Complete (c.run machine args env backend s).calls := by
  unfold run
  cases c.options args with
  | error stop =>
      cases stop with
      | help => exact .nil
      | refused error => exact .nil
  | ok options =>
      cases env.settings with
      | error error => exact .nil
      | ok settings =>
          -- Everything before the session is silent.
          refine Run.Follows.behind (.idle (fun _ => rfl) fun _ => rfl) Complete.nil fun _ => ?_
          refine Run.Follows.behind (.ofExcept _) Complete.nil fun window => ?_
          refine Run.Follows.behind ?_ Complete.nil fun _ => ?_
          · unfold warn
            split
            · exact .note _
            · exact .pure _
          · obtain ⟨id, episode⟩ := episode_inSession backend (fun h => follows_body
              (Session.queries_through (List.mem_singleton_self h)) c machine options window
              settings.advance) s
            exact .of_episode episode

/-! ## The survey -/

theorem Session.closing_queries (h : Session σ) : h.Queries .closing := by
  intro request query s
  have through := queries_through (List.mem_singleton_self h) request query s
  refine ⟨Nat.le_of_eq through.made.symm, fun id _ closed => ?_⟩
  rw [through.phase]
  exact closed

/-- A run in a session of its own leaves the number of the session behind. -/
theorem Session.made_lt_within (b : Backend σ) {body : Session σ → Run (Sessions σ) α}
    (closing : ∀ h, (body h).Follows .closing) (s : Sessions σ) :
    s.made < (within b body s).state.made := by
  have rest : Run.Follows .closing (do
      (upcoming b s).enter
      Run.ensuring (body (upcoming b s)) (upcoming b s).finish) := by
    exact (follows_enter (closing_start _)).bind fun _ => (closing _).ensuring (closing_finish _)
  rw [within_apply]
  exact Nat.lt_of_lt_of_le (Nat.lt_succ_self s.made) (rest s.withNew).1

namespace Survey

theorem follows_printDevice {m : Moves (Sessions σ)} {sampler : Sampler σ}
    (queries : sampler.session.Queries m) (device : Device) :
    (printDevice sampler device).Follows m := by
  refine (Sampler.follows_average queries device .utilization window).bind fun utilization => ?_
  refine (Sampler.follows_frequency queries device).bind fun clock => ?_
  exact (Run.Follows.ofExcept _).bind fun _ => .print _

/-- The survey makes one episode and then another, or stops before the second. -/
theorem complete_run (create : BackendId → Except Failure (Backend σ)) (s : Sessions σ) :
    Complete (run create s).calls := by
  unfold run
  refine Run.Follows.behind (.ofExcept _) Complete.nil fun first => ?_
  have one := episode_collect first .power none none true s
  rcases result : (collect first .power none none true s).result with f | reports
  · rw [Run.calls_bind_of_error _ result]
    exact .of_episode one
  · rw [Run.calls_bind_of_ok _ result]
    have later : s.made < (collect first .power none none true s).state.made :=
      Session.made_lt_within first
        (fun h => Session.follows_collection h.closing_queries .power none _ true) s
    generalize (collect first .power none none true s).state = t at later ⊢
    -- Whatever comes second, what the collection called is an episode before it.
    let P : List Call → Prop := fun calls =>
      Complete ((collect first .power none none true s).calls ++ calls)
    have alone : P [] := by
      show Complete (_ ++ [])
      rw [List.append_nil]
      exact .of_episode one
    refine Run.Follows.behind (P := P) (.each fun report _ => ?_) alone fun _ => ?_
    · exact (Run.Follows.ofExcept _).bind fun _ => .print _
    refine Run.Follows.behind (P := P) (.ofExcept _) alone fun second => ?_
    refine Complete.of_episodes one (Session.episode_within second (fun h => ?_) t)
      (Nat.ne_of_lt later)
    have queries := Session.queries_through (List.mem_singleton_self h)
    refine queries.resolveAll.bind fun devices => ?_
    exact (Run.Follows.each fun device _ => follows_printDevice queries device).bind
      fun _ => .pure _

end Survey

/-- Whatever a backend answers and however a run ends, in a collection, in each of the commands and
in the survey every call belongs to a session, and every session makes an episode: nothing after a
start that failed, and one shutdown as the last call after a start that succeeded. -/
theorem complete_episodes (σ : Type) :
    (∀ (b : Backend σ) (metric : Metric) (index? : Option Int) (window? : Option Window)
      (advance : Bool) (s : Sessions σ),
      Complete (collect b metric index? window? advance s).calls) ∧
    (∀ (c : Command) (machine : Command.Machine) (args : List String) (env : Environment)
      (backend : Except Failure (Backend σ)) (s : Sessions σ),
      Complete (c.run machine args env backend s).calls) ∧
    ∀ (create : BackendId → Except Failure (Backend σ)) (s : Sessions σ),
      Complete (Survey.run create s).calls :=
  ⟨fun b metric index? window? advance s =>
      .of_episode (episode_collect b metric index? window? advance s),
    Command.complete_run, Survey.complete_run⟩

end GpuTelemetry
