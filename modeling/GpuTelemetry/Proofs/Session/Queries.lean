import GpuTelemetry.Feed
import GpuTelemetry.Proofs.Moves
import GpuTelemetry.Proofs.Session.Heads

/-!
# Queries

Counting, looking up, sampling and reporting are all made of queries of a session: requests other
than starting and shutting down, put through `Session.ask`. Whatever moves the queries of a session
make, all of these make (`Session.Queries`).

The moves that matter most are those *through* given sessions: whoever reaches a backend at all does
so with a query of one of the sessions, which is open at that moment, and no session is started,
closed or made.
-/

namespace GpuTelemetry

variable {σ α : Type} {m : Moves (Sessions σ)}

/-- A way of moving that allows every query of a session. -/
def Session.Queries (m : Moves (Sessions σ)) (h : Session σ) : Prop :=
  ∀ request : Request, request.lifecycle = false → (h.ask request).Follows m

open Run (Follows)

/-! ## Looking up devices -/

namespace Session.Queries

variable {h : Session σ} (queries : h.Queries m)

theorem requireOpen (h : Session σ) : h.requireOpen.Follows m := by
  refine Follows.bind (.idle (fun _ => rfl) (fun _ => rfl)) fun phase => ?_
  cases phase with
  | opened => exact .pure ()
  | fresh => exact .fault _
  | closed => exact .fault _

theorem vendor (h : Session σ) : h.vendor.Follows m :=
  (requireOpen h).bind fun _ => .pure _

include queries

theorem countDevices : h.countDevices.Follows m := by
  unfold Session.countDevices
  refine ((queries .deviceCount rfl).orFail _).bind fun count => ?_
  exact (Follows.note _).bind fun _ => .pure count

theorem countUnless (count? : Option Int) : (h.countUnless count?).Follows m := by
  cases count? with
  | some count => exact .pure count
  | none => exact queries.countDevices

theorem resolveBelow (count index : Int) : (h.resolveBelow count index).Follows m := by
  rw [resolveBelow_eq_asks]
  split
  · exact .fault _
  · refine ((queries (.handleAt index) rfl).orFail _).bind fun native => ?_
    refine ((queries (.nameOf native) rfl).orFail _).bind fun name => ?_
    unfold accept
    cases nameProblem? index name with
    | some problem => exact .fail problem
    | none => exact .pure _

theorem resolve (index : Int) (count? : Option Int) : (h.resolve index count?).Follows m :=
  (queries.countUnless count?).bind fun count => queries.resolveBelow count index

end Session.Queries

theorem Indices.follows_visitSuccessive {visit : Int → Run (Sessions σ) α}
    (one : ∀ index, (visit index).Follows m) (left : Nat) :
    ∀ next, (visitSuccessive visit next left).Follows m := by
  induction left with
  | zero =>
      intro next
      exact .pure []
  | succ left ih =>
      intro next
      exact (one next).bind fun _ => (ih (next + 1)).bind fun _ => .pure _

theorem Indices.follows_visit {visit : Int → Run (Sessions σ) α}
    (one : ∀ index, (visit index).Follows m) (indices : Indices) :
    (indices.visit visit).Follows m := by
  cases indices with
  | listed indices => exact .each fun index _ => one index
  | successive next left => exact follows_visitSuccessive one left next

theorem Session.Queries.resolveAll {h : Session σ} (queries : h.Queries m) :
    h.resolveAll.Follows m :=
  queries.countDevices.bind fun count => Indices.follows_visit (queries.resolveBelow count) _

/-! ## Sampling -/

namespace Sampler

variable {s : Sampler σ} (queries : s.session.Queries m)

include queries

theorem follows_power (device : Device) : (s.power device).Follows m :=
  (queries (.powerOf device.native) rfl).orFail _

theorem follows_frequency (device : Device) : (s.frequency device).Follows m :=
  (queries (.clockOf device.native) rfl).orFail _

theorem follows_latest (device : Device) (metric : Metric) (cursor : Int) :
    (latest s.session.ask device metric cursor).Follows m := by
  unfold latest
  refine ((queries (.samplesOf device.native metric cursor) rfl).orFail _).bind fun samples => ?_
  cases Sample.latest? samples with
  | some sample => exact .pure sample
  | none => exact .fail _

omit queries in
theorem follows_pauseBefore (window : Window) (left : Nat) :
    (pauseBefore window left : Run (Sessions σ) Unit).Follows m := by
  cases left with
  | zero => exact .pure ()
  | succ left => exact .idle (fun _ => rfl) (fun _ => rfl)

theorem follows_total (device : Device) (metric : Metric) (window : Window) (left : Nat) :
    ∀ cursor sum, (s.total s.session.ask device metric window left cursor sum).Follows m := by
  induction left with
  | zero =>
      intro cursor sum
      exact .pure sum
  | succ left ih =>
      intro cursor sum
      refine (follows_latest queries device metric cursor).bind fun sample => ?_
      refine (Follows.note _).bind fun _ => ?_
      exact (follows_pauseBefore window left).bind fun _ => ih _ _

theorem follows_average (device : Device) (metric : Metric) (window : Window) :
    (s.average device metric window).Follows m := by
  rw [average_eq_asks]
  split
  · exact (follows_total queries device metric window _ _ _).bind fun _ => .pure _
  · exact .fault _

theorem follows_averageOver (device : Device) (metric : Metric) (window? : Option Window) :
    (s.averageOver device metric window?).Follows m := by
  cases window? with
  | some window => exact follows_average queries device metric window
  | none =>
      unfold averageOver
      dsimp only
      split
      · exact (Session.Queries.requireOpen s.session).bind fun _ => .fault _
      · exact .fault _

theorem follows_sample (device : Device) (metric : Metric) (window? : Option Window) :
    (s.sample device metric window?).Follows m := by
  cases metric with
  | power => exact follows_power queries device
  | frequency => exact follows_frequency queries device
  | utilization => exact follows_average queries device _ _
  | memoryUtilization => exact follows_average queries device _ _
  | totalPower => exact follows_average queries device _ _

end Sampler

/-! ## Reporting -/

theorem Session.Queries.report {h : Session σ} (queries : h.Queries m) {sampler : Sampler σ}
    (samples : sampler.session.Queries m) (metric : Metric) (count index : Int) :
    (h.report sampler metric count index).Follows m := by
  refine (queries.resolveBelow count index).bind fun device => ?_
  exact (Sampler.follows_sample samples device metric none).bind fun _ => .pure _

namespace Feed

variable {f : Feed σ} (queries : f.session.Queries m) (samples : f.sampler.session.Queries m)

include queries samples

theorem follows_advance (count : Int) (left : Indices) : (f.advance count left).Follows m := by
  unfold advance
  cases left.next? with
  | none => exact .pure none
  | some pair =>
      exact (queries.report samples f.metric count pair.1).bind fun _ => .pure _

theorem follows_next : f.next.Follows m := by
  unfold next
  cases f.stage with
  | unstarted indices? count? =>
      exact (queries.countUnless count?).bind fun count => follows_advance queries samples count _
  | running count left => exact follows_advance queries samples count left
  | ended => exact .pure none

end Feed

/-- A collection samples its devices through its own session. -/
theorem Session.follows_collection {h : Session σ} (queries : h.Queries m)
    (metric : Metric) (index? : Option Int) (window : Window) (advance : Bool) :
    Run.Follows m (do
      let count ← h.countDevices
      (Indices.orBelow (index?.map ([·])) count).visit
        (h.report ⟨h, window, advance⟩ metric count)) := by
  have sampled : (Sampler.session ⟨h, window, advance⟩).Queries m := queries
  refine queries.countDevices.bind fun count => ?_
  exact Indices.follows_visit (Session.Queries.report queries sampled metric count) _

/-! ## Through given sessions -/

/-- What is reached through given sessions only: every call is a query of one of them that is open,
and no session is made or changed. -/
structure Through (hs : List (Session σ)) (s : Sessions σ) (calls : List Call) (t : Sessions σ) :
    Prop where
  phase : t.phase = s.phase
  busy : t.busy = s.busy
  made : t.made = s.made
  queries : ∀ c ∈ calls, ∃ h ∈ hs, s.phase h.id = .opened ∧ ∃ request answered,
    request.lifecycle = false ∧ c = h.call request answered

/-- The moves through given sessions. -/
def Moves.through (hs : List (Session σ)) : Moves (Sessions σ) where
  rel := Through hs
  stay s := ⟨rfl, rfl, rfl, fun c member => absurd member List.not_mem_nil⟩
  join := by
    intro s t u first second one two
    refine ⟨two.phase.trans one.phase, two.busy.trans one.busy, two.made.trans one.made, ?_⟩
    intro c member
    rcases List.mem_append.mp member with early | late
    · exact one.queries c early
    · obtain ⟨h, held, isOpen, query⟩ := two.queries c late
      exact ⟨h, held, one.phase ▸ isOpen, query⟩

/-- The queries of one of the sessions reach backends through them. -/
theorem Session.queries_through {h : Session σ} {hs : List (Session σ)} (held : h ∈ hs) :
    h.Queries (Moves.through hs) := by
  intro request query s
  by_cases isOpen : s.phase h.id = .opened
  · rw [ask_of_opened isOpen, calls_ask, Backend.state_ask]
    refine ⟨rfl, rfl, rfl, ?_⟩
    intro c member
    rw [List.mem_singleton.mp member]
    exact ⟨h, held, isOpen, request, _, query, rfl⟩
  · rw [ask_of_not_opened isOpen]
    exact (Moves.through hs).stay s

/-- All that is called through one session are queries of that session. -/
theorem Through.of_singleton {h : Session σ} {s t : Sessions σ} {calls : List Call}
    (through : Through [h] s calls t) :
    ∀ c ∈ calls, ∃ request answered, request.lifecycle = false ∧ c = h.call request answered := by
  intro c member
  obtain ⟨k, held, isOpen, query⟩ := through.queries c member
  rw [List.mem_singleton.mp held] at query
  exact query

end GpuTelemetry
