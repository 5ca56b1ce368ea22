import Mathlib.Control.Monad.Basic
import GpuTelemetry.Proofs.Collection.Backends
import GpuTelemetry.Proofs.Command.Agreement
import GpuTelemetry.Proofs.Shutdown.Workbench

/-!
# Declined shutdowns go unnoticed

Whatever is run on backends that may decline to shut down, and on their twins that never do, gives
the same results: a collection, a command, or steps on a workbench that ask no backend directly. The
sessions go through the same phases, the same calls are made, the same pauses are taken and the same
is printed; the runs differ in notes only (`Outcome.Forgiven`).

Main statement: `declined_shutdowns_unnoticed`.
-/

namespace GpuTelemetry

variable {σ τ α β : Type} {R : σ → τ → Prop}

open Run (Mirrors)

/-! ## Commands -/

namespace Command

variable {h : Session σ} {k : Session τ}

theorem mirrors_chosen {m : Mirror σ τ} (count : Int) (texts : List String) :
    Mirrors m Eq (chosen count texts) (chosen count texts) := by
  rcases chosen_cases count texts with ⟨indices, picks⟩ | ⟨f, _, fails⟩
  · rw [picks, picks]
    exact .pure rfl
  · rw [fails, fails]
    exact .fault f

theorem mirrors_written (written : Except Fault String) :
    Mirrors (Sessions.mirror R) Eq (do Run.print (← Run.ofExcept written))
      (do Run.print (← Run.ofExcept written)) :=
  (Mirrors.ofExcept (.refl (fun _ => rfl) _)).andThen fun _ => .same rfl

theorem mirrors_printReports (twin : h.Twin R k) (m : Machine) (format : Format) (window : Window)
    (advance : Bool) (metric : Metric) (count : Int) (indices : Indices) :
    Mirrors (Sessions.mirror R) Eq
      (printReports m format h ⟨h, window, advance⟩ metric count indices)
      (printReports m format k ⟨k, window, advance⟩ metric count indices) := by
  have step := twin.linked.inStep
  have report := step.report (s := ⟨h, window, advance⟩) (r := ⟨k, window, advance⟩)
    ⟨step, rfl, rfl⟩ metric count
  cases format with
  | line =>
      refine Mirrors.andThen (Indices.mirrors_visit (fun index => ?_) indices) fun _ => .pure rfl
      exact (report index).andThen fun _ => mirrors_written _
  | document =>
      refine (Indices.mirrors_visit report indices).andThen fun reports => ?_
      exact (Mirrors.ofExcept (.refl (fun _ => rfl) _)).andThen fun _ => .same rfl

theorem mirrors_body (twin : h.Twin R k) (c : Command) (m : Machine) (options : Options)
    (window : Window) (advance : Bool) :
    Mirrors (Sessions.mirror R) Eq (c.body m options window advance h)
      (c.body m options window advance k) := by
  have step := twin.linked.inStep
  refine step.countDevices.andThen fun count => ?_
  split
  · exact (Mirrors.same rfl).andThen fun _ => .pure rfl
  · refine (mirrors_chosen count _).andThen fun indices => ?_
    cases c.metric? with
    | none =>
        refine Mirrors.andThen (Indices.mirrors_visit (fun index => ?_) indices) fun _ => .pure rfl
        exact (step.resolveBelow count index).andThen fun _ => mirrors_written _
    | some metric =>
        exact (mirrors_printReports twin m _ window advance metric count indices).andThen
          fun _ => .pure rfl

theorem mirrors_reporting {run : Run (Sessions σ) ExitStatus} {other : Run (Sessions τ) ExitStatus}
    (one : Mirrors (Sessions.mirror R) Eq run other) :
    Mirrors (Sessions.mirror R) Eq (reporting run) (reporting other) := by
  refine one.caught.andThen fun result => ?_
  split
  · exact .pure rfl
  · exact (Mirrors.same rfl).andThen fun _ => (Mirrors.same rfl).andThen fun _ => .pure rfl
  · exact .fault _

theorem mirrors_inSession {backend : Except Failure (Backend σ)}
    {other : Except Failure (Backend τ)} (twins : Matched (Backend.Twin R) backend other)
    {body : Session σ → Run (Sessions σ) ExitStatus}
    {body' : Session τ → Run (Sessions τ) ExitStatus}
    (bodies : ∀ h k, Session.Twin R h k → Mirrors (Sessions.mirror R) Eq (body h) (body' k)) :
    Mirrors (Sessions.mirror R) Eq (inSession backend body) (inSession other body') := by
  cases twins with
  | error failure => exact (Mirrors.same rfl).andThen fun _ => .pure rfl
  | ok twin =>
      refine (Session.mirrors_make twin).bind fun h k same => ?_
      -- Both starts end alike, so there is a body in both runs or in neither.
      refine same.linked.matching.start.caught.andThen fun result => ?_
      split
      · exact (mirrors_reporting (bodies h k same)).ensuring same.finish
      · exact (Mirrors.same rfl).andThen fun _ => .pure rfl
      · exact .fault _

/-- A command with a backend mirrors the same one with the twin. -/
theorem mirrors_run {backend : Except Failure (Backend σ)} {other : Except Failure (Backend τ)}
    (twins : Matched (Backend.Twin R) backend other) (c : Command) (m : Machine)
    (args : List String) (env : Environment) :
    Mirrors (Sessions.mirror R) Eq (c.run m args env backend) (c.run m args env other) := by
  have refuse : ∀ error, Mirrors (Sessions.mirror R) Eq (c.refuse error) (c.refuse error) :=
    fun error => (Mirrors.same rfl).andThen fun _ => .pure rfl
  unfold run
  cases c.options args with
  | error stop =>
      cases stop with
      | help => exact (Mirrors.same rfl).andThen fun _ => .pure rfl
      | refused error => exact refuse error
  | ok options =>
      cases env.settings with
      | error error => exact refuse (.settings error)
      | ok settings =>
          refine (Mirrors.same rfl).andThen fun _ => ?_
          refine (Mirrors.ofExcept (.refl (fun _ => rfl) _)).andThen fun window => ?_
          -- The warning depends on the window and the cursor, which are the same for both.
          have warned : Mirrors (Sessions.mirror R) Eq (c.warn window settings.advance)
              (c.warn window settings.advance) := by
            unfold warn
            by_cases warning : c.windowed ∧ 1 < window.count ∧ window.delay = 0 ∧ settings.advance
            · rw [if_pos warning, if_pos warning]
              exact .same rfl
            · rw [if_neg warning, if_neg warning]
              exact .pure rfl
          exact warned.andThen fun _ => mirrors_inSession twins fun h k same =>
            mirrors_body same c m options window settings.advance

end Command

/-! ## Twins of any backend -/

namespace Backend

/-- A backend that always shuts down, and is the same otherwise. -/
def steadfast (b : Backend σ) : Backend σ where
  id := b.id
  vendor := b.vendor
  answer
    | .shutdown, x => ⟨.ok (), (b.answer .shutdown x).state, (b.answer .shutdown x).notes⟩
    | request, x => b.answer request x

/-- A backend that declines to shut down in words, if at all, is the twin of one that never does. -/
theorem twin_steadfast {b : Backend σ}
    (declines : ∀ x refusal, (b.answer .shutdown x).result = .error refusal →
      ∃ reason, refusal = .declined reason) : b.Twin Eq b.steadfast where
  id := rfl
  vendor := rfl
  result request other x y same := by
    cases same
    cases request with
    | shutdown => exact absurd rfl other
    | _ => rfl
  farewell x y _ := by
    refine ⟨rfl, ?_⟩
    rcases reply : (b.answer .shutdown x).result with refusal | ⟨⟨⟩⟩
    · -- The steadfast one shuts down where this one declines in words.
      obtain ⟨reason, rfl⟩ := declines x refusal reply
      exact .inr ⟨reason, rfl⟩
    · exact .inl rfl
  notes request x y same := by
    cases same
    cases request <;> rfl
  state request x y same := by
    cases same
    cases request <;> rfl

/-- What becomes of a shutdown: it is declined in some words, or it succeeds. -/
def verdict : Option String → Except Refusal Unit
  | some reason => .error (.declined reason)
  | none => .ok ()

/-- A backend of which some shutdowns are declined: `declines n` is the wording for the one behind
`n` others, or nothing if it succeeds. Backends over one state are counted together. -/
def faltering (declines : Nat → Option String) (b : Backend σ) : Backend (σ × Nat) where
  id := b.id
  vendor := b.vendor
  answer
    | .shutdown, (x, n) =>
      let reply := b.answer .shutdown x
      ⟨verdict (declines n), (reply.state, n + 1), reply.notes⟩
    | request, (x, n) =>
      let reply := b.answer request x
      ⟨reply.result, (reply.state, n), reply.notes⟩

theorem twin_faltering (declines : Nat → Option String) (b : Backend σ) :
    (b.faltering declines).Twin Eq (b.faltering declines).steadfast := by
  refine twin_steadfast fun x refusal refused => ?_
  change verdict (declines x.2) = .error refusal at refused
  cases known : declines x.2 with
  | some reason =>
      rw [known] at refused
      exact ⟨reason, (Except.error.inj refused).symm⟩
  | none =>
      rw [known] at refused
      cases refused

end Backend

/-! ## Main statement -/

/-- An outcome of a run in which shutdowns may have been declined, beside the outcome of the same
run in which none was. -/
structure Outcome.Forgiven (related : σ → τ → Prop) (o : Outcome σ α) (p : Outcome τ α) : Prop where
  result : o.result = p.result
  state : related o.state p.state
  /-- The same requests of the same backends by the same sessions, in the same order. -/
  calls : o.events.filterMap (·.sent?) = p.events.filterMap (·.sent?)
  pauses : o.events.filterMap (·.pause?) = p.events.filterMap (·.pause?)
  output : Console.output o.events = Console.output p.events
  /-- No shutdown was declined in the second run, and each one in the first left a warning. -/
  none_denied : ∀ e ∈ p.events, e.deniesShutdown = false
  warnings : o.events.countP (·.warns) =
    p.events.countP (·.warns) + o.events.countP (·.deniesShutdown)
  /-- The warning stands in the place of the note that the session was closed, and all other events
  are the same. -/
  events : Forgives o.events p.events

theorem Outcome.Mirrored.forgiven {related : σ → τ → Prop} {o : Outcome σ α} {p : Outcome τ α}
    (mirrored : Outcome.Mirrored (.forgiving related) Eq o p) : o.Forgiven related p where
  result := mirrored.result.eq
  state := mirrored.state
  calls := mirrored.events.filterMap_eq (fun _ _ => rfl) fun _ => rfl
  pauses := mirrored.events.filterMap_eq (fun _ _ => rfl) fun _ => rfl
  output := by
    rw [Console.output_events, Console.output_events]
    exact congrArg Console.lines (mirrored.events.filterMap_eq (fun _ _ => rfl) fun _ => rfl)
  none_denied := mirrored.events.none_denied
  warnings := mirrored.events.warnings
  events := mirrored.events

/-- A collection, a command and any steps that ask no backend directly, on backends that may decline
to shut down and on their twins that do not: the result, the phases of all sessions, the backends in
use, the calls, the pauses and the output are the same, and each declined shutdown has left a
warning in the place of the note that the session was closed. Such twins are a backend that declines
to shut down in words and the same one that always shuts down, whichever shutdowns are declined. -/
theorem declined_shutdowns_unnoticed (R : σ → τ → Prop) :
    (∀ (b : Backend σ) (c : Backend τ) (s : Sessions σ) (t : Sessions τ), b.Twin R c →
      Sessions.Twin R s t → ∀ metric index? window? advance,
        (collect b metric index? window? advance s).Forgiven (Sessions.Twin R)
          (collect c metric index? window? advance t)) ∧
    (∀ (b : Except Failure (Backend σ)) (c : Except Failure (Backend τ)) (s : Sessions σ)
      (t : Sessions τ), Matched (Backend.Twin R) b c → Sessions.Twin R s t →
      ∀ (command : Command) m args env,
        (command.run m args env b s).Forgiven (Sessions.Twin R) (command.run m args env c t)) ∧
    (∀ (w : Workbench σ) (v : Workbench τ), w.Twin R v →
      ∀ steps : List Workbench.Step, (∀ step ∈ steps, step.direct = false) →
        (Workbench.perform steps w).Forgiven (Workbench.Twin R) (Workbench.perform steps v)) ∧
    (∀ b : Backend σ, (∀ x refusal, (b.answer .shutdown x).result = .error refusal →
      ∃ reason, refusal = .declined reason) → b.Twin Eq b.steadfast) ∧
    ∀ (b : Backend σ) (declines : Nat → Option String),
      (b.faltering declines).Twin Eq (b.faltering declines).steadfast := by
  refine ⟨?_, ?_, ?_, fun b => Backend.twin_steadfast, fun b declines =>
    Backend.twin_faltering declines b⟩
  · intro b c s t twin start metric index? window? advance
    exact (mirrors_collect twin metric index? window? advance s t start).forgiven
  · intro b c s t twins start command m args env
    exact (Command.mirrors_run twins command m args env s t start).forgiven
  · intro w v twin steps indirect
    exact (Workbench.mirrors_perform steps indirect w v twin).forgiven

/-- A simulated backend that always declines to shut down: a second session on it is opened all the
same, and a collection from it ends with a warning. -/
theorem lost_backend_unnoticed :
    let b := Simulated.backend 0
    let s : Sessions Simulated :=
      { backends := { devices := [⟨"A", 250, 0, []⟩],
                      failures := [(.shutdown, ⟨"GPU is lost", none⟩)] } }
    let w : Workbench Simulated := { sessions := s, backends := [("gpus", b)] }
    let v : Workbench Simulated := { sessions := s, backends := [("gpus", b.steadfast)] }
    let steps : List Workbench.Step :=
      [.make "first" "gpus", .start "first", .finish "first", .make "second" "gpus",
        .start "second", .count "second"]
    b.Twin Eq b.steadfast ∧ Sessions.Twin Eq s s ∧ w.Twin Eq v ∧
      (∀ step ∈ steps, step.direct = false) ∧
      (collect b .power none none true s).Forgiven (Sessions.Twin Eq)
        (collect b.steadfast .power none none true s) ∧
      (Command.power.run ⟨"host", 0⟩ [] {} (.ok b) s).Forgiven (Sessions.Twin Eq)
        (Command.power.run ⟨"host", 0⟩ [] {} (.ok b.steadfast) s) ∧
      (Workbench.perform steps w).Forgiven (Workbench.Twin Eq) (Workbench.perform steps v) ∧
      (Workbench.perform steps w).result = .ok [.ok .nothing, .ok (.truth true), .ok .nothing,
        .ok .nothing, .ok (.truth true), .ok (.number 1)] ∧
      (collect b .power none none true s).events.getLast? =
        some (.note (.shutdownFailed "Mock" "GPU is lost")) ∧
      (collect b.steadfast .power none none true s).events.getLast? =
        some (.note (.closed "Mock")) := by
  intro b s w v steps
  obtain ⟨collects, commands, performs, steadfast, _⟩ :=
    declined_shutdowns_unnoticed (Eq : Simulated → Simulated → Prop)
  have twin : b.Twin Eq b.steadfast :=
    steadfast b fun _ _ => Simulated.declined_of_issued (by rintro _ ⟨⟩)
  have start : Sessions.Twin Eq s s := ⟨rfl, rfl, rfl, rfl⟩
  have bench : w.Twin Eq v :=
    ⟨start, Register.Related.nil.assign "gpus" twin, .nil, .nil, rfl, .nil⟩
  have indirect : ∀ step ∈ steps, step.direct = false := by decide
  exact ⟨twin, start, bench, indirect, collects b b.steadfast s s twin start .power none none true,
    commands (.ok b) (.ok b.steadfast) s s (.ok twin) start .power ⟨"host", 0⟩ [] {},
    performs w v bench steps indirect, by decide +kernel, by decide +kernel, by decide +kernel⟩

end GpuTelemetry
