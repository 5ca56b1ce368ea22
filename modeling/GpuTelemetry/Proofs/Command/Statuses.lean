import Mathlib.Control.Monad.Basic
import GpuTelemetry.Proofs.Collection.Backends
import GpuTelemetry.Proofs.Command.ReadBack

/-!
# Exit statuses

Which of several things that are wrong decides how a command ends. Arguments come first, then the
environment: either is refused before there is a backend (`Unusable`). After that come the session,
the count of the devices and the number of indices, in this order (`Crowded`).

Main statement: `early_ends`.
-/

namespace GpuTelemetry

variable {σ : Type}

/-! ## Courteous backends -/

/-- A backend that turns down a start, a count or a shutdown in words. -/
structure Backend.Courteous (b : Backend σ) : Prop where
  declines : ∀ request ∈ [Request.start, .deviceCount, .shutdown], ∀ x refusal,
    (b.answer request x).result = .error refusal → ∃ reason, refusal = .declined reason

theorem Simulated.courteous_backend (id : BackendId) : (Simulated.backend id).Courteous where
  declines request listed s refusal refused := by
    have impersonal : request.device? = none := by
      simp only [List.mem_cons, List.not_mem_nil, or_false] at listed
      rcases listed with rfl | rfl | rfl <;> rfl
    exact (civil_backend id s.devices.length).declines_impersonal impersonal rfl refused

theorem Nvml.courteous_backend (id : BackendId) : (Nvml.backend id).Courteous where
  declines request listed d refusal refused := by
    simp only [List.mem_cons, List.not_mem_nil, or_false] at listed
    rcases listed with rfl | rfl | rfl <;> exact declined_of_mapError refused

namespace Command

open Session (launched landed upcoming)

variable {c : Command} {m : Machine} {options : Options} {window : Window} {advance : Bool}
  {b : Backend σ} {s : Sessions σ}

/-! ## Usage -/

/-- Arguments or an environment that a command refuses. -/
inductive Unusable (c : Command) (args : List String) (env : Environment) : Prop
  | arguments (error : UsageError) (refused : c.options args = .error (.refused error))
  | environment (options : Options) (error : Settings.Error)
      (accepted : c.options args = .ok options) (invalid : env.settings = .error error)

/-- A command that refuses its arguments or its environment complains, and does nothing else. -/
theorem run_of_unusable {args : List String} {env : Environment} (unusable : c.Unusable args env) :
    ∃ error, ∀ backend : Except Failure (Backend σ), c.run m args env backend = c.refuse error := by
  cases unusable with
  | arguments error refused =>
      refine ⟨error, fun backend => ?_⟩
      unfold run
      rw [refused]
  | environment options error accepted invalid =>
      refine ⟨.settings error, fun backend => ?_⟩
      unfold run
      rw [accepted, invalid]

/-- A body that ends in a status ends in success. -/
theorem success_of_body {h : Session σ} {t : Sessions σ} {status : ExitStatus}
    (ended : (c.body m options window advance h t).result = .ok status) : status = .success := by
  obtain ⟨count, _, ended⟩ := Run.results_of_bind ended
  split at ended
  · exact Run.eq_of_ended ended
  · obtain ⟨indices, _, ended⟩ := Run.results_of_bind ended
    cases measured : c.metric? with
    | none =>
        rw [measured] at ended
        exact Run.eq_of_ended ended
    | some metric =>
        rw [measured] at ended
        exact Run.eq_of_ended ended

/-- A command never blames its arguments for what happens in its session. -/
theorem ne_usage_of_inSession (backend : Except Failure (Backend σ)) :
    (inSession backend (c.body m options window advance) s).result ≠ .ok .usage := by
  intro blamed
  cases backend with
  | error failure => cases blamed
  | ok b =>
      rcases status_of_inSession blamed with unavailable | ⟨_, settles, _⟩
      · cases unavailable
      · rcases ended : (c.body m options window advance (upcoming b s)
            (launched b s).state).result with f | status
        · rw [ended] at settles
          cases f <;> cases settles
        · rw [ended] at settles
          cases settles
          cases success_of_body ended

/-- The status for a wrong usage is that of a command that refuses its arguments or environment. -/
theorem usage_iff {args : List String} {env : Environment}
    {backend : Except Failure (Backend σ)} :
    (c.run m args env backend s).result.map ExitStatus.code = .ok 2 ↔ c.Unusable args env := by
  constructor
  · intro ended
    have blamed : (c.run m args env backend s).result = .ok .usage := result_of_code ended
    cases parsed : c.options args with
    | error stop =>
        cases stop with
        | help =>
            unfold run at blamed
            rw [parsed] at blamed
            cases blamed
        | refused error => exact .arguments error parsed
    | ok options =>
        cases valid : env.settings with
        | error error => exact .environment options error parsed valid
        | ok settings =>
            -- From here on a command ends in a fault or as its session does.
            exfalso
            cases effective : c.window options settings with
            | error error =>
                rw [(run_of_badWindow parsed valid effective s).result] at blamed
                cases blamed
            | ok window =>
                rw [(run_of_accepted parsed valid effective s).result] at blamed
                exact ne_usage_of_inSession backend blamed
  · intro unusable
    obtain ⟨error, refuses⟩ := run_of_unusable unusable
    rw [refuses]
    rfl

/-! ## More than one index -/

/-- How a command ends that is given more than one index: by what its backend answers to a start
and to a count. -/
inductive Crowded (b : Backend σ) (s : Sessions σ) (out : Outcome (Sessions σ) ExitStatus) : Prop
  | unavailable (reason : String)
      (declined : (b.answer .start s.backends).result = .error (.declined reason))
      (asked : out.calls.map (·.request) = [.start])
      (status : out.result.map ExitStatus.code = .ok 1)
  | uncounted (reason : String) (started : (b.answer .start s.backends).result = .ok ())
      (declined : (b.answer .deviceCount (b.answer .start s.backends).state).result =
        .error (.declined reason))
      (asked : out.calls.map (·.request) = [.start, .deviceCount, .shutdown])
      (status : out.result.map ExitStatus.code = .ok 255)
  | counted (count : Int) (started : (b.answer .start s.backends).result = .ok ())
      (counted : (b.answer .deviceCount (b.answer .start s.backends).state).result = .ok count)
      (asked : out.calls.map (·.request) = [.start, .deviceCount, .shutdown])
      (printed : Console.output out.events = "Error: only zero or one argument supported\n")
      (status : out.result.map ExitStatus.code = .ok 0)

theorem Crowded.of_alike {out out' : Outcome (Sessions σ) ExitStatus} (alike : out.Alike out')
    (crowded : Crowded b s out') : Crowded b s out := by
  have calls : out.calls = out'.calls := by
    rw [out.calls_of_acts, out'.calls_of_acts, alike.acts]
  cases crowded with
  | unavailable reason declined asked status =>
      exact .unavailable reason declined (calls ▸ asked) (alike.result ▸ status)
  | uncounted reason started declined asked status =>
      exact .uncounted reason started declined (calls ▸ asked) (alike.result ▸ status)
  | counted count started counted asked printed status =>
      refine .counted count started counted (calls ▸ asked) ?_ (alike.result ▸ status)
      rw [Console.output_events, alike.printed, ← Console.output_events]
      exact printed

theorem body_of_crowded (many : 1 < options.indices.length) (h : Session σ) :
    c.body m options window advance h = h.countDevices >>= fun _ => do
      Run.print "Error: only zero or one argument supported"
      return .success := by
  unfold body
  simp only [if_pos many]

/-- What a command with more than one index does in an open session: it counts the devices, and if
this succeeds, it prints one line. -/
structure Counts (h : Session σ) (t : Sessions σ) (told : Outcome (Sessions σ) ExitStatus) :
    Prop where
  state : told.state = h.backend.asked .deviceCount t
  calls : told.calls.map (·.request) = [.deviceCount]
  declined : ∀ reason,
    (h.backend.answer .deviceCount t.backends).result = .error (.declined reason) →
      told.result = .error (.failed (.countFailed reason))
  counted : ∀ count, (h.backend.answer .deviceCount t.backends).result = .ok count →
    told.result = .ok .success ∧
      told.printed = ["Error: only zero or one argument supported"]

theorem counts_of_crowded {h : Session σ} {t : Sessions σ} (many : 1 < options.indices.length)
    (isOpen : t.phase h.id = .opened) : Counts h t (c.body m options window advance h t) := by
  rw [body_of_crowded many]
  obtain ⟨result, state, calls⟩ := Session.countDevices_of_opened isOpen
  have silent : (h.countDevices t).printed = [] := h.quiet_countDevices.printed t
  rcases reply : (h.backend.answer .deviceCount t.backends).result with refusal | n
  · have failed : (h.countDevices t).result = .error (refusal.named .countFailed) := by
      rw [result, reply]
      rfl
    refine ⟨?_, ?_, fun reason declined => ?_, fun count counted => ?_⟩
    · rw [Run.bind_of_error _ failed]
      exact state
    · rw [Run.calls_bind_of_error _ failed, calls]
      rfl
    · cases reply.symm.trans declined
      rw [Run.bind_of_error _ failed]
      rfl
    · cases reply.symm.trans counted
  · have counts : (h.countDevices t).result = .ok n := by
      rw [result, reply]
      rfl
    refine ⟨?_, ?_, fun reason declined => ?_, fun count counted => ?_⟩
    · rw [Run.bind_of_ok _ counts]
      exact state
    · rw [Run.calls_bind_of_ok _ counts, calls]
      rfl
    · cases reply.symm.trans declined
    · refine ⟨by rw [Run.bind_of_ok _ counts]; rfl, ?_⟩
      -- The complaint about the arguments comes behind the count and is the only output.
      rw [Run.printed_bind_of_ok _ counts, silent]
      rfl

theorem Ends.calls {told out : Outcome (Sessions σ) ExitStatus} (ends : Ends b s told out) :
    out.calls = (launched b s).calls ++ told.calls ++ (landed b s told.state).calls := by
  rw [out.calls_of_acts, ends.acts, callsOf_append, callsOf_append, ← Outcome.calls_of_acts,
    ← Outcome.calls_of_acts, ← Outcome.calls_of_acts]

/-- An open session is shut down when it is left. -/
theorem requests_of_landed {t : Sessions σ} (isOpen : t.phase s.made = .opened) :
    (landed b s t).calls.map (·.request) = [.shutdown] := by
  show ((upcoming b s).finish t).calls.map (·.request) = [.shutdown]
  cases (upcoming b s).finishing t with
  | ignored shut result => exact absurd isOpen shut
  | closed isOpen result state calls => rw [calls]; rfl

/-- A command with more than one index counts the devices of the session that it has opened, tells
that there are too many indices, and closes the session. -/
theorem crowded_of_opened (courteous : b.Courteous) (many : 1 < options.indices.length)
    (started : (b.answer .start s.backends).result = .ok ())
    (opened : (launched b s).result = .ok ())
    (launching : (launched b s).calls.map (·.request) = [.start]) :
    Crowded b s (inSession (.ok b) (c.body m options window advance) s) := by
  have declines := courteous.declines
  have ends := ends_inSession (c.body m options window advance) opened
  obtain ⟨isOpen, backends⟩ := Session.opened_of_launched opened
  have counts : Counts (upcoming b s) (launched b s).state
      (c.body m options window advance (upcoming b s) (launched b s).state) :=
    counts_of_crowded many isOpen
  have stillOpen : ((upcoming b s).backend.asked .deviceCount (launched b s).state).phase s.made =
      .opened := isOpen
  have asked : (inSession (.ok b) (c.body m options window advance) s).calls.map (·.request) =
      [.start, .deviceCount, .shutdown] := by
    rw [ends.calls, counts.state, List.map_append, List.map_append, launching, counts.calls,
      requests_of_landed stillOpen]
    rfl
  -- A shutdown that fails in words is only noted, so the body alone settles the status.
  have result := ends.result
  rw [Session.landed_of_declines fun x refusal => declines .shutdown (by simp) x refusal] at result
  rcases given : (b.answer .deviceCount (launched b s).state.backends).result with refusal | count
  · obtain ⟨reason, rfl⟩ := declines .deviceCount (by simp) _ refusal given
    refine .uncounted reason started (backends ▸ given) asked ?_
    rw [result, counts.declined reason given]
    rfl
  · obtain ⟨succeeded, printed⟩ := counts.counted count given
    refine .counted count started (backends ▸ given) asked ?_ ?_
    · rw [Console.output_events, ends.printed, printed, succeeded]
      rfl
    · rw [result, succeeded]
      rfl

/-- With more than one index, a command ends by what its backend answers to a start and a count. -/
theorem crowded_of_inSession (courteous : b.Courteous) (idle : s.busy b.id = false)
    (many : 1 < options.indices.length) :
    Crowded b s (inSession (.ok b) (c.body m options window advance) s) := by
  cases (upcoming b s).starting s.withNew with
  | refused fault misuse result =>
      exact absurd misuse (Session.admissible_upcoming idle)
  | declined reason fresh idle reply result state calls =>
      have failed : (launched b s).result = .error (.failed (.startFailed b.vendor reason)) :=
        result
      have launching : callsOf (launched b s).events = [(upcoming b s).call .start false] := calls
      rw [inSession_of_failed _ failed]
      refine .unavailable reason reply ?_ rfl
      show (callsOf ((launched b s).events ++ _)).map (·.request) = [.start]
      rw [callsOf_append, launching]
      rfl
  | broken refusal fresh idle other reply result state calls =>
      obtain ⟨reason, declined⟩ := courteous.declines .start (by simp) s.backends refusal reply
      exact absurd declined (other reason)
  | served fresh idle reply result state calls =>
      have launching : (launched b s).calls = [(upcoming b s).call .start true] := calls
      refine crowded_of_opened courteous many reply result ?_
      rw [launching]
      rfl

/-! ## What decides how a command ends -/

/-- A command that averages, with an option for its window that is given and yet left blank. -/
def LeftBlank (c : Command) (options : Options) : Prop :=
  c.windowed = true ∧ (options.samples = .blank ∨ options.delay = .blank)

theorem window_of_leftBlank (blank : c.LeftBlank options) (settings : Settings Bool) :
    ∃ error, c.window options settings = .error error := by
  obtain ⟨windowed, samples | delay⟩ := blank
  · refine ⟨.notAnInteger .count (.list []), ?_⟩
    unfold window Options.window
    rw [if_pos windowed, samples]
    rfl
  · unfold window Options.window
    rw [if_pos windowed, delay]
    cases options.samples.orDefault .count ⟨settings.window.count, settings.window.count_pos⟩ with
    | error error => exact ⟨error, rfl⟩
    | ok count => exact ⟨.notAnInteger .delay (.list []), rfl⟩

theorem window_of_not_leftBlank (filled : ¬ c.LeftBlank options) (settings : Settings Bool) :
    ∃ window, c.window options settings = .ok window := by
  unfold window
  by_cases windowed : c.windowed = true
  · rw [if_pos windowed]
    unfold Options.window
    cases samples : options.samples with
    | blank => exact absurd ⟨windowed, .inl samples⟩ filled
    | absent | value count =>
        cases delay : options.delay with
        | blank => exact absurd ⟨windowed, .inr delay⟩ filled
        | absent | value delay => exact ⟨_, rfl⟩
  · rw [if_neg windowed]
    exact ⟨_, rfl⟩

/-- The status for a wrong usage is that of a command whose arguments or environment are refused,
and such a command does nothing and prints nothing, whatever backend there is. If it accepts more
than one index, in a valid environment, it ends by what its backend answers to a start and to a
count, or at once if there is none; the only way out is an option for its window that is left blank,
which is a fault of the command before it turns to the backend. -/
theorem early_ends (c : Command) (m : Machine) (args : List String) (env : Environment)
    (s : Sessions σ) :
    (∀ backend : Except Failure (Backend σ),
      (c.run m args env backend s).result.map ExitStatus.code = .ok 2 ↔ c.Unusable args env) ∧
    (c.Unusable args env → ∃ out : Outcome (Sessions σ) ExitStatus,
      out.acts = [] ∧ out.printed = [] ∧ out.state = s ∧
      ∀ backend, c.run m args env backend s = out) ∧
    ∀ options settings, c.options args = .ok options → env.settings = .ok settings →
      1 < options.indices.length →
      (c.LeftBlank options → ∃ error, ∀ backend : Except Failure (Backend σ),
        (c.run m args env backend s).Alike ⟨.error (.badWindow error), s, []⟩) ∧
      (¬ c.LeftBlank options →
        (∀ missing, (c.run m args env (.error missing) s).acts = [] ∧
          (c.run m args env (.error missing) s).result.map ExitStatus.code = .ok 1) ∧
        ∀ b : Backend σ, b.Courteous → s.busy b.id = false →
          Crowded b s (c.run m args env (.ok b) s)) := by
  refine ⟨fun backend => usage_iff, fun unusable => ?_,
    fun options settings accepted valid many => ⟨fun blank => ?_, fun filled => ?_⟩⟩
  · obtain ⟨error, refuses⟩ := run_of_unusable unusable
    exact ⟨c.refuse error s, rfl, rfl, rfl, fun backend => congrFun (refuses backend) s⟩
  · obtain ⟨error, without⟩ := window_of_leftBlank blank settings
    exact ⟨error, fun backend => run_of_badWindow accepted valid without s⟩
  · obtain ⟨window, effective⟩ := window_of_not_leftBlank filled settings
    refine ⟨fun missing => ?_, fun b courteous idle => ?_⟩
    · -- Without a backend the session is over before it has been made.
      have alike : (c.run m args env (.error missing) s).Alike
          (inSession (.error missing) (c.body m options window settings.advance) s) :=
        run_of_accepted accepted valid effective s
      exact ⟨alike.acts, by rw [alike.result]; rfl⟩
    · exact .of_alike (run_of_accepted accepted valid effective s)
        (crowded_of_inSession courteous idle many)

/-- A listing is refused for a setting that it has no use for, although it is also given too many
indices. With a valid environment it counts the devices, and in that simulated devices fail. -/
theorem crowded_listings_end_early :
    let s : Sessions Simulated :=
      { backends := { failures := [(.deviceCount, ⟨"Gone", none⟩)] } }
    let args := ["0", "first"]
    let broken : Environment := { count? := some "0" }
    let refused := Command.listing.run ⟨"host", 0⟩ args broken (.ok (Simulated.backend 0)) s
    let counting := Command.listing.run ⟨"host", 0⟩ args {} (.ok (Simulated.backend 0)) s
    Command.listing.options args = .ok { indices := ["0", "first"] } ∧
      broken.settings = .error (.window (.notPositive 0)) ∧ s.busy 0 = false ∧
      refused.result.map ExitStatus.code = .ok 2 ∧ refused.acts = [] ∧ refused.printed = [] ∧
      counting.calls.map (·.request) = [.start, .deviceCount, .shutdown] ∧
      counting.result.map ExitStatus.code = .ok 255 := by
  intro s args broken refused counting
  let options : Options := { indices := ["0", "first"] }
  have accepted : Command.listing.options args = .ok options := rfl
  have invalid : broken.settings = .error (.window (.notPositive 0)) := rfl
  have unusable : Command.listing.Unusable args broken := .environment options _ accepted invalid
  obtain ⟨usage, quiet, _⟩ := early_ends .listing ⟨"host", 0⟩ args broken s
  obtain ⟨out, acts, printed, _, same⟩ := quiet unusable
  refine ⟨accepted, invalid, rfl, (usage _).mpr unusable, ?_, ?_, ?_⟩
  · rw [← acts, ← same (.ok (Simulated.backend 0))]
  · rw [← printed, ← same (.ok (Simulated.backend 0))]
  · obtain ⟨_, _, accepting⟩ := early_ends .listing ⟨"host", 0⟩ args {} s
    have crowded := (accepting options ⟨⟨1, 1, by decide⟩, true, .warning⟩ accepted rfl
      (by decide)).2 (fun blank => Bool.false_ne_true blank.1)
    cases crowded.2 (Simulated.backend 0) (Simulated.courteous_backend 0) rfl with
    | unavailable reason declined => cases declined
    | uncounted reason started declined asked status => exact ⟨asked, status⟩
    | counted count started counted => cases counted

/-- A `--` in the place of a number of samples is accepted, and ends a command with two indices in a
fault before it says that they are too many. -/
theorem blank_samples_break_out :
    let s : Sessions Simulated := { backends := { devices := [⟨"A", 0, 0, []⟩] } }
    let args := ["-n--", "0", "1"]
    let out := Command.utilization.run ⟨"host", 0⟩ args {} (.ok (Simulated.backend 0)) s
    Command.utilization.options args = .ok { samples := .blank, indices := ["0", "1"] } ∧
      ({} : Environment).settings = .ok ⟨⟨1, 1, by decide⟩, true, .warning⟩ ∧
      out.result = .error (.badWindow (.notAnInteger .count (.list []))) ∧
      out.calls = [] ∧ Console.output out.events = "" := by
  intro s args out
  exact ⟨rfl, rfl, rfl, rfl, rfl⟩

end Command

end GpuTelemetry
