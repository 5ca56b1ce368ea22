import Mathlib.Control.Monad.Basic
import GpuTelemetry.Proofs.Command.Printing
import GpuTelemetry.Proofs.Numeral
import GpuTelemetry.Proofs.Results
import GpuTelemetry.Proofs.Session.Lookup
import GpuTelemetry.Simulated

/-!
# Commands agree with collections

A command that prints lines and a collection with the same metric, indices, window and cursor, from
the same state: they make the same calls and the same pauses, and what the command printed and its
exit status follow from the result of the collection (`Command.Renders`).

There are two exceptions, neither of which is a failure. Options can leave a command without a
window, and it does nothing. A report can hold an integer that is too long to be written, and the
command stops there, while the collection goes on (`Command.Halts`).

Main statement: `Command.command_renders_collection`.
-/

namespace GpuTelemetry

variable {σ α β : Type}

/-- A run with a fixed result behind it ends in that one, if it ends well. -/
theorem Run.eq_of_ended {first : Run σ α} {b c : β} {s : σ}
    (ended : ((first >>= fun _ => pure b) s).result = .ok c) : c = b := by
  rcases result : (first s).result with f | a
  · rw [bind_of_error _ result] at ended
    cases ended
  · rw [bind_of_ok _ result] at ended
    cases ended
    rfl

namespace Command

open Session (launched landed upcoming Stranded)

/-- What a command that prints lines makes of the outcome of a collection. `broken` says which
reports there were before a fault. -/
structure Renders (broken : List Report → Fault → Prop)
    (collected : Outcome (Sessions σ) (List Report)) (out : Outcome (Sessions σ) ExitStatus) :
    Prop where
  /-- The same calls with the same arguments, and the same pauses, in the same order. -/
  acts : out.acts = collected.acts
  state : out.state = collected.state
  /-- Every report is printed as a line, and the command succeeds. -/
  reports : ∀ reports, collected.result = .ok reports →
    out.result.map ExitStatus.code = .ok 0 ∧
      Console.output out.events = Console.lines (reports.map Report.line)
  unavailable : ∀ f, collected.result = .error (.failed f) → f.kind = .unavailable →
    out.result.map ExitStatus.code = .ok 1 ∧
      Console.output out.events = Console.lines ["Error: Failed to " ++ f.message]
  /-- The reports before the failure are printed, then the failure. -/
  failed : ∀ f, collected.result = .error (.failed f) → f.kind ≠ .unavailable →
    out.result.map ExitStatus.code = .ok 255 ∧
      ∃ before, broken before (.failed f) ∧ Console.output out.events =
        Console.lines (before.map Report.line ++ ["Error: Failed to " ++ f.message])
  /-- Whatever else ends the collection ends the command too. -/
  fault : ∀ f, collected.result = .error f → (∀ g, f ≠ .failed g) → out.result = .error f

variable {b : Backend σ} {s : Sessions σ} {broken : List Report → Fault → Prop}
  {gather : Session σ → Run (Sessions σ) (List Report)}
  {told : Session σ → Run (Sessions σ) ExitStatus}

/-- Notes and complaints make no difference. -/
theorem Renders.of_alike {collected : Outcome (Sessions σ) (List Report)}
    {out other : Outcome (Sessions σ) ExitStatus} (alike : out.Alike other)
    (renders : Renders broken collected other) : Renders broken collected out := by
  have shown : Console.output out.events = Console.output other.events := by
    rw [Console.output_events, Console.output_events, alike.printed]
  refine ⟨alike.acts.trans renders.acts, alike.state.trans renders.state, ?_, ?_, ?_, ?_⟩
  · rw [alike.result, shown]
    exact renders.reports
  · rw [alike.result, shown]
    exact renders.unavailable
  · rw [alike.result, shown]
    exact renders.failed
  · rw [alike.result]
    exact renders.fault

/-- A command whose session could not be opened. -/
theorem renders_of_unopened {f : Fault} (refused : (launched b s).result = .error f) :
    Renders broken (Session.within b gather s) (inSession (.ok b) told s) := by
  rw [Session.within_of_error gather refused]
  by_cases failed : ∃ g, f = .failed g
  · obtain ⟨g, rfl⟩ := failed
    -- A start that fails leaves the backend unavailable, which is the failure with the last line.
    have kind := Session.kind_of_launched refused
    have silent : (launched b s).printed = [] := (Session.wordless_start _).printed _
    rw [inSession_of_failed told refused]
    refine ⟨?_, rfl, (fun _ same => by cases same), ?_, ?_, ?_⟩
    · simp [Outcome.acts, Event.isAct]
    · intro g' same _
      cases same
      refine ⟨rfl, ?_⟩
      rw [Console.output_events]
      refine congrArg Console.lines ?_
      refine (List.filterMap_append ..).trans ?_
      exact congrArg (· ++ _) silent
    · intro g' same available
      cases same
      exact absurd kind available
    · intro f' same other
      cases same
      exact absurd rfl (other g)
  · -- Any other fault passes through both and prints nothing.
    have other : ∀ g, f ≠ .failed g := fun g same => failed ⟨g, same⟩
    rw [inSession_of_fault told refused other]
    refine ⟨rfl, rfl, (fun _ same => by cases same), ?_, ?_, ?_⟩
    · intro g same
      cases same
      exact absurd rfl (other g)
    · intro g same
      cases same
      exact absurd rfl (other g)
    · intro f' same _
      cases same
      rfl

/-- A command whose session is finished in order: its body's result is settled, and its last words
are printed behind all others. -/
theorem renders_of_settled {gathered collected : Outcome (Sessions σ) (List Report)}
    {spoken out : Outcome (Sessions σ) ExitStatus}
    (tells : Outcome.Tells Report.line broken gathered spoken)
    (succeeds : ∀ status, spoken.result = .ok status → status = .success)
    (available : ∀ f, gathered.result = .error (.failed f) → f.kind ≠ .unavailable)
    (acts : out.acts = collected.acts) (state : out.state = collected.state)
    (result : collected.result = gathered.result) (ended : out.result = settled spoken.result)
    (printed : out.printed = spoken.printed ++ lastWords spoken.result) :
    Renders broken collected out := by
  have shown := (Console.output_events out).trans (congrArg Console.lines printed)
  rw [← result] at available
  refine ⟨acts, state, ?_, ?_, ?_, ?_⟩
  · intro reports given
    -- All reports were given, so no last words are behind their lines.
    obtain ⟨lines, status, well⟩ := tells.whole reports (result ▸ given)
    rw [ended, shown, well, lines, succeeds status well]
    exact ⟨rfl, congrArg Console.lines (List.append_nil _)⟩
  · intro f failed unavailable
    exact absurd unavailable (available f failed)
  · intro f failed _
    -- The failure is told behind the lines of the reports taken before it.
    obtain ⟨stopped, before, broke, lines⟩ := tells.part _ (result ▸ failed)
    rw [ended, shown, stopped, lines]
    exact ⟨rfl, before, broke, rfl⟩
  · intro f broke other
    obtain ⟨stopped, _⟩ := tells.part f (result ▸ broke)
    rw [ended, stopped]
    cases f with
    | failed g => exact absurd rfl (other g)
    | _ => rfl

/-- A command renders a gathering if its body tells what the gathering gives. -/
theorem renders_of_tells {Q : List Report → Prop}
    (telling : (launched b s).result = .ok () →
      Outcome.Tells Report.line broken (gather (upcoming b s) (launched b s).state)
        (told (upcoming b s) (launched b s).state))
    (succeeds : ∀ status, (told (upcoming b s) (launched b s).state).result = .ok status →
      status = .success)
    (available : (gather (upcoming b s)).Obeys .quiet Q) :
    Renders broken (Session.within b gather s) (inSession (.ok b) told s) := by
  rcases opened : (launched b s).result with f | ⟨⟨⟩⟩
  · exact renders_of_unopened opened
  · have tells := telling opened
    have collected := Session.goes_within gather opened
    have command := ends_inSession told opened
    have sameActs : (inSession (.ok b) told s).acts = (Session.within b gather s).acts := by
      rw [command.acts, collected.acts, tells.acts, tells.state]
    have sameState : (inSession (.ok b) told s).state = (Session.within b gather s).state := by
      rw [command.state, collected.state, tells.state]
    have gathered := collected.result
    have ended := command.result
    rw [tells.state] at ended
    rcases landing : (landed b s (gather (upcoming b s) (launched b s).state).state).result
      with f | ⟨⟨⟩⟩
    · -- A session that cannot be finished ends both in the same bare refusal.
      obtain ⟨refusal, rfl⟩ := Session.refused_of_landed landing
      rw [landing] at ended gathered
      refine ⟨sameActs, sameState, ?_, ?_, ?_, ?_⟩
      all_goals intro x same
      all_goals rw [gathered] at same
      all_goals cases same
      exact fun _ => ended
    · rw [landing] at ended gathered
      have faults := (available (launched b s).state trivial).faults
      exact renders_of_settled tells succeeds (fun f failed => faults _ failed f rfl) sameActs
        sameState gathered ended command.printed

/-! ## Reports that cannot be written -/

/-- What a command that prints lines does with a report that cannot be written, while another run
goes on with acts of its own: it has printed the lines of the reports before, and until then has
done the same; then it finishes its session and ends in that fault. -/
structure Halts (b : Backend σ) (s : Sessions σ) (before : List Report) (r : Report)
    (acts : List Event) (out : Outcome (Sessions σ) ExitStatus) : Prop where
  lines : Console.output out.events = Console.lines (before.map Report.line)
  ended : ∃ n t early late, Numeral.overlong? [r.index, r.value] = some n ∧
    acts = early ++ late ∧ out.acts = early ++ (landed b s t).acts ∧
    out.state = (landed b s t).state ∧
    out.result = (landed b s t).result.bind fun _ => .error (.outOfField (.inText n))

/-- Notes and complaints make no difference. -/
theorem Halts.of_alike {before : List Report} {r : Report} {acts : List Event}
    {out other : Outcome (Sessions σ) ExitStatus} (alike : out.Alike other)
    (halts : Halts b s before r acts other) : Halts b s before r acts out := by
  obtain ⟨lines, ended⟩ := halts
  rw [← alike.acts, ← alike.state, ← alike.result] at ended
  refine ⟨?_, ended⟩
  rw [Console.output_events, alike.printed, ← Console.output_events]
  exact lines

/-- A command that halts ends in no status. -/
theorem Halts.result_ne {before : List Report} {r : Report} {acts : List Event}
    {out : Outcome (Sessions σ) ExitStatus} (halts : Halts b s before r acts out)
    (status : ExitStatus) : out.result ≠ .ok status := by
  obtain ⟨_, n, t, _, _, _, _, _, _, result⟩ := halts
  rw [result]
  rcases (landed b s t).result with f | u <;> nofun

/-- A command whose body prints what is gathered halts at the first report taken that cannot be
written. -/
theorem halts_of_taken {metric : Metric} {window : Window} {advance : Bool}
    {pick : Int → Run (Sessions σ) Indices} {before behind : List Report} {r : Report}
    (opened : (launched b s).result = .ok ())
    (spoken : told (upcoming b s) (launched b s).state =
      (printGathered (upcoming b s) window advance metric pick >>= fun _ => pure .success)
        (launched b s).state)
    (quiet : ∀ count, (pick count).Obeys .quiet fun _ => True)
    (split : (upcoming b s).taken window advance metric pick (launched b s).state =
      before ++ r :: behind)
    (well : ∀ other ∈ before, other.Short) (long : ¬ r.Short) (rest : List Event) :
    Halts b s before r ((launched b s).acts ++
      ((upcoming b s).gather window advance metric pick (launched b s).state).acts ++ rest)
      (inSession (.ok b) told s) := by
  -- A report is too long to be written only because of one of its integers.
  obtain ⟨n, overlong, fails⟩ := Report.overlong_of_not_short long
  obtain ⟨stopped, lines, late, same⟩ :=
    (stops_gather quiet split well fails).ending fun _ => pure ExitStatus.success
  obtain ⟨acts, state, printed, result⟩ := ends_inSession told opened
  rw [spoken] at acts state printed result
  rw [stopped] at printed result
  refine ⟨?_, n, _, _, late ++ rest, overlong, ?_, acts, state, result⟩
  · rw [Console.output_events, printed, lines]
    exact congrArg Console.lines (List.append_nil _)
  · rw [same]
    simp only [List.append_assoc]

/-! ## Bodies -/

variable {c : Command} {m : Machine} {options : Options} {h : Session σ} {metric : Metric}
  {window : Window} {advance : Bool}

/-- The body of a command with a metric and at most one index. -/
theorem body_of_metric (measured : c.metric? = some metric)
    (few : ¬ 1 < options.indices.length) :
    c.body m options window advance h = (do
      let count ← h.countDevices
      let indices ← chosen count options.indices
      printReports m options.format h ⟨h, window, advance⟩ metric count indices) >>= fun _ =>
        pure .success := by
  unfold body
  simp only [measured, if_neg few, bind_assoc]

/-- The body of a command that prints lines. -/
theorem body_of_lines (measured : c.metric? = some metric)
    (few : ¬ 1 < options.indices.length) (lines : options.format = .line) :
    c.body m options window advance h =
      printGathered h window advance metric (fun count => chosen count options.indices) >>= fun _ =>
        pure .success := by
  rw [body_of_metric measured few, lines]
  rfl

/-- The texts of indices denote an index: there is one text, and it reads as the index. Without an
index there is none. -/
def Denote (texts : List String) : Option Int → Prop
  | none => texts = []
  | some index => ∃ text, texts = [text] ∧ Numeral.read text = some index

theorem Denote.few {texts : List String} {index? : Option Int} (denote : Denote texts index?) :
    ¬ 1 < texts.length := by
  cases index? with
  | none => simp [show texts = [] from denote]
  | some index =>
      obtain ⟨text, rfl, _⟩ := denote
      simp

/-- With a number of devices that has room in a list, the chosen indices are those of a
collection. -/
theorem chosen_of_denote {texts : List String} {index? : Option Int} (denote : Denote texts index?)
    {count : Int} (room : count < listLimit) :
    (chosen count texts : Run σ Indices) = pure (.orBelow (index?.map ([·])) count) := by
  cases index? with
  | none =>
      have few : ¬ countLimit ≤ count := by
        unfold listLimit countLimit at *
        omega
      rw [show texts = [] from denote]
      unfold chosen
      rw [if_neg few, if_neg (by omega)]
      rfl
  | some index =>
      obtain ⟨text, rfl, read⟩ := denote
      simp [chosen, read, Indices.orBelow]

/-- Indices are chosen or not whatever the state is. That they are not is no failure of a backend
that is unavailable. -/
theorem chosen_cases (count : Int) (texts : List String) :
    (∃ indices, ∀ {τ : Type}, (chosen count texts : Run τ Indices) = pure indices) ∨
      ∃ f, (∀ g, f = .failed g → g.kind ≠ .unavailable) ∧
        ∀ {τ : Type}, (chosen count texts : Run τ Indices) = Run.fault f := by
  cases texts with
  | nil =>
      unfold chosen
      by_cases uncountable : countLimit ≤ count
      · simp only [if_pos uncountable]
        exact .inr ⟨.tooManyDevices, nofun, rfl⟩
      · simp only [if_neg uncountable]
        by_cases tooLong : listLimit ≤ count
        · simp only [if_pos tooLong]
          exact .inr ⟨.outOfMemory, nofun, rfl⟩
        · -- Neither limit is reached, so the numbers below the count can be listed.
          simp only [if_neg tooLong]
          exact .inl ⟨_, rfl⟩
  | cons text rest =>
      simp only [chosen]
      cases Numeral.read text with
      | some index => exact .inl ⟨_, rfl⟩
      | none =>
          refine .inr ⟨.failed (.notAnIndex text), fun g same => ?_, rfl⟩
          cases same
          exact nofun

/-! ## Counting -/

/-- A number of devices comes from the backend. -/
theorem answer_of_countDevices {t : Sessions σ} {count : Int}
    (counted : (h.countDevices t).result = .ok count) :
    (h.backend.answer .deviceCount t.backends).result = .ok count := by
  by_cases isOpen : t.phase h.id = .opened
  · rw [(Session.countDevices_of_opened isOpen).1] at counted
    exact ok_of_mapError counted
  · rw [Session.countDevices_of_not_opened isOpen] at counted
    cases counted

/-- What is picked matters only for the number of devices. -/
theorem printGathered_congr {t : Sessions σ} {pick other : Int → Run (Sessions σ) Indices}
    (same : ∀ count, (h.countDevices t).result = .ok count → pick count = other count) :
    printGathered h window advance metric pick t = printGathered h window advance metric other t :=
  Run.bind_congr_behind fun count counted => by rw [same count counted]

/-- Any command with a metric that prints lines, with accepted arguments, no index or one, and valid
settings, on any backend in any state that has less devices than fit a list. If its options leave
it no window, it does nothing at all. Otherwise it renders the collection of the metric, for all
devices or for the one index, over that window and with the cursor of the settings, as long as all
reports that this takes can be written; it halts at the first that cannot. -/
theorem command_renders_collection {args : List String} {env : Environment}
    {settings : Settings Bool} {index? : Option Int} (measured : c.metric? = some metric)
    (accepted : c.options args = .ok options) (lines : options.format = .line)
    (denote : Denote options.indices index?) (valid : env.settings = .ok settings)
    (countable : ∀ count, (b.answer .deviceCount (b.answer .start s.backends).state).result =
      .ok count → count < listLimit) :
    (∀ error, c.window options settings = .error error →
      (c.run m args env (.ok b) s).Alike ⟨.error (.badWindow error), s, []⟩) ∧
    ∀ window, c.window options settings = .ok window →
      let pick : Int → Run (Sessions σ) Indices :=
        fun count => pure (.orBelow (index?.map ([·])) count)
      let taken := (upcoming b s).taken window settings.advance metric pick (launched b s).state
      let collected := collect b metric index? (some window) settings.advance s
      let out := c.run m args env (.ok b) s
      (∀ reports, collected.result = .ok reports → taken = reports) ∧
      ((∀ r ∈ taken, r.Short) →
        Renders ((upcoming b s).Stranded window settings.advance metric pick (launched b s).state)
          collected out) ∧
      ∀ before r behind, taken = before ++ r :: behind → (∀ other ∈ before, other.Short) →
        ¬ r.Short → Halts b s before r collected.acts out := by
  refine ⟨fun error without => run_of_badWindow accepted valid without s, ?_⟩
  intro window effective pick taken collected out
  have alike : out.Alike _ := run_of_accepted accepted valid effective s
  have within : collected = Session.within b
      (fun h => h.gather window settings.advance metric pick) s :=
    congrFun (Session.collect_eq_within ..) s
  -- The number of devices leaves room for their indices, so both visit the same ones.
  have body : (launched b s).result = .ok () →
      c.body m options window settings.advance (upcoming b s) (launched b s).state =
        (printGathered (upcoming b s) window settings.advance metric pick >>= fun _ =>
          pure .success) (launched b s).state := by
    intro opened
    rw [body_of_lines measured denote.few lines]
    refine Run.bind_congr _ (printGathered_congr fun count counted => ?_)
    have answered := answer_of_countDevices counted
    rw [(Session.opened_of_launched opened).2] at answered
    exact chosen_of_denote denote (countable count answered)
  refine ⟨fun reports given => ?_, fun short => ?_, fun before r behind split well long => ?_⟩
  · rw [within] at given
    exact Session.taken_of_gathered (Session.result_inside given).2
  · refine .of_alike alike ?_
    rw [within]
    refine renders_of_tells (fun opened => ?_) (fun status ended => ?_)
      (Session.quiet_gather fun count => .pure trivial)
    · rw [body opened]
      exact (tells_gather (fun count => .pure trivial) short).ending ExitStatus.success
    · rw [body_of_metric measured denote.few] at ended
      exact Run.eq_of_ended ended
  · refine .of_alike alike ?_
    rcases opened : (launched b s).result with f | ⟨⟨⟩⟩
    · -- Without an open session no report is taken.
      have nothing := Session.taken_of_unopened opened window settings.advance metric pick
      exact absurd (nothing.symm.trans split) (by simp)
    · rw [within, (Session.goes_within _ opened).acts]
      exact halts_of_taken opened (body opened) (fun count => .pure trivial) split well long _

/-- Two samples without a pause from each of two simulated devices, of which the second has no
name; and the power of one device, a digit too long to be written. -/
theorem two_samples_render_collection :
    let s : Sessions Simulated :=
      { backends := { devices := [⟨"A", 0, 0, [(.utilization, [40, 61])]⟩, ⟨"", 0, 0, []⟩] } }
    let n : Int := Nat.pow 10 Numeral.digitLimit
    let t : Sessions Simulated := { backends := { devices := [⟨"A", n, 0, []⟩] } }
    let b := Simulated.backend 0
    let options : Options := { samples := .value ⟨2, by decide⟩, delay := .value 0 }
    let settings : Settings Bool := ⟨⟨1, 1, by decide⟩, true, .warning⟩
    let window : Window := ⟨2, 0, by decide⟩
    let pick : Int → Run (Sessions Simulated) Indices :=
      fun count => pure (.orBelow (Option.map ([·]) none) count)
    let out := Command.utilization.run ⟨"host", 0⟩ ["-n", "2", "-d0"] {} (.ok b) s
    Command.utilization.metric? = some .utilization ∧
      Command.utilization.options ["-n", "2", "-d0"] = .ok options ∧ options.format = .line ∧
      Denote options.indices none ∧ ({} : Environment).settings = .ok settings ∧
      (b.answer .deviceCount (b.answer .start s.backends).state).result = .ok 2 ∧
      Command.utilization.window options settings = .ok window ∧
      (upcoming b s).taken window true .utilization pick (launched b s).state =
        [⟨0, "A", "gpu_util", 50⟩] ∧
      Renders ((upcoming b s).Stranded window true .utilization pick (launched b s).state)
        (collect b .utilization none (some window) true s) out ∧
      out.printed = ["0-A-gpu_util-50",
        "Error: Failed to get name of device 1: backend returned an empty name"] ∧
      (collect b .power none (some settings.window) true t).result =
        .ok [⟨0, "A", "gpu_power", n⟩] ∧
      Halts b t [] ⟨0, "A", "gpu_power", n⟩
        (collect b .power none (some settings.window) true t).acts
        (Command.power.run ⟨"host", 0⟩ [] {} (.ok b) t) := by
  intro s n t b options settings window pick out
  have accepted : Command.utilization.options ["-n", "2", "-d0"] = .ok options := rfl
  have valid : ({} : Environment).settings = .ok settings := rfl
  have counted : (b.answer .deviceCount (b.answer .start s.backends).state).result = .ok 2 := rfl
  have countable : ∀ (s : Sessions Simulated) (few : Int), few < listLimit →
      (b.answer .deviceCount (b.answer .start s.backends).state).result = .ok few →
      ∀ count, (b.answer .deviceCount (b.answer .start s.backends).state).result = .ok count →
        count < listLimit := by
    intro s few room counted count given
    cases counted.symm.trans given
    exact room
  have renders := command_renders_collection (c := .utilization) (m := ⟨"host", 0⟩) rfl accepted
    rfl (show Denote options.indices none from rfl) valid (countable s 2 (by decide) counted)
  -- The first device gives its report before the second one is found to have no name.
  have taken : (upcoming b s).taken window true .utilization pick (launched b s).state =
      [⟨0, "A", "gpu_util", 50⟩] := by decide +kernel
  have short : ∀ r ∈ (upcoming b s).taken window true .utilization pick (launched b s).state,
      r.Short := by
    rw [taken, List.forall_mem_singleton]
    exact ⟨by decide +kernel, by decide +kernel⟩
  have halts := command_renders_collection (c := .power) (m := ⟨"host", 0⟩) rfl
    (show Command.power.options [] = .ok {} from rfl) rfl (show Denote [] none from rfl) valid
    (countable t 1 (by decide) rfl)
  obtain ⟨takes, _, stops⟩ := halts.2 settings.window rfl
  have collected : (collect b .power none (some settings.window) true t).result =
      .ok [⟨0, "A", "gpu_power", n⟩] := by decide +kernel
  have long : ¬ Report.Short ⟨0, "A", "gpu_power", n⟩ := fun short =>
    Nat.not_lt.mpr short.value Numeral.digitLimit_lt_digitCount
  exact ⟨rfl, accepted, rfl, rfl, valid, counted, rfl, taken, (renders.2 window rfl).2.1 short,
    by decide +kernel, collected, stops [] _ [] (takes _ collected) nofun long⟩

/-- A `--` in the place of a number of samples is accepted, in a valid environment. A collection
over any window, from the same state without devices, gives no reports and ends well, but the
command ends in a fault and makes no calls. -/
theorem blank_samples_render_nothing :
    let s : Sessions Simulated := { backends := {} }
    let b := Simulated.backend 0
    let out := Command.utilization.run ⟨"host", 0⟩ ["-n--"] {} (.ok b) s
    Command.utilization.options ["-n--"] = .ok { samples := .blank } ∧
      ({} : Environment).settings = .ok ⟨⟨1, 1, by decide⟩, true, .warning⟩ ∧
      (∀ window advance, (collect b .utilization none (some window) advance s).result = .ok [] ∧
        (collect b .utilization none (some window) advance s).calls.map (·.request) =
          [.start, .deviceCount, .shutdown]) ∧
      out.result = .error (.badWindow (.notAnInteger .count (.list []))) ∧ out.calls = [] := by
  intro s b out
  have gives : ∀ window advance, (collect (Simulated.backend 0) .utilization none (some window)
      advance { backends := {} }).result = .ok [] := fun _ _ => rfl
  have asks : ∀ window advance, (collect (Simulated.backend 0) .utilization none (some window)
      advance { backends := {} }).calls.map (·.request) = [.start, .deviceCount, .shutdown] :=
    fun _ _ => rfl
  exact ⟨rfl, rfl, fun window advance => ⟨gives window advance, asks window advance⟩, rfl, rfl⟩

end Command

end GpuTelemetry
