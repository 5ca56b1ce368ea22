import GpuTelemetry.Nvml.Backend
import GpuTelemetry.Proofs.Command.Formats
import GpuTelemetry.Proofs.Report.Pieces

/-!
# Reading back what a command printed

A command that succeeds has printed the lines of the reports that a collection gathers, one for each
chosen device. Names and values are not checked for what a line can carry before they are printed,
so the output of a successful command may stand for other reports, or for none.

Main statement: `Command.lines_read_back_iff`, which says when it stands for the collected ones.
-/

namespace GpuTelemetry

variable {σ α β : Type}

/-! ## Results of runs -/

/-- Visits that give results give one for each item, in their order. -/
theorem Run.results_of_each {visit : α → Run σ β} {place : β → α} {Q : β → Prop}
    (gives : ∀ a s b, (visit a s).result = .ok b → place b = a ∧ Q b) {items : List α} {s : σ}
    {results : List β} (given : (each visit items s).result = .ok results) :
    results.map place = items ∧ ∀ b ∈ results, Q b := by
  induction items generalizing s results with
  | nil =>
      cases given
      exact ⟨rfl, nofun⟩
  | cons a rest ih =>
      obtain ⟨b, gave, others⟩ := results_of_bind given
      obtain ⟨bs, later, whole⟩ := results_of_bind others
      cases whole
      obtain ⟨place, property⟩ := gives a s b gave
      obtain ⟨places, properties⟩ := ih later
      refine ⟨?_, List.forall_mem_cons.mpr ⟨property, properties⟩⟩
      rw [List.map_cons, place, places]

namespace Session

variable {h : Session σ} {sampler : Sampler σ} {metric : Metric} {count index : Int}
  {t : Sessions σ}

/-- A report is that of the device at the index. -/
theorem report_of_visit {r : Report}
    (given : (h.report sampler metric count index t).result = .ok r) :
    0 ≤ index ∧ index < count ∧ r.index = index ∧ r.name ≠ "" ∧ r.label = metric.label := by
  obtain ⟨device, found, given⟩ := Run.results_of_bind given
  obtain ⟨value, _, given⟩ := Run.results_of_bind given
  cases given
  obtain ⟨low, high, place, named⟩ := device_of_resolveBelow found
  exact ⟨low, high, place, named, rfl⟩

variable {b : Backend σ} {s : Sessions σ} {body other : Session σ → Run (Sessions σ) α}

/-- Bodies that do the same in the open session do the same within a session of their own. -/
theorem within_alike (opened : (launched b s).result = .ok ())
    (same : body (upcoming b s) (launched b s).state = other (upcoming b s) (launched b s).state) :
    (within b body s).Alike (within b other s) := by
  have one := goes_within body opened
  have two := goes_within other opened
  rw [← same] at two
  exact ⟨one.acts.trans two.acts.symm, one.state.trans two.state.symm,
    one.printed.trans two.printed.symm, one.result.trans two.result.symm⟩

end Session

/-! ## Successful commands -/

namespace Command

open Session (launched upcoming)

variable {c : Command} {m : Machine} {options : Options} {metric : Metric} {window : Window}
  {advance : Bool} {b : Backend σ} {s : Sessions σ}

/-- Indices are chosen for no text or for one that denotes an index, and they are those of a
collection. If they are below the number of devices, numerals have room for them. -/
theorem denote_of_chosen {texts : List String} (few : ¬ 1 < texts.length) {count : Int}
    {indices : Indices} {t : σ} (given : (chosen count texts t).result = .ok indices) :
    ∃ index?, Denote texts index? ∧ indices = .orBelow (index?.map ([·])) count ∧
      (chosen count texts : Run σ Indices) = pure indices ∧
      ∀ index ∈ indices.toList, 0 ≤ index → index < count →
        Numeral.digitCount index ≤ Numeral.digitLimit := by
  cases texts with
  | nil =>
      unfold chosen at given ⊢
      by_cases uncountable : countLimit ≤ count
      · rw [if_pos uncountable] at given
        cases given
      · rw [if_neg uncountable] at given ⊢
        by_cases tooLong : listLimit ≤ count
        · rw [if_pos tooLong] at given
          cases given
        · rw [if_neg tooLong] at given ⊢
          cases given
          refine ⟨none, rfl, rfl, rfl, fun index _ low high => ?_⟩
          -- An index in a list is below the bound for lists, which is a short number.
          unfold listLimit at tooLong
          exact Numeral.digitCount_le_of_word (by omega)
  | cons text rest =>
      have alone : rest = [] := by simpa using few
      subst alone
      simp only [chosen] at given ⊢
      cases read : Numeral.read text with
      | none =>
          rw [read] at given
          cases given
      | some index =>
          rw [read] at given
          cases given
          refine ⟨some index, ⟨text, rfl, read⟩, rfl, rfl, fun other member _ _ => ?_⟩
          cases List.mem_singleton.mp member
          -- A numeral that is read is short itself.
          exact (Numeral.ofChars?_eq_some_iff.mp read).digitCount_le

/-- A gathering for chosen indices that gives reports is the one of a collection, and gives a report
for each of the selected indices. -/
theorem gather_of_chosen {h : Session σ} {t : Sessions σ} {texts : List String}
    (few : ¬ 1 < texts.length) {reports : List Report}
    (gathered : (h.gather window advance metric (fun count => chosen count texts) t).result =
      .ok reports) :
    ∃ index? count, Denote texts index? ∧
      (h.backend.answer .deviceCount t.backends).result = .ok count ∧
      h.gather window advance metric (fun count => chosen count texts) t =
        h.gather window advance metric
          (fun count => pure (.orBelow (index?.map ([·])) count)) t ∧
      reports.map (·.index) = selected index? count ∧ ∀ r ∈ reports, r.Sound := by
  obtain ⟨count, counted, given⟩ := Run.results_of_bind gathered
  obtain ⟨indices, picked, given⟩ := Run.results_of_bind given
  obtain ⟨index?, denote, collected, same, short⟩ := denote_of_chosen few picked
  rw [Indices.visit_eq_each] at given
  have property : ∀ index t r,
      (h.report ⟨h, window, advance⟩ metric count index t).result = .ok r →
      r.index = index ∧ (0 ≤ r.index ∧ r.index < count ∧ r.name ≠ "" ∧ r.label = metric.label) := by
    intro index t r gave
    obtain ⟨low, high, place, named, labelled⟩ := Session.report_of_visit gave
    exact ⟨place, place ▸ low, place ▸ high, named, labelled⟩
  obtain ⟨places, properties⟩ := Run.results_of_each property given
  refine ⟨index?, count, denote, answer_of_countDevices counted, ?_, ?_, ?_⟩
  · -- Which indices a collection visits depends on the count, and there is only one.
    refine Run.bind_congr_behind fun n also => ?_
    cases counted.symm.trans also
    exact Run.bind_congr _ (congrFun (same.trans (congrArg pure collected)) _)
  · rw [places, collected, Indices.toList_orBelow]
  · intro r member
    obtain ⟨low, high, named, labelled⟩ := properties r member
    have place : r.index ∈ indices.toList := places ▸ List.mem_map_of_mem member
    exact ⟨low, short r.index place low high, named, metric, labelled⟩

/-- Inside a session of its own such a gathering is the collection, for all devices or for the one
index that is denoted. -/
theorem collects_of_chosen {texts : List String} (few : ¬ 1 < texts.length) {reports : List Report}
    (gathered : (Session.within b (fun h => h.gather window advance metric fun count =>
      chosen count texts) s).result = .ok reports) :
    ∃ index? count, Denote texts index? ∧
      (b.answer .deviceCount (b.answer .start s.backends).state).result = .ok count ∧
      (Session.within b (fun h => h.gather window advance metric fun count =>
        chosen count texts) s).Alike (collect b metric index? (some window) advance s) ∧
      reports.map (·.index) = selected index? count ∧ ∀ r ∈ reports, r.Sound := by
  obtain ⟨opened, inside⟩ := Session.result_inside gathered
  obtain ⟨index?, count, denote, counted, same, places, sound⟩ := gather_of_chosen few inside
  rw [(Session.opened_of_launched opened).2] at counted
  refine ⟨index?, count, denote, counted, ?_, places, sound⟩
  rw [Session.collect_eq_within]
  exact Session.within_alike opened same

/-- A command that succeeds had a backend, valid settings and a window, and what it did is its
session. -/
theorem session_of_success {args : List String} {env : Environment}
    {backend : Except Failure (Backend σ)} (accepted : c.options args = .ok options)
    (succeeded : (c.run m args env backend s).result.map ExitStatus.code = .ok 0) :
    ∃ b settings window, backend = .ok b ∧ env.settings = .ok settings ∧
      c.window options settings = .ok window ∧
      (c.run m args env backend s).Alike
        (inSession (.ok b) (c.body m options window settings.advance) s) := by
  -- What is refused before the session ends in another status or in a fault.
  cases valid : env.settings with
  | error error =>
      unfold run at succeeded
      rw [accepted, valid] at succeeded
      cases succeeded
  | ok settings =>
      cases effective : c.window options settings with
      | error error =>
          rw [(run_of_badWindow accepted valid effective s).result] at succeeded
          cases succeeded
      | ok window =>
          have alike : (c.run m args env backend s).Alike
              (inSession backend (c.body m options window settings.advance) s) :=
            run_of_accepted accepted valid effective s
          cases backend with
          | error failure =>
              rw [alike.result] at succeeded
              cases succeeded
          | ok b => exact ⟨b, settings, window, rfl, rfl, effective, alike⟩

/-- A command that succeeds has printed the lines of what was collected. -/
theorem Renders.reports_of_success {broken : List Report → Fault → Prop}
    {collected : Outcome (Sessions σ) (List Report)} {out : Outcome (Sessions σ) ExitStatus}
    (renders : Renders broken collected out) (succeeded : out.result.map ExitStatus.code = .ok 0) :
    ∃ reports, collected.result = .ok reports ∧
      Console.output out.events = Console.lines (reports.map Report.line) := by
  rcases result : collected.result with f | reports
  · by_cases failed : ∃ g, f = .failed g
    · obtain ⟨g, rfl⟩ := failed
      by_cases kind : g.kind = .unavailable
      · cases succeeded.symm.trans (renders.unavailable g result kind).1
      · cases succeeded.symm.trans (renders.failed g result kind).1
    · have other : ∀ g, f ≠ .failed g := fun g same => failed ⟨g, same⟩
      rw [renders.fault f result other] at succeeded
      cases succeeded
  · exact ⟨reports, rfl, (renders.reports reports result).2⟩

/-- A command with lines that succeeds has written all reports that were taken. -/
theorem short_of_success (measured : c.metric? = some metric) (lines : options.format = .line)
    (few : ¬ 1 < options.indices.length)
    (succeeded : (inSession (.ok b) (c.body m options window advance) s).result.map
      ExitStatus.code = .ok 0) :
    ∀ r ∈ (upcoming b s).taken window advance metric
      (fun count => chosen count options.indices) (launched b s).state, r.Short := by
  rcases opened : (launched b s).result with f | ⟨⟨⟩⟩
  · rw [Session.taken_of_unopened opened]
    exact nofun
  -- A report too long to be written would have been the end of the command.
  rcases Report.short_cases _ with short | ⟨before, r, behind, split, well, long⟩
  · exact short
  · have spoken : c.body m options window advance (upcoming b s) (launched b s).state = _ :=
      congrFun (body_of_lines measured few lines) _
    have halts := halts_of_taken opened spoken (quiet_chosen options.indices) split well long []
    have ended : (inSession (.ok b) (c.body m options window advance) s).result = .ok .success :=
      result_of_code succeeded
    exact absurd ended (halts.result_ne _)

/-- A command with lines renders the gathering of its reports for the chosen indices, if all that
are taken can be written. -/
theorem renders_of_chosen {settings : Settings Bool} (measured : c.metric? = some metric)
    (lines : options.format = .line) (few : ¬ 1 < options.indices.length)
    (short : ∀ r ∈ (upcoming b s).taken window settings.advance metric
      (fun count => chosen count options.indices) (launched b s).state, r.Short) :
    Renders ((upcoming b s).Stranded window settings.advance metric
        (fun count => chosen count options.indices) (launched b s).state)
      (Session.within b (fun h => h.gather window settings.advance metric fun count =>
        chosen count options.indices) s)
      (inSession (.ok b) (c.body m options window settings.advance) s) := by
  have quiet := fun count => quiet_chosen (σ := σ) options.indices count
  refine renders_of_tells (fun opened => ?_) (fun status ended => ?_) (Session.quiet_gather quiet)
  · rw [body_of_lines measured few lines]
    exact (tells_gather quiet short).ending ExitStatus.success
  · rw [body_of_metric measured few] at ended
    exact Run.eq_of_ended ended

/-- A command with a metric, accepted arguments, no index or one, and lines for its output, that
succeeds: it has done what the collection of the metric does, for all devices or for the one index,
and the collection gives a report for each of them, in order. The pieces of its output stand for
these reports if and only if no value is negative or too long for a numeral and no name holds a line
feed. -/
theorem lines_read_back_iff {args : List String} {env : Environment}
    {backend : Except Failure (Backend σ)} (measured : c.metric? = some metric)
    (accepted : c.options args = .ok options) (lines : options.format = .line)
    (few : ¬ 1 < options.indices.length)
    (succeeded : (c.run m args env backend s).result.map ExitStatus.code = .ok 0) :
    ∃ b settings window index? count reports,
      backend = .ok b ∧ env.settings = .ok settings ∧ c.window options settings = .ok window ∧
      Denote options.indices index? ∧
      (b.answer .deviceCount (b.answer .start s.backends).state).result = .ok count ∧
      (c.run m args env backend s).acts =
        (collect b metric index? (some window) settings.advance s).acts ∧
      (collect b metric index? (some window) settings.advance s).result = .ok reports ∧
      reports.map (·.index) = selected index? count ∧
      ((Console.pieces (Console.output (c.run m args env backend s).events)).map Report.ofLine =
        reports.map .ok ↔ ∀ r ∈ reports, r.Legible) := by
  obtain ⟨b, settings, window, rfl, valid, effective, alike⟩ :=
    session_of_success accepted succeeded
  have short := short_of_success (b := b) (s := s) measured lines few (alike.result ▸ succeeded)
  have renders := (renders_of_chosen measured lines few short).of_alike alike
  obtain ⟨reports, gathered, printed⟩ := renders.reports_of_success succeeded
  obtain ⟨index?, count, denote, counted, collects, places, sound⟩ :=
    collects_of_chosen few gathered
  refine ⟨b, settings, window, index?, count, reports, rfl, valid, effective, denote, counted,
    renders.acts.trans collects.acts, collects.result.symm.trans gathered, places, ?_⟩
  rw [printed]
  exact Report.pieces_read_back_iff sound

/-- A utilization of two simulated devices with dashes and blanks in their names is read back. -/
theorem dashed_names_read_back :
    let s : Sessions Simulated :=
      { backends := { devices := [⟨"A100-SXM4- ", 0, 0, [(.utilization, [40, 61])]⟩,
                                  ⟨"-", 0, 0, [(.utilization, [7])]⟩] } }
    let args := ["-d0", "-n1"]
    let options : Options := { samples := .value ⟨1, by decide⟩, delay := .value 0 }
    let out := Command.utilization.run ⟨"host", 0⟩ args {} (.ok (Simulated.backend 0)) s
    let reports : List Report :=
      [⟨0, "A100-SXM4- ", "gpu_util", 40⟩, ⟨1, "-", "gpu_util", 7⟩]
    Command.utilization.metric? = some .utilization ∧
      Command.utilization.options args = .ok options ∧ options.format = .line ∧
      ¬ 1 < options.indices.length ∧ out.result.map ExitStatus.code = .ok 0 ∧
      (collect (Simulated.backend 0) .utilization none (some ⟨1, 0, by decide⟩) true s).result =
        .ok reports ∧
      (Console.pieces (Console.output out.events)).map Report.ofLine = reports.map .ok := by
  intro s args options out reports
  let settings : Settings Bool := ⟨⟨1, 1, by decide⟩, true, .warning⟩
  have accepted : Command.utilization.options args = .ok options := rfl
  have effective : Command.utilization.window options settings = .ok ⟨1, 0, by decide⟩ := rfl
  have valid : ({} : Environment).settings = .ok settings := rfl
  have succeeded : out.result.map ExitStatus.code = .ok 0 := by decide +kernel
  have gathered : (collect (Simulated.backend 0) .utilization none (some ⟨1, 0, by decide⟩) true
      s).result = .ok reports := by decide +kernel
  have legible : ∀ r ∈ reports, r.Legible := by
    rw [List.forall_mem_cons, List.forall_mem_singleton]
    exact ⟨⟨by decide, by decide, by decide +kernel⟩, ⟨by decide, by decide, by decide +kernel⟩⟩
  refine ⟨rfl, accepted, rfl, by decide, succeeded, gathered, ?_⟩
  obtain ⟨b, settings', window, index?, count, others, available, valid', effective', denote, _, _,
      given, _, read⟩ :=
    lines_read_back_iff (c := .utilization) rfl accepted rfl (by decide) succeeded
  cases available
  cases valid.symm.trans valid'
  cases effective.symm.trans effective'
  -- No text is given, so no index is denoted.
  cases index? with
  | some index =>
      obtain ⟨text, absurdity, _⟩ := denote
      cases absurdity
  | none =>
      cases gathered.symm.trans given
      exact read.mpr legible

/-- A command for one device of a driver whose only sample of utilization is negative, and one for a
simulated device whose name holds a line feed: both succeed, but the line of the one is refused, and
that of the other is read as reports of two devices. -/
theorem printed_lines_not_read_back :
    let sample : Nvml.Row := ⟨1, ⟨.finite false 0 0, 0, 0, 0, -5⟩⟩
    let driver : Sessions Nvml.Driver :=
      { backends := { devices := [{ sources := [(1, .buffer ⟨4, [sample]⟩)] }] } }
    let one := Command.utilization.run ⟨"host", 0⟩ [] {} (.ok (Nvml.backend 0)) driver
    let report : Report := ⟨0, "GPU", "gpu_util", -5⟩
    let s : Sessions Simulated :=
      { backends := { devices := [⟨"A-gpu_power-1\n1-B", 20, 0, []⟩] } }
    let two := Command.power.run ⟨"host", 0⟩ [] {} (.ok (Simulated.backend 0)) s
    one.result.map ExitStatus.code = .ok 0 ∧ one.printed = ["0-GPU-gpu_util--5"] ∧
      (collect (Nvml.backend 0) .utilization none none true driver).result = .ok [report] ∧
      (Console.pieces (Console.output one.events)).map Report.ofLine =
        [.error ⟨"0-GPU-gpu_util--5"⟩] ∧
      two.result.map ExitStatus.code = .ok 0 ∧
      (collect (Simulated.backend 0) .power none none true s).result =
        .ok [⟨0, "A-gpu_power-1\n1-B", "gpu_power", 20⟩] ∧
      (Console.pieces (Console.output two.events)).map Report.ofLine =
        [.ok ⟨0, "A", "gpu_power", 1⟩, .ok ⟨1, "B", "gpu_power", 20⟩] := by
  intro sample driver one report s two
  exact ⟨by decide +kernel, by decide +kernel, by decide +kernel, by decide +kernel,
    by decide +kernel, by decide +kernel, by decide +kernel⟩

end Command

end GpuTelemetry
