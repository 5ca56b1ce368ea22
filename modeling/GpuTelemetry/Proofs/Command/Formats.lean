import Mathlib.Control.Monad.Basic
import GpuTelemetry.Proofs.Command.Agreement
import GpuTelemetry.Proofs.Otlp.Grouping
import GpuTelemetry.Simulated

/-!
# Output formats

One command from one state, run once with lines and once with a document as its output. The format
changes neither the calls and the pauses nor the state that is left, and the document carries the
reports of the lines, in their order; a failure is the only output of the one run and ends the
output of the other (`Command.Concord`).

The two runs part over integers without room. A report that does not fit a document ends its run in
a fault, where the lines are printed and the command succeeds. A report with an integer that is too
long even to be written stops the lines (`Command.halts_of_formats`), and the run that gathers for a
document goes on for a while, but comes to no document.

Main statement: `Command.formats_concord`.
-/

namespace GpuTelemetry.Command

open Otlp (Misfit)
open Session (launched landed upcoming Stranded)

variable {σ : Type}

/-- How a command ends with lines and with a document. -/
inductive Concord (m : Machine) (line doc : Outcome (Sessions σ) ExitStatus) : Prop
  /-- The document carries the reports of the lines. -/
  | whole (reports : List Report) (request : Otlp.Request)
      (carried : request.readings = reports.map some)
      (lines : line.printed = reports.map Report.line)
      (document : doc.printed = [(Otlp.Document.ofRequest request).pretty])
      (result : doc.result = line.result)
  /-- The failure is printed behind the lines, and alone in the place of a document. -/
  | failed (before : List Report) (f : Failure)
      (lines : line.printed = before.map Report.line ++ [failureLine f])
      (alone : doc.printed = [failureLine f])
      (result : doc.result = line.result)
  /-- Another fault is the end of both. -/
  | broken (before : List Report) (f : Fault) (lines : line.printed = before.map Report.line)
      (nothing : doc.printed = []) (fault : line.result = .error f) (result : doc.result = .error f)
  /-- A report holds an integer that has no room in a document: there is none. -/
  | unfit (reports : List Report) (r : Report) (n : Int) (member : r ∈ reports)
      (misfit : Misfit m.time r n) (lines : line.printed = reports.map Report.line)
      (nothing : doc.printed = [])
      (well : ∀ status, line.result = .ok status →
        status = .success ∧ doc.result = .error (.outOfField (.inRequest n)))
      (ill : ∀ f, line.result = .error f → doc.result = .error f)

/-- Notes and complaints make no difference. -/
theorem Concord.of_alike {m : Machine} {line line' doc doc' : Outcome (Sessions σ) ExitStatus}
    (lines : line.Alike line') (document : doc.Alike doc') (concord : Concord m line' doc') :
    Concord m line doc := by
  cases concord with
  | whole reports request carried printed published result =>
      exact .whole reports request carried (lines.printed.trans printed)
        (document.printed.trans published)
        (document.result.trans (result.trans lines.result.symm))
  | failed before f printed alone result =>
      exact .failed before f (lines.printed.trans printed) (document.printed.trans alone)
        (document.result.trans (result.trans lines.result.symm))
  | broken before f printed nothing fault result =>
      exact .broken before f (lines.printed.trans printed) (document.printed.trans nothing)
        (lines.result.trans fault) (document.result.trans result)
  | unfit reports r n member misfit printed nothing well ill =>
      refine .unfit reports r n member misfit (lines.printed.trans printed)
        (document.printed.trans nothing) ?_ ?_
      · rw [lines.result, document.result]
        exact well
      · rw [lines.result, document.result]
        exact ill

/-! ## Bodies -/

variable {c : Command} {m : Machine} {options : Options} {metric : Metric} {window : Window}
  {advance : Bool} {h : Session σ}

/-- Writes reports as one document. -/
def publish (m : Machine) (reports : List Report) : Run σ Unit := do
  let request ← Run.ofExcept (Otlp.Request.ofReports (Otlp.hostName none m.host) m.time reports)
  Run.print (Otlp.Document.ofRequest request).pretty

/-- A body that gathers reports and publishes them. -/
def publishing (m : Machine) (gather : Run σ (List Report)) : Run σ ExitStatus := do
  let reports ← gather
  publish m reports
  return .success

/-- The body of a command with a document publishes what it has gathered. -/
theorem body_of_document (measured : c.metric? = some metric)
    (few : ¬ 1 < options.indices.length) (document : options.format = .document) :
    c.body m options window advance h =
      publishing m (h.gather window advance metric fun count => chosen count options.indices) := by
  rw [body_of_metric measured few]
  simp only [document, Session.gather, printReports, publishing, publish, bind_assoc]

theorem publishing_of_error {gather : Run σ (List Report)} {t : σ} {f : Fault}
    (failed : (gather t).result = .error f) :
    publishing m gather t = ⟨.error f, (gather t).state, (gather t).events⟩ :=
  Run.bind_of_error _ failed

/-- Publishing reports prints a document or, if there is none for them, nothing. -/
theorem publishing_cases (m : Machine) {gather : Run σ (List Report)} {t : σ}
    {reports : List Report} (gathered : (gather t).result = .ok reports) :
    (∃ request, Otlp.Request.ofReports (Otlp.hostName none m.host) m.time reports = .ok request ∧
        publishing m gather t = ⟨.ok .success, (gather t).state,
          (gather t).events ++ [.print (Otlp.Document.ofRequest request).pretty]⟩) ∨
      ∃ r ∈ reports, ∃ n, Misfit m.time r n ∧
        publishing m gather t =
          ⟨.error (.outOfField (.inRequest n)), (gather t).state, (gather t).events⟩ := by
  have split : publishing m gather t = _ := Run.bind_of_ok _ gathered
  cases built : Otlp.Request.ofReports (Otlp.hostName none m.host) m.time reports with
  | ok request =>
      refine .inl ⟨request, rfl, ?_⟩
      rw [split]
      unfold publish
      rw [built]
      rfl
  | error f =>
      -- Building the request is all that can go wrong once the reports are there.
      obtain ⟨r, member, n, misfit, rfl⟩ := Otlp.misfit_of_refused built
      refine .inr ⟨r, member, n, misfit, ?_⟩
      rw [split]
      unfold publish
      rw [built]
      exact congrArg (Outcome.mk _ _) (List.append_nil _)

/-- Publishing is no act and changes nothing. -/
theorem acts_publishing (m : Machine) (gather : Run σ (List Report)) (t : σ) :
    (publishing m gather t).acts = (gather t).acts ∧
      (publishing m gather t).state = (gather t).state := by
  rcases gathered : (gather t).result with f | reports
  · rw [publishing_of_error gathered]
    exact ⟨rfl, rfl⟩
  · rcases publishing_cases m gathered with ⟨request, _, published⟩ | ⟨r, _, n, _, refused⟩
    · rw [published]
      exact ⟨by simp [Outcome.acts, Event.isAct], rfl⟩
    · rw [refused]
      exact ⟨rfl, rfl⟩

/-! ## Sessions -/

theorem lastWords_of_other {f : Fault} (other : ∀ g, f ≠ .failed g) :
    lastWords (.error f : Except Fault ExitStatus) = [] ∧
      settled (.error f) = .error f := by
  cases f with
  | failed g => exact absurd rfl (other g)
  | _ => exact ⟨rfl, rfl⟩

variable {b : Backend σ} {s : Sessions σ}

section Bodies

variable {gather : Run (Sessions σ) (List Report)} {t : Sessions σ}
  {broken : List Report → Fault → Prop} {spoken line doc : Outcome (Sessions σ) ExitStatus}
  (tells : Outcome.Tells Report.line broken (gather t) spoken) (quiet : (gather t).printed = [])
  (lines : Ends b s spoken line) (document : Ends b s (publishing m gather t) doc)

include tells quiet lines document

/-- A gathering that ends in a fault is told until then, and not published. -/
theorem concord_of_stopped {f : Fault} (gathered : (gather t).result = .error f) :
    Concord m line doc := by
  obtain ⟨stopped, before, _, told⟩ := tells.part f gathered
  obtain ⟨-, -, printed, ended⟩ := lines
  obtain ⟨-, -, published, closed⟩ := document
  have silent : (publishing m gather t).printed = [] := by
    rw [publishing_of_error gathered]
    exact quiet
  have failed : (publishing m gather t).result = .error f := by rw [publishing_of_error gathered]
  rw [stopped, told] at printed
  rw [silent, failed] at published
  rw [stopped, tells.state] at ended
  rw [failed, (acts_publishing m gather t).2] at closed
  by_cases failure : ∃ g, f = .failed g
  · -- A failure is told in words by both; the line format has printed the reports before it.
    obtain ⟨g, rfl⟩ := failure
    exact .failed before g printed published (closed.trans ended.symm)
  · have other : ∀ g, f ≠ .failed g := fun g same => failure ⟨g, same⟩
    obtain ⟨wordless, stays⟩ := lastWords_of_other other
    rw [wordless] at printed published
    rw [stays] at ended closed
    rw [List.append_nil] at printed
    cases landing : (landed b s (gather t).state).result with
    | error g =>
        rw [landing] at ended closed
        exact .broken before g printed published ended closed
    | ok u =>
        rw [landing] at ended closed
        exact .broken before f printed published ended closed

/-- What has been gathered is told and published, unless there is no document for it. -/
theorem concord_of_gathered {label : String} {reports : List Report}
    (succeeds : ∀ status, spoken.result = .ok status → status = .success)
    (gathered : (gather t).result = .ok reports) (labelled : ∀ r ∈ reports, r.label = label) :
    Concord m line doc := by
  obtain ⟨told, status, well⟩ := tells.whole reports gathered
  obtain ⟨-, -, printed, ended⟩ := lines
  obtain ⟨-, -, published, closed⟩ := document
  rw [succeeds status well] at well
  rw [well, told, show lastWords (.ok ExitStatus.success) = [] from rfl, List.append_nil] at printed
  rw [well, tells.state] at ended
  rw [(acts_publishing m gather t).2] at closed
  rcases publishing_cases m gathered with
    ⟨request, built, written⟩ | ⟨r, member, n, misfit, refused⟩
  · have shown : (publishing m gather t).printed = [(Otlp.Document.ofRequest request).pretty] := by
      rw [written]
      refine (List.filterMap_append ..).trans ?_
      exact congrArg (· ++ _) quiet
    have succeeded : (publishing m gather t).result = .ok .success := by rw [written]
    rw [shown, succeeded] at published
    rw [succeeded] at closed
    exact .whole reports request (Otlp.readings_ofReports labelled built) printed published
      (closed.trans ended.symm)
  · have silent : (publishing m gather t).printed = [] := by
      rw [refused]
      exact quiet
    have failed : (publishing m gather t).result = .error (.outOfField (.inRequest n)) := by
      rw [refused]
    rw [silent, failed] at published
    rw [failed] at closed
    -- A session that cannot be finished is the end of both; otherwise they part.
    cases landing : (landed b s (gather t).state).result with
    | error g =>
        rw [landing] at ended closed
        refine .unfit reports r n member misfit printed published ?_ ?_
        · intro status given
          exact nomatch ended.symm.trans given
        · intro f fault
          cases ended.symm.trans fault
          exact closed
    | ok u =>
        rw [landing] at ended closed
        refine .unfit reports r n member misfit printed published ?_ ?_
        · intro status given
          cases ended.symm.trans given
          exact ⟨rfl, closed⟩
        · intro f fault
          exact nomatch ended.symm.trans fault

end Bodies

/-- A session that could not be opened has the same end for both. -/
theorem concord_of_unopened (told other : Session σ → Run (Sessions σ) ExitStatus) {f : Fault}
    (refused : (launched b s).result = .error f) :
    inSession (.ok b) other s = inSession (.ok b) told s ∧
      Concord m (inSession (.ok b) told s) (inSession (.ok b) other s) := by
  have silent : (launched b s).events.filterMap Event.print? = [] :=
    (Session.wordless_start _).printed _
  by_cases failed : ∃ g, f = .failed g
  · obtain ⟨g, rfl⟩ := failed
    rw [inSession_of_failed told refused, inSession_of_failed other refused]
    have printed : ∀ out : Outcome (Sessions σ) ExitStatus,
        out.events = (launched b s).events ++ [.print (failureLine g)] →
        out.printed = [failureLine g] := by
      intro out same
      unfold Outcome.printed
      rw [same, List.filterMap_append, silent]
      rfl
    exact ⟨rfl, .failed [] g (printed _ rfl) (printed _ rfl) rfl⟩
  · have unknown : ∀ g, f ≠ .failed g := fun g same => failed ⟨g, same⟩
    rw [inSession_of_fault told refused unknown, inSession_of_fault other refused unknown]
    exact ⟨rfl, .broken [] f silent silent rfl rfl⟩

/-- Two commands in sessions of their own, of which one tells and one publishes what is gathered. -/
theorem concord_of_sessions {told other : Session σ → Run (Sessions σ) ExitStatus}
    {gather : Session σ → Run (Sessions σ) (List Report)} {label : String}
    {broken : List Report → Fault → Prop}
    (tells : Outcome.Tells Report.line broken (gather (upcoming b s) (launched b s).state)
      (told (upcoming b s) (launched b s).state))
    (succeeds : ∀ status, (told (upcoming b s) (launched b s).state).result = .ok status →
      status = .success)
    (publishes : other (upcoming b s) = publishing m (gather (upcoming b s)))
    (quiet : (gather (upcoming b s)).Obeys .quiet fun reports => ∀ r ∈ reports, r.label = label) :
    (inSession (.ok b) other s).acts = (inSession (.ok b) told s).acts ∧
      (inSession (.ok b) other s).state = (inSession (.ok b) told s).state ∧
      Concord m (inSession (.ok b) told s) (inSession (.ok b) other s) := by
  rcases opened : (launched b s).result with f | ⟨⟨⟩⟩
  · obtain ⟨same, concord⟩ := concord_of_unopened (m := m) told other opened
    exact ⟨congrArg Outcome.acts same, congrArg Outcome.state same, concord⟩
  · have line := ends_inSession told opened
    have doc := ends_inSession other opened
    rw [publishes] at doc
    obtain ⟨acts, state⟩ := acts_publishing m (gather (upcoming b s)) (launched b s).state
    refine ⟨?_, ?_, ?_⟩
    · rw [line.acts, doc.acts, acts, state, tells.acts, tells.state]
    · rw [line.state, doc.state, state, tells.state]
    · -- The session is open, and whether the gathering gives all reports decides about the rest.
      have silent := quiet.printed (launched b s).state
      rcases gathered : (gather (upcoming b s) (launched b s).state).result with f | reports
      · exact concord_of_stopped tells silent line doc gathered
      · have labelled := (quiet (launched b s).state trivial).gives reports gathered
        exact concord_of_gathered tells silent line doc succeeds gathered labelled

/-! ## Commands -/

theorem quiet_chosen (texts : List String) (count : Int) :
    (chosen count texts : Run (Sessions σ) Indices).Obeys .quiet fun _ => True := by
  rcases chosen_cases count texts with ⟨indices, picks⟩ | ⟨f, available, fails⟩
  · rw [picks]
    exact .pure trivial
  · rw [fails]
    exact .fault available

/-- With more than one index, nothing depends on the format. -/
theorem body_of_many (many : 1 < options.indices.length) (format : Format) :
    c.body m { options with format := format } window advance h =
      c.body m options window advance h := by
  unfold body
  simp only [if_pos many]

/-- With at most one index, one body prints the reports of a gathering and the other publishes
them. -/
theorem concord_of_formats (measured : c.metric? = some metric)
    (few : ¬ 1 < options.indices.length) (lines : options.format = .line)
    (short : ∀ r ∈ (upcoming b s).taken window advance metric
      (fun count => chosen count options.indices) (launched b s).state, r.Short) :
    let line := inSession (.ok b) (c.body m options window advance) s
    let doc := inSession (.ok b) (c.body m { options with format := .document } window advance) s
    doc.acts = line.acts ∧ doc.state = line.state ∧ Concord m line doc := by
  have quiet := fun count => quiet_chosen (σ := σ) options.indices count
  let gather : Session σ → Run (Sessions σ) (List Report) := fun h =>
    h.gather window advance metric fun count => chosen count options.indices
  have tells : Outcome.Tells Report.line
      ((upcoming b s).Stranded window advance metric
        (fun count => chosen count options.indices) (launched b s).state)
      (gather (upcoming b s) (launched b s).state)
      (c.body m options window advance (upcoming b s) (launched b s).state) := by
    rw [body_of_lines measured few lines]
    exact (tells_gather quiet short).ending ExitStatus.success
  -- Printing lines settles for no status but success.
  have succeeds : ∀ status, (c.body m options window advance (upcoming b s)
      (launched b s).state).result = .ok status → status = .success := by
    intro status ended
    rw [body_of_metric measured few] at ended
    exact Run.eq_of_ended ended
  have publishes : c.body m { options with format := .document } window advance (upcoming b s) =
      publishing m (gather (upcoming b s)) :=
    body_of_document measured few rfl
  exact concord_of_sessions tells succeeds publishes (Session.quiet_gather quiet)

/-- Whatever fits a document can be written in a line. -/
theorem short_of_fits {r : Report} (fits : ∀ n, ¬ Misfit m.time r n) : r.Short := by
  obtain ⟨index, _, value⟩ := Otlp.fits_iff.mp fits
  exact ⟨Numeral.digitCount_le_of_word (by omega), Numeral.digitCount_le_of_word (by omega)⟩

/-- A report that cannot be written stops the printing of lines, and there is no document with it
either. -/
theorem halts_of_formats (measured : c.metric? = some metric)
    (few : ¬ 1 < options.indices.length) (lines : options.format = .line)
    {before behind : List Report} {r : Report}
    (split : (upcoming b s).taken window advance metric
      (fun count => chosen count options.indices) (launched b s).state = before ++ r :: behind)
    (well : ∀ other ∈ before, other.Short) (long : ¬ r.Short) :
    let line := inSession (.ok b) (c.body m options window advance) s
    let doc := inSession (.ok b) (c.body m { options with format := .document } window advance) s
    Halts b s before r doc.acts line ∧ doc.result ≠ .ok .success := by
  intro line doc
  rcases opened : (launched b s).result with f | ⟨⟨⟩⟩
  · have nothing := Session.taken_of_unopened opened window advance metric
      fun count => chosen count options.indices
    exact absurd (nothing.symm.trans split) (by simp)
  let gather := (upcoming b s).gather window advance metric fun count =>
    chosen count options.indices
  have publishes : c.body m { options with format := .document } window advance (upcoming b s) =
      publishing m gather := body_of_document measured few rfl
  constructor
  · have acts := (ends_inSession
      (c.body m { options with format := .document } window advance) opened).acts
    rw [publishes, (acts_publishing m gather _).1] at acts
    rw [acts]
    refine halts_of_taken opened ?_ (quiet_chosen _) split well long _
    rw [body_of_lines measured few lines]
  · intro succeeded
    rcases status_of_inSession succeeded with other | ⟨_, settles, _⟩
    · cases other
    rw [publishes] at settles
    rcases gathered : (gather (launched b s).state).result with f | reports
    · rw [publishing_of_error gathered] at settles
      cases f <;> cases settles
    rcases publishing_cases m gathered with ⟨request, built, _⟩ | ⟨_, _, _, _, refused⟩
    · -- A document that has been built has room for all its reports, and so have their lines.
      have fits := Otlp.built_iff.mp ⟨request, built⟩
      rw [← Session.taken_of_gathered gathered, split] at fits
      exact long (short_of_fits (fits r (by simp)))
    · rw [refused] at settles
      cases settles

/-- A command with a metric, run from the same state with the same accepted arguments but for the
format, and with valid settings. As long as all reports that are taken can be written, the format
changes neither the acts nor the state. -/
theorem formats_concord {args other : List String} {env : Environment} {settings : Settings Bool}
    (measured : c.metric? = some metric) (lines : options.format = .line)
    (accepted : c.options args = .ok options)
    (documents : c.options other = .ok { options with format := .document })
    (valid : env.settings = .ok settings) :
    let line := c.run m args env (.ok b) s
    let doc := c.run m other env (.ok b) s
    (1 < options.indices.length ∨ (∃ error, c.window options settings = .error error) →
      doc.Alike line) ∧
    ∀ window, c.window options settings = .ok window → ¬ 1 < options.indices.length →
      let taken := (upcoming b s).taken window settings.advance metric
        (fun count => chosen count options.indices) (launched b s).state
      ((∀ r ∈ taken, r.Short) →
        doc.acts = line.acts ∧ doc.state = line.state ∧ Concord m line doc) ∧
      ∀ before r behind, taken = before ++ r :: behind → (∀ other ∈ before, other.Short) →
        ¬ r.Short → Halts b s before r doc.acts line ∧ doc.result ≠ .ok .success := by
  intro line doc
  cases effective : c.window options settings with
  | error error =>
      have first : line.Alike _ := run_of_badWindow accepted valid effective s
      have second : doc.Alike _ := run_of_badWindow documents valid effective s
      exact ⟨fun _ => second.trans first.symm, fun _ given => nomatch given⟩
  | ok window =>
      have first : line.Alike _ := run_of_accepted accepted valid effective s
      have second : doc.Alike _ := run_of_accepted documents valid effective s
      by_cases many : 1 < options.indices.length
      · -- With more than one index neither format comes to its reports.
        have same : ∀ h : Session σ, c.body m { options with format := .document } window
            settings.advance h = c.body m options window settings.advance h :=
          fun h => body_of_many many .document
        rw [show c.body m { options with format := .document } window settings.advance = _ from
          funext same] at second
        exact ⟨fun _ => second.trans first.symm, fun _ _ few => absurd many few⟩
      · refine ⟨?_, fun w same few => ?_⟩
        · rintro (tooMany | ⟨error, without⟩)
          · exact absurd tooMany many
          · cases without
        · cases same
          refine ⟨fun short => ?_, fun before r behind split well long => ?_⟩
          · obtain ⟨acts, state, concord⟩ := concord_of_formats measured few lines short
            exact ⟨(second.acts.trans acts).trans first.acts.symm,
              (second.state.trans state).trans first.state.symm, concord.of_alike first second⟩
          · obtain ⟨halts, without⟩ :=
              halts_of_formats (m := m) measured few lines split well long
            rw [second.acts, second.result]
            exact ⟨halts.of_alike first, without⟩

/-- The formats of a command for two simulated devices, of which the second cannot be read. -/
theorem power_formats_concord :
    let s : Sessions Simulated :=
      { backends := { devices := [⟨"A", 30, 0, []⟩, ⟨"B", 40, 0, []⟩],
                      failures := [(.powerOf, ⟨"GPU is lost", some 1⟩)] } }
    let b := Simulated.backend 0
    let m : Machine := ⟨"host", 0⟩
    let settings : Settings Bool := ⟨⟨1, 1, by decide⟩, true, .warning⟩
    let line := Command.power.run m [] {} (.ok b) s
    let doc := Command.power.run m ["--format", "otlp-json"] {} (.ok b) s
    Command.power.metric? = some .power ∧ ({} : Options).format = .line ∧
      Command.power.options [] = .ok {} ∧
      Command.power.options ["--format", "otlp-json"] = .ok { format := .document } ∧
      ({} : Environment).settings = .ok settings ∧
      Command.power.window {} settings = .ok settings.window ∧
      doc.acts = line.acts ∧ doc.state = line.state ∧ Concord m line doc ∧
      line.printed = ["0-A-gpu_power-30",
        "Error: Failed to get power usage of device 1: GPU is lost"] ∧
      doc.printed = ["Error: Failed to get power usage of device 1: GPU is lost"] := by
  intro s b m settings line doc
  have accepted : Command.power.options [] = .ok {} := rfl
  have documents : Command.power.options ["--format", "otlp-json"] =
      .ok { ({} : Options) with format := .document } := rfl
  have valid : ({} : Environment).settings = .ok settings := rfl
  have taken : (upcoming b s).taken settings.window true .power
      (fun count => chosen count []) (launched b s).state = [⟨0, "A", "gpu_power", 30⟩] := by
    decide +kernel
  have short : ∀ r ∈ (upcoming b s).taken settings.window true .power
      (fun count => chosen count []) (launched b s).state, r.Short := by
    rw [taken, List.forall_mem_singleton]
    exact ⟨by decide +kernel, by decide +kernel⟩
  obtain ⟨_, concord⟩ :=
    formats_concord (b := b) (s := s) (m := m) (c := .power) rfl rfl accepted documents valid
  obtain ⟨acts, state, whole⟩ := (concord settings.window rfl (by decide)).1 short
  exact ⟨rfl, rfl, accepted, documents, valid, rfl, acts, state, whole, by decide +kernel,
    by decide +kernel⟩

/-- The formats of a command for one simulated device whose power is one beyond the greatest integer
of a document: the lines succeed, and the document ends in a fault that is no failure. -/
theorem formats_part_beyond_field :
    let s : Sessions Simulated :=
      { backends := { devices := [⟨"A", 0x8000000000000000, 0, []⟩] } }
    let b := Simulated.backend 0
    let line := Command.power.run ⟨"host", 0⟩ ["--format", "line"] {} (.ok b) s
    let doc := Command.power.run ⟨"host", 0⟩ ["--format", "otlp-json"] {} (.ok b) s
    line.result = .ok .success ∧ line.printed = ["0-A-gpu_power-9223372036854775808"] ∧
      doc.result = .error (.outOfField (.inRequest 9223372036854775808)) ∧ doc.printed = [] := by
  intro s b line doc
  exact ⟨by decide +kernel, by decide +kernel, by decide +kernel, by decide +kernel⟩

end GpuTelemetry.Command
