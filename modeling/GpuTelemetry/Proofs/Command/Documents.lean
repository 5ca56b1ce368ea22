import GpuTelemetry.Proofs.Command.Options
import GpuTelemetry.Proofs.Command.ReadBack
import GpuTelemetry.Proofs.Otlp.Document

/-!
# Reading back the document of a command

A command that succeeds with a document as its output has printed one document and nothing else, and
what it has sampled can be read off this document again: names of any characters are quoted, and an
integer that has no room in a document keeps the command from succeeding.

Main statement: `document_read_back`.
-/

namespace GpuTelemetry.Command

open Session (launched landed upcoming)

variable {σ : Type} {c : Command} {m : Machine} {options : Options} {b : Backend σ}
  {s : Sessions σ}

/-- A body settles for success only if it has ended in it. -/
theorem ok_of_settled {result : Except Fault ExitStatus} (settles : settled result = .ok .success) :
    result = .ok .success := by
  rcases result with fault | status
  · cases fault <;> cases settles
  · exact settles

/-- A command whose session succeeds has opened it, and its body has ended in success. -/
theorem body_of_success {told : Session σ → Run (Sessions σ) ExitStatus}
    (succeeded : (inSession (.ok b) told s).result.map ExitStatus.code = .ok 0) :
    (launched b s).result = .ok () ∧
      (told (upcoming b s) (launched b s).state).result = .ok .success ∧
      (landed b s (told (upcoming b s) (launched b s).state).state).result = .ok () := by
  have ended : (inSession (.ok b) told s).result = .ok .success := result_of_code succeeded
  rcases status_of_inSession ended with unavailable | ⟨opened, settles, landing⟩
  · cases unavailable
  · exact ⟨opened, ok_of_settled settles, landing⟩

/-- A command with a document that succeeds in its session has gathered reports and printed their
document, and has done what the gathering does. -/
theorem published_of_success {metric : Metric} {window : Window} {advance : Bool}
    (measured : c.metric? = some metric) (document : options.format = .document)
    (few : ¬ 1 < options.indices.length)
    (succeeded : (inSession (.ok b) (c.body m options window advance) s).result.map
      ExitStatus.code = .ok 0) :
    let gathering := Session.within b (fun h => h.gather window advance metric fun count =>
      chosen count options.indices) s
    let out := inSession (.ok b) (c.body m options window advance) s
    ∃ reports request, gathering.result = .ok reports ∧ (∀ r ∈ reports, r.label = metric.label) ∧
      out.acts = gathering.acts ∧
      Otlp.Request.ofReports (Otlp.hostName none m.host) m.time reports = .ok request ∧
      out.printed = [(Otlp.Document.ofRequest request).pretty] := by
  intro gathering out
  let gather : Session σ → Run (Sessions σ) (List Report) := fun h =>
    h.gather window advance metric fun count => chosen count options.indices
  have quiet : (gather (upcoming b s)).Obeys .quiet fun reports =>
      ∀ r ∈ reports, r.label = metric.label :=
    Session.quiet_gather fun count => quiet_chosen options.indices count
  have publishes : c.body m options window advance (upcoming b s) =
      publishing m (gather (upcoming b s)) :=
    body_of_document measured few document
  obtain ⟨opened, ended, landing⟩ := body_of_success succeeded
  have outer := ends_inSession (c.body m options window advance) opened
  have inner := Session.goes_within gather opened
  obtain ⟨acts, state⟩ := acts_publishing m (gather (upcoming b s)) (launched b s).state
  rw [publishes] at ended outer landing
  rcases gathered : (gather (upcoming b s) (launched b s).state).result with f | reports
  · rw [publishing_of_error gathered] at ended
    cases ended
  · rcases publishing_cases m gathered with ⟨request, built, published⟩ | ⟨r, _, n, _, refused⟩
    · refine ⟨reports, request, ?_, ?_, ?_, built, ?_⟩
      · rw [inner.result, ← state, landing, gathered]
        rfl
      · exact (quiet (launched b s).state trivial).gives reports gathered
      · rw [outer.acts, inner.acts, acts, state]
      · -- The gathering prints nothing, so the document is all that is printed.
        have silent := quiet.printed (launched b s).state
        rw [outer.printed, ended, published]
        refine (List.append_nil _).trans ((List.filterMap_append ..).trans ?_)
        exact congrArg (· ++ _) silent
    · rw [refused] at ended
      cases ended

/-- A command with accepted arguments, a document for its output and no index or one, that succeeds:
it has a metric, and it has done what the collection of the metric does, for all devices or for the
one index. Its output is one document with a line feed behind it, and the request that this document
stands for names the host, has a point for each report of the collection, in order, and names the
metric if there is a report. -/
theorem document_read_back {args : List String} {env : Environment}
    {backend : Except Failure (Backend σ)} (accepted : c.options args = .ok options)
    (document : options.format = .document) (few : ¬ 1 < options.indices.length)
    (succeeded : (c.run m args env backend s).result.map ExitStatus.code = .ok 0) :
    ∃ b settings window metric index? count reports,
      backend = .ok b ∧ env.settings = .ok settings ∧ c.window options settings = .ok window ∧
      c.metric? = some metric ∧ Denote options.indices index? ∧
      (b.answer .deviceCount (b.answer .start s.backends).state).result = .ok count ∧
      (c.run m args env backend s).acts =
        (collect b metric index? (some window) settings.advance s).acts ∧
      (collect b metric index? (some window) settings.advance s).result = .ok reports ∧
      reports.map (·.index) = selected index? count ∧
      ∃ text value request,
        Console.output (c.run m args env backend s).events = text ++ "\n" ∧
        Json.read text = some value ∧ Otlp.Document.request? value = some request ∧
        request.host? = some m.host ∧ request.readings = reports.map some ∧
        (reports ≠ [] → request.gauges.map Otlp.Gauge.name = [metric.label]) := by
  obtain ⟨b, settings, window, rfl, valid, effective, alike⟩ :=
    session_of_success accepted succeeded
  obtain ⟨metric, measured⟩ := metric_of_document accepted document
  rw [alike.result] at succeeded
  obtain ⟨reports, request, gathered, labelled, acts, built, printed⟩ :=
    published_of_success measured document few succeeded
  obtain ⟨index?, count, denote, counted, collects, places, _⟩ := collects_of_chosen few gathered
  refine ⟨b, settings, window, metric, index?, count, reports, rfl, valid, effective, measured,
    denote, counted, alike.acts.trans (acts.trans collects.acts),
    collects.result.symm.trans gathered, places,
    (Otlp.Document.ofRequest request).pretty, Otlp.Document.ofRequest request, request, ?_,
    Otlp.Document.read_document request, Otlp.Document.request?_ofRequest request,
    Otlp.Request.host?_ofReports built, Otlp.readings_ofReports labelled built, fun some => ?_⟩
  · rw [Console.output_events, alike.printed, printed]
    simp [Console.lines, String.join_cons]
  · rw [(Otlp.Request.grouped_ofReports built).names, Otlp.labelsOf_of_label some labelled]

/-- A document of two simulated devices, whose names hold quotes, a backslash, control characters
and characters beyond ASCII and beyond the first plane. -/
theorem awkward_names_read_back :
    let s : Sessions Simulated :=
      { backends := { devices := [⟨"A\"\\\t\u0001", 20, 0, []⟩, ⟨"Ü漢😀\u007f", -3, 0, []⟩] } }
    let args := ["--format", "otlp-json"]
    let options : Options := { format := .document }
    let out := Command.power.run ⟨"höst", 7⟩ args {} (.ok (Simulated.backend 0)) s
    Command.power.options args = .ok options ∧ options.format = .document ∧
      ¬ 1 < options.indices.length ∧ out.result.map ExitStatus.code = .ok 0 ∧
      ∃ text value request, Console.output out.events = text ++ "\n" ∧
        Json.read text = some value ∧ Otlp.Document.request? value = some request ∧
        request.host? = some "höst" ∧
        request.readings = [some ⟨0, "A\"\\\t\u0001", "gpu_power", 20⟩,
          some ⟨1, "Ü漢😀\u007f", "gpu_power", -3⟩] := by
  intro s args options out
  let settings : Settings Bool := ⟨⟨1, 1, by decide⟩, true, .warning⟩
  have accepted : Command.power.options args = .ok options := rfl
  have valid : ({} : Environment).settings = .ok settings := rfl
  have effective : Command.power.window options settings = .ok settings.window := rfl
  have succeeded : out.result.map ExitStatus.code = .ok 0 := by decide +kernel
  have gathered :
      (collect (Simulated.backend 0) .power none (some ⟨1, 1, by decide⟩) true s).result =
      .ok [⟨0, "A\"\\\t\u0001", "gpu_power", 20⟩, ⟨1, "Ü漢😀\u007f", "gpu_power", -3⟩] := by
    decide +kernel
  refine ⟨accepted, rfl, by decide, succeeded, ?_⟩
  obtain ⟨b, settings', window, metric, index?, count, reports, available, valid', effective',
      measured, denote, _, _, given, _, text, value, request, printed, read, stands, host, readings,
      _⟩ := document_read_back (c := .power) accepted rfl (by decide) succeeded
  refine ⟨text, value, request, printed, read, stands, host, readings.trans ?_⟩
  cases available
  cases valid.symm.trans valid'
  cases effective.symm.trans effective'
  cases measured
  -- No text is given, so no index is denoted.
  cases index? with
  | some index =>
      obtain ⟨text, absurdity, _⟩ := denote
      cases absurdity
  | none =>
      cases gathered.symm.trans given
      rfl

/-- With more than one index a command succeeds as well, and prints no document. -/
theorem no_document_for_many :
    let s : Sessions Simulated :=
      { backends := { devices := [⟨"A", 20, 0, []⟩, ⟨"B", 30, 0, []⟩] } }
    let args := ["--format", "otlp-json", "0", "1"]
    let out := Command.power.run ⟨"host", 0⟩ args {} (.ok (Simulated.backend 0)) s
    Command.power.options args = .ok { format := .document, indices := ["0", "1"] } ∧
      out.result.map ExitStatus.code = .ok 0 ∧
      Console.output out.events = "Error: only zero or one argument supported" ++ "\n" ∧
      Json.read "Error: only zero or one argument supported" = none := by
  intro s args out
  exact ⟨rfl, by decide +kernel, by decide +kernel, by decide +kernel⟩

end GpuTelemetry.Command
