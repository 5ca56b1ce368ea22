import GpuTelemetry.Proofs.Command.Respelling
import GpuTelemetry.Proofs.Command.Statuses
import GpuTelemetry.Proofs.Text.Quoted

/-!
# The index in the arguments

A command with one index takes its text for the device that the text denotes, and for no other. Any
numeral for the index of a device is as good as its plain form (`run_of_respelled`), and with any
other text the command fails before it asks for a device (`Rejected`).

Main statement: `index_taken_or_rejected`.
-/

namespace GpuTelemetry

variable {σ : Type}

namespace Command

open Session (launched landed upcoming)

variable {c : Command} {m : Machine} {options : Options} {window : Window} {advance : Bool}
  {h : Session σ} {t : Sessions σ} {text : String} {i count : Int}

/-! ## What is done with the indices -/

/-- What a command does with the indices that it has chosen. -/
def serve (c : Command) (m : Machine) (format : Format) (window : Window) (advance : Bool)
    (h : Session σ) (count : Int) (indices : Indices) : Run (Sessions σ) ExitStatus :=
  match c.metric? with
  | none => do
    let _ ← indices.visit (printDevice h count)
    return .success
  | some metric => do
    printReports m format h ⟨h, window, advance⟩ metric count indices
    return .success

theorem body_of_few (few : ¬ 1 < options.indices.length) :
    c.body m options window advance h = (do
      let count ← h.countDevices
      let indices ← chosen count options.indices
      c.serve m options.format window advance h count indices) := by
  unfold body
  simp only [if_neg few]
  rfl

/-- A row of visits ends with a first one that ends in a fault. -/
theorem visit_of_silent_error {α : Type} {visit : Int → Run (Sessions σ) α} {f : Fault}
    (failed : visit i t = ⟨.error f, t, []⟩) :
    (Indices.listed [i]).visit visit t = ⟨.error f, t, []⟩ := by
  show Run.each visit [i] t = _
  rw [Run.each_cons_of_error [] (congrArg Outcome.result failed), failed]

/-- Outside of the range of devices there is nothing to print, in whatever form. -/
theorem serve_of_outside {format : Format} (outside : i < 0 ∨ count ≤ i) :
    c.serve m format window advance h count (.listed [i]) t =
      ⟨.error (Session.missing i count), t, []⟩ := by
  have missing : h.resolveBelow count i t = ⟨.error (Session.missing i count), t, []⟩ :=
    Session.resolveBelow_of_outside outside
  have report : ∀ sampler metric, h.report sampler metric count i t =
      ⟨.error (Session.missing i count), t, []⟩ :=
    fun sampler metric => Run.bind_of_silent_error _ missing
  unfold serve
  -- A listing looks the index up by itself, a command with a metric for its report.
  cases c.metric? with
  | none =>
      refine Run.bind_of_silent_error _ (visit_of_silent_error ?_)
      exact Run.bind_of_silent_error _ missing
  | some metric =>
      refine Run.bind_of_silent_error _ ?_
      cases format with
      | line =>
          refine Run.bind_of_silent_error _ (visit_of_silent_error ?_)
          exact Run.bind_of_silent_error _ (report ⟨h, window, advance⟩ metric)
      | document =>
          exact Run.bind_of_silent_error _
            (visit_of_silent_error (report ⟨h, window, advance⟩ metric))

/-! ## Another spelling -/

/-- The plain form of an index is read as the index, and it is no option. -/
theorem synonyms_text (flags : List Flag) (read : Numeral.read text = some i) (positive : 0 ≤ i) :
    Synonyms flags i text (Numeral.text i) := by
  have short := (Numeral.ofChars?_eq_some_iff.mp read).digitCount_le
  refine ⟨read, ?_, ?_⟩
  · unfold Numeral.read Numeral.text
    rw [String.toList_ofList, Numeral.ofChars?_eq_some_iff]
    exact Numeral.denotes_write short
  · obtain ⟨ds, shown, _⟩ := Numeral.write_of_nonneg positive
    obtain ⟨d, n, rest, start, digit⟩ := shown.first
    have unsigned : d ≠ '-' := Numeral.ne_of_digit digit Numeral.digit?_mark.1
    unfold sortWord Numeral.text
    rw [String.toList_ofList, start]
    split
    · next same => exact absurd (List.cons.inj same).1 unsigned
    · rfl

/-- Indices that are read alike are chosen alike. -/
theorem chosen_of_read {τ : Type} (count : Int) (read : Numeral.read text = some i) :
    (chosen count [text] : Run τ Indices) = pure (.listed [i]) := by
  unfold chosen
  dsimp only
  rw [read]

/-- A command with an index does the same with any other numeral for it. -/
theorem run_of_respelled {args args' : List String} {env : Environment}
    {backend : Except Failure (Backend σ)} {other : String}
    (accepted : c.options args = .ok options) (single : options.indices = [text])
    (synonyms : Synonyms c.flags i text other) (respelled : Respelled text other args args') :
    c.run m args' env backend = c.run m args env backend := by
  obtain ⟨indices, alike, accepted'⟩ := options_respelled synonyms respelled accepted
  rw [single] at alike
  have spelled : ∃ text', indices = [text'] ∧ Numeral.read text' = some i := by
    cases alike with
    | same _ rest =>
        cases rest
        exact ⟨text, rfl, synonyms.first⟩
    | other rest =>
        cases rest
        exact ⟨other, rfl, synonyms.second⟩
  obtain ⟨text', rfl, read⟩ := spelled
  have body : ∀ window advance, (c.body m (options.withIndices [text']) window advance :
      Session σ → Run (Sessions σ) ExitStatus) = c.body m options window advance := by
    intro window advance
    funext h
    rw [body_of_few (by simp [Options.withIndices]), body_of_few (by simp [single]), single]
    show (h.countDevices >>= fun count => chosen count [text'] >>= _) = _
    -- The body uses the text for nothing but the index that it reads from it.
    simp only [chosen_of_read _ read, chosen_of_read _ synonyms.first]
    rfl
  unfold run
  rw [accepted, accepted']
  cases env.settings with
  | error error => rfl
  | ok settings =>
      show c.execute m (options.withIndices [text']) settings backend = _
      unfold execute
      simp only [body]
      rfl

/-! ## No device -/

/-- A failure to make out a device is told in one line. -/
def Pointless (f : Failure) : Prop :=
  ∃ rest, failureLine f = "Error: Failed to resolve device" ++ rest ∧ '\n' ∉ rest.toList

theorem lineFeed_notMem_int (n : Int) : '\n' ∉ (toString n).toList := by
  have digits : ∀ m : Nat, '\n' ∉ m.repr.toList := by
    intro m member
    rw [Nat.toList_repr] at member
    have digit := Nat.isDigit_of_mem_toDigits (by decide) (by decide) member
    exact absurd digit (by decide)
  cases n with
  | ofNat m => exact digits m
  | negSucc m =>
      show '\n' ∉ ("-" ++ m.succ.repr).toList
      rw [String.toList_append, List.mem_append, not_or]
      exact ⟨by decide, digits _⟩

theorem pointless_of_operation {f : Failure} {what : String}
    (operation : f.operation = "resolve device " ++ what) (named : '\n' ∉ what.toList)
    (detailed : '\n' ∉ f.detail.toList) : Pointless f := by
  have words : "Error: Failed to " ++ "resolve device " =
      "Error: Failed to resolve device" ++ " " := by decide
  refine ⟨" " ++ (what ++ (": " ++ f.detail)), ?_, ?_⟩
  · calc failureLine f = "Error: Failed to " ++ (f.operation ++ ": " ++ f.detail) := rfl
      _ = ("Error: Failed to " ++ "resolve device ") ++ (what ++ (": " ++ f.detail)) := by
          rw [operation, String.append_assoc, String.append_assoc, String.append_assoc]
      _ = "Error: Failed to resolve device" ++ (" " ++ (what ++ (": " ++ f.detail))) := by
          rw [words, String.append_assoc]
  · simp only [String.toList_append, List.mem_append, not_or]
    exact ⟨by decide, named, by decide, detailed⟩

theorem pointless_outOfRange (i count : Int) : Pointless (.outOfRange i count) := by
  have operation : (Failure.outOfRange i count).operation = "resolve device " ++ toString i := rfl
  refine pointless_of_operation operation (lineFeed_notMem_int i) ?_
  show '\n' ∉ ("index out of range, " ++ toString count ++ " device(s) present").toList
  simp only [String.toList_append, List.mem_append, not_or]
  exact ⟨⟨by decide, lineFeed_notMem_int count⟩, by decide⟩

/-- Whatever the text is, it is quoted. -/
theorem pointless_notAnIndex (text : String) : Pointless (.notAnIndex text) :=
  pointless_of_operation rfl
    (fun member => absurd (Text.printable_quote text _ member) (by decide))
    (by decide : '\n' ∉ "index is not an integer".toList)

/-- What a command does in an open session whose devices it can count, if its index denotes none of
them: nothing but counting. -/
structure Balks (h : Session σ) (t : Sessions σ) (told : Outcome (Sessions σ) ExitStatus)
    (f : Failure) : Prop where
  state : told.state = h.backend.asked .deviceCount t
  calls : told.calls.map (·.request) = [.deviceCount]
  printed : told.printed = []
  result : told.result = .error (.failed f)

/-- A text that denotes no device: it is no numeral, or one for an index out of range. -/
def Denoteless (text : String) (count : Int) : Prop :=
  ∀ i, Numeral.read text = some i → i < 0 ∨ count ≤ i

theorem balks_of_denoteless (isOpen : t.phase h.id = .opened)
    (counted : (h.backend.answer .deviceCount t.backends).result = .ok count)
    (short : Numeral.digitCount count ≤ Numeral.digitLimit)
    (single : options.indices = [text]) (denoteless : Denoteless text count) :
    ∃ f, Pointless f ∧ Balks h t (c.body m options window advance h t) f := by
  obtain ⟨result, state, calls⟩ := Session.countDevices_of_opened isOpen
  rw [counted] at result calls
  have silent : (h.countDevices t).printed = [] := h.quiet_countDevices.printed t
  have ends : ∃ f, Pointless f ∧ ∀ u : Sessions σ, (chosen count [text] >>= fun indices =>
      c.serve m options.format window advance h count indices) u = ⟨.error (.failed f), u, []⟩ := by
    cases read : Numeral.read text with
    | none =>
        refine ⟨.notAnIndex text, pointless_notAnIndex text, fun u => ?_⟩
        refine Run.bind_of_silent_error _ ?_
        unfold chosen
        dsimp only
        rw [read]
        rfl
    | some i =>
        refine ⟨.outOfRange i count, pointless_outOfRange i count, fun u => ?_⟩
        -- The index is no longer than its text, and the text is short enough to be read.
        have named := Session.missing_of_short
          (Numeral.ofChars?_eq_some_iff.mp read).digitCount_le short
        rw [chosen_of_read count read, pure_bind, ← named]
        exact serve_of_outside (denoteless i read)
  obtain ⟨f, pointless, fails⟩ := ends
  refine ⟨f, pointless, ?_⟩
  rw [body_of_few (by simp [single]), single]
  have behind := fails (h.countDevices t).state
  refine ⟨?_, ?_, ?_, ?_⟩
  · rw [Run.bind_of_ok _ result, behind]
    exact state
  · rw [Run.calls_bind_of_ok _ result, behind, calls]
    rfl
  · rw [Run.printed_bind_of_ok _ result, behind, silent]
    rfl
  · rw [Run.bind_of_ok _ result, behind]

/-- How a command ends whose index denotes no device: with the status for a failure and one line
that says so, and it has asked for nothing but the number of devices. -/
structure Rejected (out : Outcome (Sessions σ) ExitStatus) : Prop where
  status : out.result.map ExitStatus.code = .ok 255
  line : ∃ rest, Console.output out.events = "Error: Failed to resolve device" ++ rest ++ "\n" ∧
    '\n' ∉ rest.toList
  calls : out.calls.map (·.request) = [.start, .deviceCount, .shutdown]

theorem rejected_of_denoteless {args : List String} {env : Environment}
    {settings : Settings Bool} {b : Backend σ} {s : Sessions σ}
    (declines : ∀ x refusal, (b.answer .shutdown x).result = .error refusal →
      ∃ reason, refusal = .declined reason)
    (accepted : c.options args = .ok options) (valid : env.settings = .ok settings)
    (effective : c.window options settings = .ok window) (idle : s.busy b.id = false)
    (started : (b.answer .start s.backends).result = .ok ())
    (counted : (b.answer .deviceCount (b.answer .start s.backends).state).result = .ok count)
    (short : Numeral.digitCount count ≤ Numeral.digitLimit)
    (single : options.indices = [text]) (denoteless : Denoteless text count) :
    Rejected (c.run m args env (.ok b) s) := by
  obtain ⟨opened, launching⟩ := Session.launched_of_started idle started
  obtain ⟨isOpen, backends⟩ := Session.opened_of_launched opened
  have alike : (c.run m args env (.ok b) s).Alike
      (inSession (.ok b) (c.body m options window settings.advance) s) :=
    run_of_accepted accepted valid effective s
  have ends := ends_inSession (c.body m options window settings.advance) opened
  -- The body ends in the failure whose line is the only one.
  obtain ⟨f, ⟨rest, line, single⟩, balks⟩ : ∃ f, Pointless f ∧
      Balks (upcoming b s) (launched b s).state
        (c.body m options window settings.advance (upcoming b s) (launched b s).state) f :=
    balks_of_denoteless isOpen (backends ▸ counted) short single denoteless
  have stillOpen : ((upcoming b s).backend.asked .deviceCount (launched b s).state).phase s.made =
      .opened := isOpen
  refine ⟨?_, ⟨rest, ?_, single⟩, ?_⟩
  · rw [alike.result, ends.result, Session.landed_of_declines declines, balks.result]
    rfl
  · rw [Console.output_events, alike.printed, ends.printed, balks.printed, balks.result]
    show Console.lines [failureLine f] = _
    rw [line]
    exact String.empty_append ..
  · rw [Outcome.calls_of_acts, alike.acts, ← Outcome.calls_of_acts, ends.calls, balks.state,
      List.map_append, List.map_append, launching, balks.calls, requests_of_landed stillOpen]
    rfl

/-- A command that is given one index, in a valid environment. If the index is a numeral for an
integer that is not negative, the command does the same with the plain form of the integer in its
place, on every backend and from every state. If it denotes no device, and a session can be opened,
the devices counted and the session closed, the command ends with the status for a failure and with
one line that says so, and asks for no device. That takes a window that is not left blank, which is
a fault of the command before it opens its session, and a number of devices that the line can
name. -/
theorem index_taken_or_rejected {args : List String} {env : Environment} {settings : Settings Bool}
    (accepted : c.options args = .ok options) (single : options.indices = [text])
    (valid : env.settings = .ok settings) :
    (∀ i, Numeral.read text = some i → 0 ≤ i →
      ∀ args', Respelled text (Numeral.text i) args args' →
        ∀ backend : Except Failure (Backend σ),
          c.run m args' env backend = c.run m args env backend) ∧
    ∀ (b : Backend σ) (s : Sessions σ) (count : Int), ¬ c.LeftBlank options →
      s.busy b.id = false → (b.answer .start s.backends).result = .ok () →
      (b.answer .deviceCount (b.answer .start s.backends).state).result = .ok count →
      (∀ x refusal, (b.answer .shutdown x).result = .error refusal →
        ∃ reason, refusal = .declined reason) →
      Numeral.digitCount count ≤ Numeral.digitLimit → Denoteless text count →
      Rejected (c.run m args env (.ok b) s) := by
  refine ⟨fun i read positive args' respelled backend => ?_, ?_⟩
  · exact run_of_respelled accepted single (synonyms_text c.flags read positive) respelled
  · intro b s count filled idle started counted declines short denoteless
    obtain ⟨window, effective⟩ := window_of_not_leftBlank filled settings
    exact rejected_of_denoteless declines accepted valid effective idle started counted short
      single denoteless

/-- A blank and two digits of different scripts are the index 1; a text of two lines is none. -/
theorem odd_indices_taken_or_rejected :
    let b := Simulated.backend 0
    let s : Sessions Simulated :=
      { backends := { devices := [⟨"A", 0, 0, []⟩, ⟨"B", 0, 0, []⟩] } }
    let run (args : List String) := Command.listing.run ⟨"host", 0⟩ args {} (.ok b) s
    run ["-v", "1"] = run ["-v", " ٠1"] ∧ (run ["-v", "1"]).printed = ["1-B"] ∧
      Rejected (run ["1\n2"]) ∧ (run ["1\n2"]).printed =
        ["Error: Failed to resolve device '1\\n2': index is not an integer"] := by
  intro b s run
  have plain : Numeral.text 1 = "1" := by decide +kernel
  have valid : ({} : Environment).settings = .ok ⟨⟨1, 1, by decide⟩, true, .warning⟩ := rfl
  have accepted : Command.listing.options ["-v", " ٠1"] =
    .ok { verbose := true, indices := [" ٠1"] } := rfl
  have respelled : Respelled " ٠1" (Numeral.text 1) ["-v", " ٠1"] ["-v", "1"] :=
    plain ▸ .same "-v" (.other .nil)
  have same := (index_taken_or_rejected (σ := Simulated) (m := ⟨"host", 0⟩) accepted rfl valid).1
    1 (by decide) (by decide) _ respelled (.ok b)
  have broken : Command.listing.options ["1\n2"] = .ok { indices := ["1\n2"] } := rfl
  have declines := (Simulated.courteous_backend 0).declines .shutdown (by simp)
  have rejected := (index_taken_or_rejected (m := ⟨"host", 0⟩) broken rfl valid).2 b s 2
    (fun blank => Bool.false_ne_true blank.1) rfl rfl rfl declines (by decide +kernel) fun i read =>
      by cases (show Numeral.read "1\n2" = none by decide).symm.trans read
  exact ⟨congrFun same s, by decide +kernel, rejected, by decide +kernel⟩

/-- A `--` in the place of a number of samples is accepted beside an index, in a valid environment.
The index denotes no device, but the command ends in a fault before it opens a session, and does not
say so. -/
theorem blank_samples_reject_nothing :
    let s : Sessions Simulated := { backends := { devices := [⟨"A", 0, 0, []⟩] } }
    let b := Simulated.backend 0
    let out := Command.utilization.run ⟨"host", 0⟩ ["-n--", "x"] {} (.ok b) s
    Command.utilization.options ["-n--", "x"] = .ok { samples := .blank, indices := ["x"] } ∧
      ({} : Environment).settings = .ok ⟨⟨1, 1, by decide⟩, true, .warning⟩ ∧
      Denoteless "x" 1 ∧ (b.answer .start s.backends).result = .ok () ∧
      (b.answer .deviceCount (b.answer .start s.backends).state).result = .ok 1 ∧
      out.result = .error (.badWindow (.notAnInteger .count (.list []))) ∧ out.calls = [] ∧
      Console.output out.events = "" ∧ ¬ Rejected out := by
  intro s b out
  have nameless : Numeral.read "x" = none := by decide
  refine ⟨rfl, rfl, fun i read => ?_, rfl, rfl, rfl, rfl, rfl, fun rejected => ?_⟩
  · cases nameless.symm.trans read
  · cases rejected.status

end Command

end GpuTelemetry
