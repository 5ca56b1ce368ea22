import GpuTelemetry.Proofs.Command.Statuses
import GpuTelemetry.Proofs.Session.Bulk

/-!
# Listing the devices

A listing without an index looks up all devices with the number of them known, one after the other,
and prints each of them as soon as it is found. It thus prints what looking up all devices in one go
gives, or what this has found before it ends in a fault (`Listed`).

Main statement: `bulk_agrees`, on all ways to look up more than one device.
-/

namespace GpuTelemetry

variable {σ : Type}

namespace Command

open Session (launched landed upcoming)

variable {h : Session σ} {s s₀ : Sessions σ} {count : Int}

/-- A listing without an index, with accepted arguments and valid settings, that opens a given
session. -/
structure Lists (h : Session σ) (s : Sessions σ) (args : List String) (env : Environment)
    (s₀ : Sessions σ) : Prop where
  accepted : ∃ options, Command.listing.options args = .ok options ∧ options.indices = []
  valid : ∃ settings, env.settings = .ok settings
  made : upcoming h.backend s₀ = h
  opened : (launched h.backend s₀).result = .ok ()
  state : (launched h.backend s₀).state = s

/-- What a listing makes of looking up all devices in its session: between the start and the end of
the session it makes the same calls, and it prints the devices that were found, a line for each, and
behind them the failure, if that was the end. -/
structure Listed (h : Session σ) (s s₀ : Sessions σ) (found : List Device) (stop? : Option Fault)
    (out : Outcome (Sessions σ) ExitStatus) : Prop where
  calls : out.calls = (launched h.backend s₀).calls ++ (h.resolveAll s).calls ++
    (landed h.backend s₀ (h.resolveAll s).state).calls
  printed : Console.output out.events =
    Console.lines (found.map Device.line ++ lastWords (inOne found stop?))
  result : out.result = (landed h.backend s₀ (h.resolveAll s).state).result.bind fun _ =>
    settled ((inOne found stop?).map fun _ => .success)

/-- What a listing without an index does in its session. -/
def listAll (h : Session σ) : Run (Sessions σ) ExitStatus := do
  let count ← h.countDevices
  let indices ← chosen count []
  let _ ← indices.visit (printDevice h count)
  return .success

theorem body_of_listing {options : Options} (none : options.indices = []) (m : Machine)
    (window : Window) (advance : Bool) :
    Command.listing.body m options window advance h = listAll h := by
  unfold body
  rw [none]
  rfl

/-- Looking up a device prints nothing. -/
theorem printed_resolve (index : Int) (t : Sessions σ) :
    (h.resolve index (some count) t).printed = [] := by
  rw [Session.resolve_of_given]
  exact (h.quiet_visit .power count index).resolveBelow.printed t

/-- The line of a device among so many that they can be listed can be written. -/
theorem write_of_resolve (room : count < listLimit) {index : Int} {t : Sessions σ} {d : Device}
    (found : (h.resolve index (some count) t).result = .ok d) : d.write = .ok d.line := by
  rw [Session.resolve_of_given] at found
  obtain ⟨low, high, same, _⟩ := Session.device_of_resolveBelow found
  unfold listLimit at room
  exact Device.write_of_short (Numeral.digitCount_le_of_word (by omega))

/-- A listing tells what looking up all devices gives. -/
theorem tells_resolveAll (isOpen : s.phase h.id = .opened) (room : count < listLimit)
    (steady : ∀ n, h.CountsTo count (h.passed count s n)) :
    Outcome.Tells Device.line (fun before f => h.Bulk s count before (some f)) (h.resolveAll s)
      (listAll h s) := by
  have counts : h.CountsTo count s := steady 0
  obtain ⟨result, state, _⟩ := Session.countDevices_of_opened isOpen
  rw [counts.result] at result
  rw [counts.asked] at state
  refine .bind (h.quiet_countDevices.printed s) (fun f failed => ?_) fun n counted => ?_
  · cases result.symm.trans failed
  · cases result.symm.trans counted
    have whole : Denote [] none := rfl
    have chooses : (chosen count [] : Run (Sessions σ) Indices) = pure (.below count) :=
      chosen_of_denote whole room
    rw [state, chooses, pure_bind, Session.visit_below, Session.visit_below]
    have silent : ∀ (i : Nat) t, (h.resolve i (some count) t).printed = [] := fun i t =>
      printed_resolve i t
    have tells := Run.tells_each silent (List.range count.toNat) s fun d member => by
      obtain ⟨i, _, t, found⟩ := Run.mem_taken member
      exact write_of_resolve room found
    simp only [Session.resolve_of_given] at tells
    refine (tells.mono fun before f breaks => ?_).ending _
    refine Session.bulk_of_breaks isOpen steady ?_
    simp only [Session.resolve_of_given]
    exact breaks

/-- A listing that ends well ends in success. -/
theorem success_of_listAll {status : ExitStatus} (ended : (listAll h s).result = .ok status) :
    status = .success := by
  have body : (Command.listing.body ⟨"", 0⟩ {} .single true h s).result = .ok status := by
    rw [body_of_listing rfl]
    exact ended
  exact success_of_body body

/-- What a listing does in its session, for what looking up all devices gives. -/
structure Lines (h : Session σ) (s : Sessions σ) (found : List Device) (stop? : Option Fault) :
    Prop where
  acts : (listAll h s).acts = (h.resolveAll s).acts
  state : (listAll h s).state = (h.resolveAll s).state
  printed : (listAll h s).printed = found.map Device.line
  result : (listAll h s).result = (inOne found stop?).map fun _ => .success

theorem exists_lines (isOpen : s.phase h.id = .opened) (room : count < listLimit)
    (steady : ∀ n, h.CountsTo count (h.passed count s n)) :
    ∃ found stop?, h.Bulk s count found stop? ∧ Lines h s found stop? := by
  have tells := tells_resolveAll isOpen room steady
  obtain ⟨result, _⟩ := Session.resolveAll_of_steady isOpen steady
  rcases gave : (h.resolveAll s).result with f | found
  · obtain ⟨ended, before, bulk, printed⟩ := tells.part f gave
    exact ⟨before, some f, bulk, tells.acts, tells.state, printed, ended⟩
  · obtain ⟨printed, status, ended⟩ := tells.whole found gave
    cases success_of_listAll ended
    exact ⟨found, none, Session.bulk_of_ok isOpen steady (result ▸ gave), tells.acts, tells.state,
      printed, ended⟩

/-- The last words of a listing are those of looking up all devices. -/
theorem lastWords_inOne (found : List Device) (stop? : Option Fault) :
    lastWords ((inOne found stop?).map fun _ => ExitStatus.success) =
      lastWords (inOne found stop?) := by
  cases stop? with
  | none => rfl
  | some f => cases f <;> rfl

/-- A listing ends by what it does in its session. -/
theorem listed_of_lines {m : Machine} {args : List String} {env : Environment}
    {found : List Device} {stop? : Option Fault} (lists : Lists h s args env s₀)
    (lines : Lines h s found stop?) :
    Listed h s s₀ found stop? (Command.listing.run m args env (.ok h.backend) s₀) := by
  obtain ⟨options, accepted, none⟩ := lists.accepted
  obtain ⟨settings, valid⟩ := lists.valid
  have alike : (Command.listing.run m args env (.ok h.backend) s₀).Alike
      (inSession (.ok h.backend)
        (Command.listing.body m options settings.window settings.advance) s₀) :=
    run_of_accepted accepted valid rfl s₀
  have ends := ends_inSession (Command.listing.body m options settings.window settings.advance)
    lists.opened
  rw [lists.made, lists.state, body_of_listing none] at ends
  refine ⟨?_, ?_, ?_⟩
  · rw [Outcome.calls_of_acts, alike.acts, ← Outcome.calls_of_acts, ends.calls, lines.state,
      Outcome.calls_of_acts (h.resolveAll s), ← lines.acts, ← Outcome.calls_of_acts]
  · rw [Console.output_events, alike.printed, ends.printed, lines.printed, lines.result,
      lastWords_inOne]
  · rw [alike.result, ends.result, lines.state, lines.result]

/-- On an open session whose devices can be counted, to a number of 32 bits, all ways to look up
devices agree, if looking up has no effect on the backend or if at least the count stays the same.
With a known number, an index is looked up as without it, but for the request for the number.
Looking up all devices gives what single look-ups give, up to the first index at which one of them
fails, and nothing is asked about any index behind it. A listing without an index that opens this
session prints the devices found, and then the failure, if there is one. -/
theorem bulk_agrees (isOpen : s.phase h.id = .opened) (bits : 0 ≤ count ∧ count < 0x100000000)
    (counted : (h.backend.answer .deviceCount s.backends).result = .ok count)
    (steady : h.backend.Still ∨ ∀ n, h.CountsTo count (h.passed count s n)) :
    (h.backend.Still → ∀ n, h.passed count s n = s) ∧
      (∀ n index, h.Precounted (h.passed count s n) count index) ∧
      ∃ found stop?, h.Bulk s count found stop? ∧
        ∀ m args env s₀, Lists h s args env s₀ →
          Listed h s s₀ found stop? (Command.listing.run m args env (.ok h.backend) s₀) := by
  have counts : ∀ n, h.CountsTo count (h.passed count s n) := by
    rcases steady with still | counts
    · exact Session.steady_of_still still isOpen counted
    · exact counts
  refine ⟨fun still => Session.passed_of_still still isOpen, fun n index => ?_, ?_⟩
  · refine Session.precounted ?_ (counts n) index
    rw [Session.phase_passed]
    exact isOpen
  · obtain ⟨found, stop?, bulk, lines⟩ := exists_lines isOpen bits.2 counts
    exact ⟨found, stop?, bulk, fun m args env s₀ lists => listed_of_lines lists lines⟩

/-- Of three simulated devices the second has no name. All of them in one go and a listing of them
both end there, and neither asks for the third. -/
theorem nameless_device_ends_listing :
    let b := Simulated.backend 0
    let s₀ : Sessions Simulated :=
      { backends := { devices := [⟨"A", 0, 0, []⟩, ⟨"", 0, 0, []⟩, ⟨"C", 0, 0, []⟩] } }
    let h := upcoming b s₀
    let s := (launched b s₀).state
    let out := Command.listing.run ⟨"host", 0⟩ [] {} (.ok b) s₀
    s.phase h.id = .opened ∧ h.backend.Still ∧
      (h.backend.answer .deviceCount s.backends).result = .ok 3 ∧ Lists h s [] {} s₀ ∧
      (∃ found stop?, h.Bulk s 3 found stop? ∧ Listed h s s₀ found stop? out) ∧
      (h.resolveAll s).calls.map (·.request) =
        [.deviceCount, .handleAt 0, .nameOf (.slot 0), .handleAt 1, .nameOf (.slot 1)] ∧
      out.printed =
        ["0-A", "Error: Failed to get name of device 1: backend returned an empty name"] := by
  intro b s₀ h s out
  have isOpen : s.phase h.id = .opened := rfl
  have still : h.backend.Still := Simulated.still_backend 0
  have counted : (h.backend.answer .deviceCount s.backends).result = .ok 3 := rfl
  have lists : Lists h s [] {} s₀ := ⟨⟨{}, rfl, rfl⟩, ⟨_, rfl⟩, rfl, rfl, rfl⟩
  obtain ⟨_, _, found, stop?, bulk, listed⟩ :=
    bulk_agrees isOpen ⟨by decide, by decide⟩ counted (.inl still)
  exact ⟨isOpen, still, counted, lists, ⟨found, stop?, bulk, listed ⟨"host", 0⟩ [] {} s₀ lists⟩,
    by decide +kernel, by decide +kernel⟩

end Command

end GpuTelemetry
