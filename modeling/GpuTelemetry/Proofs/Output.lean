import GpuTelemetry.Console
import GpuTelemetry.Proofs.Calls

/-!
# What a run does and what it prints

Two views on the events of a run. Its *acts* are its calls of backends and its pauses, in the order
in which they happened; what it *printed* are the texts that it wrote to the standard output. Notes
and complaints are neither.

Two runs with the same acts make the same calls with the same arguments and pause in the same
places. `Console.output_events` says that what was printed is all there is on the standard output.
-/

namespace GpuTelemetry

variable {σ α β : Type}

/-- A call or a pause, as opposed to words of any kind. -/
def Event.isAct : Event → Bool
  | .call .. | .pause _ => true
  | .note _ | .showNotes _ | .print _ | .complain _ => false

/-- The text that an event writes to the standard output. -/
def Event.print? : Event → Option String
  | .print text => some text
  | _ => none

/-- The calls and the pauses of a run, in order. -/
def Outcome.acts (o : Outcome σ α) : List Event :=
  o.events.filter (·.isAct)

/-- The texts that a run wrote to the standard output, in order. -/
def Outcome.printed (o : Outcome σ α) : List String :=
  o.events.filterMap (·.print?)

/-- Two outcomes that differ in nothing but notes and complaints. -/
structure Outcome.Alike (o p : Outcome σ α) : Prop where
  acts : o.acts = p.acts
  state : o.state = p.state
  printed : o.printed = p.printed
  result : o.result = p.result

theorem Outcome.Alike.refl (o : Outcome σ α) : o.Alike o := ⟨rfl, rfl, rfl, rfl⟩

theorem Outcome.Alike.symm {o p : Outcome σ α} (alike : o.Alike p) : p.Alike o :=
  ⟨alike.acts.symm, alike.state.symm, alike.printed.symm, alike.result.symm⟩

theorem Outcome.Alike.trans {o p q : Outcome σ α} (one : o.Alike p) (two : p.Alike q) : o.Alike q :=
  ⟨one.acts.trans two.acts, one.state.trans two.state, one.printed.trans two.printed,
    one.result.trans two.result⟩

/-- The calls of a run are among its acts. -/
theorem Outcome.calls_of_acts (o : Outcome σ α) : o.calls = callsOf o.acts := by
  unfold Outcome.calls Outcome.acts
  induction o.events with
  | nil => rfl
  | cons event rest ih =>
      cases event with
      | call session backend request answered => exact congrArg (_ :: ·) ih
      | pause seconds => exact ih
      | _ => exact ih

/-- Texts with a line feed behind each. -/
def Console.lines (texts : List String) : String :=
  String.join (texts.map (· ++ "\n"))

/-- The standard output holds what was printed, a line feed behind each text, and nothing else. -/
theorem Console.output_events (o : Outcome σ α) :
    Console.output o.events = Console.lines o.printed := by
  unfold Console.output Console.lines Outcome.printed
  induction o.events with
  | nil => rfl
  | cons event rest ih =>
      cases event <;> simp [outputOf, Event.print?, String.join_cons, ih]

namespace Run

variable {first : Run σ α} {s : σ} {a : α} {f : Fault}

theorem acts_bind_of_ok (next : α → Run σ β) (given : (first s).result = .ok a) :
    ((first >>= next) s).acts = (first s).acts ++ (next a (first s).state).acts := by
  simp [Outcome.acts, bind_of_ok next given]

theorem acts_bind_of_error (next : α → Run σ β) (given : (first s).result = .error f) :
    ((first >>= next) s).acts = (first s).acts := by
  simp [Outcome.acts, bind_of_error next given]

theorem printed_bind_of_ok (next : α → Run σ β) (given : (first s).result = .ok a) :
    ((first >>= next) s).printed = (first s).printed ++ (next a (first s).state).printed := by
  simp [Outcome.printed, bind_of_ok next given]

theorem printed_bind_of_error (next : α → Run σ β) (given : (first s).result = .error f) :
    ((first >>= next) s).printed = (first s).printed := by
  simp [Outcome.printed, bind_of_error next given]

theorem acts_ensuring (body : Run σ α) (cleanup : Run σ Unit) (s : σ) :
    (ensuring body cleanup s).acts = (body s).acts ++ (cleanup (body s).state).acts := by
  simp [Outcome.acts, events_ensuring]

theorem printed_ensuring (body : Run σ α) (cleanup : Run σ Unit) (s : σ) :
    (ensuring body cleanup s).printed =
      (body s).printed ++ (cleanup (body s).state).printed := by
  simp [Outcome.printed, events_ensuring]

/-- A note that is left first makes no difference. -/
theorem alike_bind {next : α → Run σ β} {o : Outcome σ β} (given : (first s).result = .ok a)
    (state : (first s).state = s) (acts : (first s).acts = []) (printed : (first s).printed = [])
    (rest : (next a s).Alike o) : ((first >>= next) s).Alike o := by
  refine Outcome.Alike.trans ⟨?_, ?_, ?_, ?_⟩ rest
  · rw [acts_bind_of_ok next given, acts, state, List.nil_append]
  · rw [bind_of_ok next given, state]
  · rw [printed_bind_of_ok next given, printed, state, List.nil_append]
  · rw [bind_of_ok next given, state]

end Run

end GpuTelemetry
