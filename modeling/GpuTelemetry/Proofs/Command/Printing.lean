import GpuTelemetry.Proofs.Collection.Gathering
import GpuTelemetry.Proofs.Command.Session
import GpuTelemetry.Proofs.Results
import GpuTelemetry.Proofs.Writing

/-!
# Printing while gathering

A run that gathers reports and a run that prints each of them as soon as it is there: both do the
same and end alike, and what the second one printed are the lines of the reports that the first one
gathered or, if it ended in a fault, of those that it had gathered until then (`Outcome.Tells`).
That takes reports that can all be written; at the first that cannot, the second run stops
(`Outcome.Stops`).

Main statements: `Command.tells_gather` and `Command.stops_gather`, on printing the reports of a
gathering one by one.
-/

namespace GpuTelemetry

variable {σ α β γ : Type}

/-- An outcome that tells the results of another one, a line for each: all of them, or those that
there were before a fault. -/
structure Outcome.Tells (line : β → String) (broken : List β → Fault → Prop)
    (plain : Outcome σ (List β)) (loud : Outcome σ γ) : Prop where
  acts : loud.acts = plain.acts
  state : loud.state = plain.state
  whole : ∀ results, plain.result = .ok results →
    loud.printed = results.map line ∧ ∃ last, loud.result = .ok last
  part : ∀ f, plain.result = .error f →
    loud.result = .error f ∧ ∃ before, broken before f ∧ loud.printed = before.map line

namespace Outcome.Tells

variable {line : β → String} {broken other : List β → Fault → Prop}

theorem mono {plain : Outcome σ (List β)} {loud : Outcome σ γ}
    (tells : Tells line broken plain loud) (wider : ∀ before f, broken before f → other before f) :
    Tells line other plain loud where
  acts := tells.acts
  state := tells.state
  whole := tells.whole
  part f failed := by
    obtain ⟨result, before, broke, printed⟩ := tells.part f failed
    exact ⟨result, before, wider before f broke, printed⟩

/-- A run that prints nothing may come first in both. -/
theorem bind {first : Run σ α} {s : σ} {plain : α → Run σ (List β)} {loud : α → Run σ γ}
    (quiet : (first s).printed = []) (stop : ∀ f, (first s).result = .error f → broken [] f)
    (rest : ∀ a, (first s).result = .ok a →
      Tells line broken (plain a (first s).state) (loud a (first s).state)) :
    Tells line broken ((first >>= plain) s) ((first >>= loud) s) := by
  rcases result : (first s).result with f | a
  · refine ⟨?_, ?_, ?_, ?_⟩
    · rw [Run.acts_bind_of_error _ result, Run.acts_bind_of_error _ result]
    · rw [Run.bind_of_error _ result, Run.bind_of_error _ result]
    · intro results given
      rw [Run.bind_of_error _ result] at given
      cases given
    · intro g failed
      rw [Run.bind_of_error _ result] at failed
      cases failed
      -- Both runs stop before a report is given or printed.
      refine ⟨by rw [Run.bind_of_error _ result], [], stop f result, ?_⟩
      rw [Run.printed_bind_of_error _ result, quiet]
      rfl
  · have tells := rest a result
    refine ⟨?_, ?_, ?_, ?_⟩
    · rw [Run.acts_bind_of_ok _ result, Run.acts_bind_of_ok _ result, tells.acts]
    · rw [Run.bind_of_ok _ result, Run.bind_of_ok _ result, tells.state]
    · intro results given
      rw [Run.bind_of_ok _ result] at given
      obtain ⟨printed, ended⟩ := tells.whole results given
      rw [Run.printed_bind_of_ok _ result, quiet, printed, Run.bind_of_ok _ result]
      exact ⟨rfl, ended⟩
    · intro f failed
      rw [Run.bind_of_ok _ result] at failed
      obtain ⟨ended, before, broke, printed⟩ := tells.part f failed
      refine ⟨?_, before, broke, ?_⟩
      · rw [Run.bind_of_ok _ result]
        exact ended
      · rw [Run.printed_bind_of_ok _ result, quiet, printed]
        rfl

/-- What the results are given for makes no difference. -/
theorem ending {δ : Type} {plain : Outcome σ (List β)} {loud : Run σ γ} {s : σ}
    (tells : Tells line broken plain (loud s)) (d : δ) :
    Tells line broken plain ((loud >>= fun _ => pure d) s) := by
  rcases result : (loud s).result with f | c
  · rw [Run.bind_of_error _ result]
    refine ⟨tells.acts, tells.state, fun results given => ?_, fun g failed => ?_⟩
    · -- Had the silent run given all, the loud one would not have ended in a fault.
      obtain ⟨_, last, ended⟩ := tells.whole results given
      rw [result] at ended
      cases ended
    · obtain ⟨ended, told⟩ := tells.part g failed
      rw [result] at ended
      cases ended
      exact ⟨rfl, told⟩
  · rw [Run.bind_of_ok _ result]
    simp only [Run.pure_apply, List.append_nil]
    refine ⟨tells.acts, tells.state, fun results given => ?_, fun g failed => ?_⟩
    · exact ⟨(tells.whole results given).1, d, rfl⟩
    · obtain ⟨ended, _⟩ := tells.part g failed
      rw [result] at ended
      cases ended

end Outcome.Tells

/-- An outcome that tells the first results of another one, a line for each, and then ends in a
fault of its own: until then it has done the same. -/
structure Outcome.Stops (line : β → String) (before : List β) (f : Fault) (plain : Outcome σ α)
    (loud : Outcome σ γ) : Prop where
  result : loud.result = .error f
  printed : loud.printed = before.map line
  acts : ∃ late, plain.acts = loud.acts ++ late

namespace Outcome.Stops

variable {δ : Type} {line : β → String} {before : List β} {f : Fault}

/-- A run that prints nothing may come first in both. -/
theorem bind {first : Run σ δ} {s : σ} {d : δ} {plain : δ → Run σ α} {loud : δ → Run σ γ}
    (quiet : (first s).printed = []) (given : (first s).result = .ok d)
    (rest : Stops line before f (plain d (first s).state) (loud d (first s).state)) :
    Stops line before f ((first >>= plain) s) ((first >>= loud) s) := by
  obtain ⟨result, printed, late, acts⟩ := rest
  refine ⟨?_, ?_, late, ?_⟩
  · rw [Run.bind_of_ok _ given]
    exact result
  · rw [Run.printed_bind_of_ok _ given, quiet, printed]
    rfl
  · rw [Run.acts_bind_of_ok _ given, Run.acts_bind_of_ok _ given, acts, List.append_assoc]

/-- Nothing comes behind a fault. -/
theorem ending {plain : Outcome σ α} {loud : Run σ γ} {s : σ}
    (stops : Stops line before f plain (loud s)) (next : γ → Run σ δ) :
    Stops line before f plain ((loud >>= next) s) := by
  rw [Run.bind_of_error _ stops.result]
  exact ⟨rfl, stops.printed, stops.acts⟩

end Outcome.Stops

namespace Run

variable {visit : α → Run σ β} {write : β → Except Fault String} {line : β → String} {a : α}
  {rest : List α} {s : σ} {b : β} {f : Fault}

/-- A visit that prints its result, if that can be written. -/
def printing (visit : α → Run σ β) (write : β → Except Fault String) (a : α) : Run σ Unit := do
  let b ← visit a
  print (← ofExcept (write b))

theorem printing_of_error (failed : (visit a s).result = .error f) :
    printing visit write a s = ⟨.error f, (visit a s).state, (visit a s).events⟩ :=
  bind_of_error _ failed

theorem printing_of_written {text : String} (gave : (visit a s).result = .ok b)
    (written : write b = .ok text) :
    printing visit write a s =
      ⟨.ok (), (visit a s).state, (visit a s).events ++ [.print text]⟩ := by
  unfold printing
  rw [bind_of_ok _ gave, written]
  rfl

theorem printing_of_unwritten (gave : (visit a s).result = .ok b) (fails : write b = .error f) :
    printing visit write a s = ⟨.error f, (visit a s).state, (visit a s).events⟩ := by
  unfold printing
  rw [bind_of_ok _ gave, fails]
  exact congrArg (Outcome.mk _ _) (List.append_nil _)

theorem acts_each_cons_of_ok (rest : List α) (gave : (visit a s).result = .ok b) :
    (each visit (a :: rest) s).acts =
      (visit a s).acts ++ (each visit rest (visit a s).state).acts := by
  rw [each_cons_of_ok rest gave]
  exact List.filter_append ..

/-- A text that is printed behind a silent visit comes before all that is printed later. -/
theorem printed_behind (quiet : (visit a s).printed = []) (text : String) (later : List Event) :
    ((visit a s).events ++ [Event.print text] ++ later).filterMap Event.print? =
      text :: later.filterMap Event.print? := by
  have silent : (visit a s).events.filterMap Event.print? = [] := quiet
  rw [List.filterMap_append, List.filterMap_append, silent]
  rfl

/-- Visits that print their results one by one tell what the silent visits give, as long as all
results that are taken can be written. -/
theorem tells_each (quiet : ∀ a s, (visit a s).printed = []) (items : List α) (s : σ)
    (well : ∀ b ∈ taken visit items s, write b = .ok (line b)) :
    Outcome.Tells line (Breaks visit s items) (each visit items s)
      (each (printing visit write) items s) := by
  induction items generalizing s with
  | nil =>
      refine ⟨rfl, rfl, ?_, nofun⟩
      intro results given
      cases given
      exact ⟨rfl, [], rfl⟩
  | cons a rest ih =>
      rcases result : (visit a s).result with f | b
      · have loud : printing visit write a s = _ := printing_of_error result
        have failed : (printing visit write a s).result = .error f := by rw [loud]
        rw [each_cons_of_error rest result, each_cons_of_error rest failed, loud]
        refine ⟨rfl, rfl, nofun, ?_⟩
        intro g same
        cases same
        -- The first visit fails, so there is nothing to be printed.
        exact ⟨rfl, [], .here result, quiet a s⟩
      · rw [taken_cons_of_ok result, List.forall_mem_cons] at well
        have loud := printing_of_written result well.1
        have gave : (printing visit write a s).result = .ok () := by rw [loud]
        rw [each_cons_of_ok rest result, each_cons_of_ok rest gave, loud]
        obtain ⟨acts, state, whole, part⟩ := ih (visit a s).state well.2
        -- The line of the first result comes ahead of those of the others.
        have told := printed_behind (quiet a s) (line b)
        refine ⟨?_, state, ?_, ?_⟩
        · simpa [Outcome.acts, Event.isAct] using acts
        · intro results given
          obtain ⟨bs, others, rfl⟩ := map_eq_ok given
          obtain ⟨printed, last, ended⟩ := whole bs others
          refine ⟨(told _).trans (congrArg (line b :: ·) printed), () :: last, ?_⟩
          rw [ended]
          rfl
        · intro f failed
          obtain ⟨ended, before, broke, printed⟩ := part _ (map_eq_error failed)
          refine ⟨?_, b :: before, .later result broke, ?_⟩
          · rw [ended]
            rfl
          · exact (told _).trans (congrArg (line b :: ·) printed)

/-- Visits that print their results one by one stop at the first result that cannot be written. They
have printed those before it, and have done what the silent visits do until then. -/
theorem stops_each (quiet : ∀ a s, (visit a s).printed = []) {items : List α} {s : σ}
    {before behind : List β} (split : taken visit items s = before ++ b :: behind)
    (well : ∀ c ∈ before, write c = .ok (line c)) (fails : write b = .error f) :
    Outcome.Stops line before f (each visit items s) (each (printing visit write) items s) := by
  induction items generalizing s before with
  | nil => exact absurd split.symm (List.append_ne_nil_of_right_ne_nil _ (List.cons_ne_nil _ _))
  | cons a rest ih =>
      rcases result : (visit a s).result with g | c
      · rw [taken_cons_of_error result] at split
        exact absurd split.symm (List.append_ne_nil_of_right_ne_nil _ (List.cons_ne_nil _ _))
      · rw [taken_cons_of_ok result] at split
        have acts := acts_each_cons_of_ok rest result
        cases before with
        | nil =>
            obtain ⟨rfl, -⟩ := List.cons.inj split
            have loud := printing_of_unwritten result fails
            have failed : (printing visit write a s).result = .error f := by rw [loud]
            rw [each_cons_of_error rest failed, loud]
            -- The silent visits go on, and what they still do is left out here.
            exact ⟨rfl, quiet a s, _, acts⟩
        | cons d before =>
            obtain ⟨rfl, later⟩ := List.cons.inj split
            obtain ⟨first, others⟩ := List.forall_mem_cons.mp well
            have loud := printing_of_written result first
            have gave : (printing visit write a s).result = .ok () := by rw [loud]
            obtain ⟨ended, printed, late, behindActs⟩ := ih later others
            rw [each_cons_of_ok rest gave, loud]
            refine ⟨?_, ?_, late, ?_⟩
            · show Except.map _ (each (printing visit write) rest (visit a s).state).result = _
              rw [ended]
              rfl
            · exact (printed_behind (quiet a s) (line c) _).trans
                (congrArg (line c :: ·) printed)
            · rw [acts, behindActs]
              simp [Outcome.acts, Event.isAct]

end Run

/-! ## Gathering -/

namespace Command

open Session (Stranded)

variable {h : Session σ} {window : Window} {advance : Bool} {metric : Metric}
  {pick : Int → Run (Sessions σ) Indices}

/-- Gathers reports and prints each of them as soon as it is there. -/
def printGathered (h : Session σ) (window : Window) (advance : Bool) (metric : Metric)
    (pick : Int → Run (Sessions σ) Indices) : Run (Sessions σ) Unit := do
  let count ← h.countDevices
  let indices ← pick count
  let _ ← indices.visit (printReport h ⟨h, window, advance⟩ metric count)
  return ()

theorem printed_report (window : Window) (advance : Bool) (metric : Metric) (count index : Int)
    (t : Sessions σ) : (h.report ⟨h, window, advance⟩ metric count index t).printed = [] :=
  (h.quiet_visit metric count index).report.printed t

/-- Printing the reports of a gathering one by one tells what the gathering gives, if all reports
that are taken can be written. -/
theorem tells_gather (quiet : ∀ count, (pick count).Obeys .quiet fun _ => True) {s : Sessions σ}
    (short : ∀ r ∈ h.taken window advance metric pick s, r.Short) :
    Outcome.Tells Report.line (Stranded h window advance metric pick s)
      (h.gather window advance metric pick s) (printGathered h window advance metric pick s) := by
  refine .bind (h.quiet_countDevices.printed s) (fun f => .uncounted) fun count counted => ?_
  refine .bind ((quiet count).printed _) (fun f => .unpicked counted) fun indices picked => ?_
  rw [Session.taken_of_picked counted picked] at short
  have visits := Run.tells_each (printed_report (h := h) window advance metric count)
    indices.toList (pick count (h.countDevices s).state).state
    fun r member => Report.write_of_short (short r member)
  rw [Indices.visit_eq_each, Indices.visit_eq_each]
  exact (visits.mono fun _ _ => Stranded.visiting counted picked).ending ()

/-- It stops at the first report that cannot be written, behind the lines of those before it. -/
theorem stops_gather (quiet : ∀ count, (pick count).Obeys .quiet fun _ => True) {s : Sessions σ}
    {before behind : List Report} {r : Report} {f : Fault}
    (split : h.taken window advance metric pick s = before ++ r :: behind)
    (short : ∀ other ∈ before, other.Short) (fails : r.write = .error f) :
    Outcome.Stops Report.line before f (h.gather window advance metric pick s)
      (printGathered h window advance metric pick s) := by
  -- If a report is taken at all, the devices were counted and indices picked.
  have some : h.taken window advance metric pick s ≠ [] := by
    rw [split]
    simp
  obtain ⟨count, indices, counted, picked⟩ := Session.exists_picked_of_taken some
  rw [Session.taken_of_picked counted picked] at split
  refine .bind (h.quiet_countDevices.printed s) counted ?_
  refine .bind ((quiet count).printed _) picked ?_
  rw [Indices.visit_eq_each, Indices.visit_eq_each]
  exact (Run.stops_each (printed_report (h := h) window advance metric count) split
    (fun other member => Report.write_of_short (short other member)) fails).ending _

end Command

end GpuTelemetry
