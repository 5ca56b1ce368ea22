import GpuTelemetry.Proofs.Collection.Course
import GpuTelemetry.Proofs.Results
import GpuTelemetry.Proofs.Session.Lookup
import GpuTelemetry.Proofs.Session.Parts

/-!
# Gathering reports

What collections and commands have in common: the devices are counted, indices are picked and a
report is taken for each (`Session.gather`). A gathering that ends in a fault has taken the reports
of the indices before the one that could not be visited (`Session.Stranded`).

A gathering obeys every discipline that allows its requests (`Session.obeys_gather`). One of them is
to print nothing, as long as nothing is printed when indices are picked (`Session.quiet_gather`).
-/

namespace GpuTelemetry

variable {σ α β : Type}

namespace Run

/-- Visits of items that end in a fault: those of the first items gave results, the next one did
not. -/
inductive Breaks (visit : α → Run σ β) : σ → List α → List β → Fault → Prop
  | here {s : σ} {a : α} {rest : List α} {f : Fault} (failed : (visit a s).result = .error f) :
      Breaks visit s (a :: rest) [] f
  | later {s : σ} {a : α} {rest : List α} {b : β} {before : List β} {f : Fault}
      (gave : (visit a s).result = .ok b) (behind : Breaks visit (visit a s).state rest before f) :
      Breaks visit s (a :: rest) (b :: before) f

/-- The results of visits of items: all of them, or those that there are before a fault. -/
def taken (visit : α → Run σ β) : List α → σ → List β
  | [], _ => []
  | a :: rest, s =>
    match (visit a s).result with
    | .ok b => b :: taken visit rest (visit a s).state
    | .error _ => []

variable {visit : α → Run σ β} {a : α} {rest : List α} {s : σ}

theorem taken_cons_of_ok {b : β} (gave : (visit a s).result = .ok b) :
    taken visit (a :: rest) s = b :: taken visit rest (visit a s).state := by
  simp [taken, gave]

theorem taken_cons_of_error {f : Fault} (failed : (visit a s).result = .error f) :
    taken visit (a :: rest) s = [] := by
  simp [taken, failed]

/-- Whatever is taken was given by a visit of one of the items. -/
theorem mem_taken {items : List α} {b : β} (member : b ∈ taken visit items s) :
    ∃ a ∈ items, ∃ t, (visit a t).result = .ok b := by
  induction items generalizing s with
  | nil => cases member
  | cons a rest ih =>
      rcases result : (visit a s).result with f | first
      · rw [taken_cons_of_error result] at member
        cases member
      · rw [taken_cons_of_ok result] at member
        rcases List.mem_cons.mp member with rfl | later
        · exact ⟨a, List.mem_cons_self, s, result⟩
        · obtain ⟨c, among, t, gave⟩ := ih later
          exact ⟨c, List.mem_cons_of_mem a among, t, gave⟩

/-- Visits that end well have taken what they give. -/
theorem taken_of_ok {items : List α} {results : List β}
    (given : (each visit items s).result = .ok results) : taken visit items s = results := by
  induction items generalizing s results with
  | nil =>
      cases given
      rfl
  | cons a rest ih =>
      rcases result : (visit a s).result with f | b
      · rw [each_cons_of_error rest result] at given
        cases given
      · rw [each_cons_of_ok rest result] at given
        obtain ⟨others, later, same⟩ := map_eq_ok given
        rw [taken_cons_of_ok result, ih later, same]

end Run

namespace Session

open Run (Obeys)

/-- Counts the devices, picks indices and takes a report of each. -/
def gather (h : Session σ) (window : Window) (advance : Bool) (metric : Metric)
    (pick : Int → Run (Sessions σ) Indices) : Run (Sessions σ) (List Report) := do
  let count ← h.countDevices
  let indices ← pick count
  indices.visit (h.report ⟨h, window, advance⟩ metric count)

/-- A collection is a gathering in a session of its own. -/
theorem collect_eq_within (b : Backend σ) (metric : Metric) (index? : Option Int)
    (window? : Option Window) (advance : Bool) :
    collect b metric index? window? advance =
      within b fun h => h.gather (window?.getD .single) advance metric fun count =>
        pure (.orBelow (index?.map ([·])) count) := by
  simp [collect, gather]

/-- The reports that a gathering takes: all of them, or those that there are before a fault. -/
def taken (h : Session σ) (window : Window) (advance : Bool) (metric : Metric)
    (pick : Int → Run (Sessions σ) Indices) (s : Sessions σ) : List Report :=
  match (h.countDevices s).result with
  | .error _ => []
  | .ok count =>
    match (pick count (h.countDevices s).state).result with
    | .error _ => []
    | .ok indices => Run.taken (h.report ⟨h, window, advance⟩ metric count) indices.toList
        (pick count (h.countDevices s).state).state

section Taken

variable {h : Session σ} {window : Window} {advance : Bool} {metric : Metric}
  {pick : Int → Run (Sessions σ) Indices} {s : Sessions σ}

theorem taken_of_picked {count : Int} {indices : Indices}
    (counted : (h.countDevices s).result = .ok count)
    (picked : (pick count (h.countDevices s).state).result = .ok indices) :
    h.taken window advance metric pick s =
      Run.taken (h.report ⟨h, window, advance⟩ metric count) indices.toList
        (pick count (h.countDevices s).state).state := by
  simp [taken, counted, picked]

/-- Reports are only taken once the devices have been counted and indices have been picked. -/
theorem exists_picked_of_taken (some : h.taken window advance metric pick s ≠ []) :
    ∃ count indices, (h.countDevices s).result = .ok count ∧
      (pick count (h.countDevices s).state).result = .ok indices := by
  unfold taken at some
  split at some
  · exact absurd rfl some
  · rename_i count counted
    split at some
    · exact absurd rfl some
    · rename_i indices picked
      exact ⟨count, indices, counted, picked⟩

/-- A gathering that ends well has taken what it gives. -/
theorem taken_of_gathered {reports : List Report}
    (gathered : (h.gather window advance metric pick s).result = .ok reports) :
    h.taken window advance metric pick s = reports := by
  obtain ⟨count, counted, gathered⟩ := Run.results_of_bind gathered
  obtain ⟨indices, picked, gathered⟩ := Run.results_of_bind gathered
  rw [Indices.visit_eq_each] at gathered
  rw [taken_of_picked counted picked]
  exact Run.taken_of_ok gathered

/-- Without an open session no report is taken. -/
theorem taken_of_unopened {b : Backend σ} {f : Fault} (refused : (launched b s).result = .error f)
    (window : Window) (advance : Bool) (metric : Metric)
    (pick : Int → Run (Sessions σ) Indices) :
    (upcoming b s).taken window advance metric pick (launched b s).state = [] := by
  unfold taken
  rw [countDevices_of_not_opened (shut_of_launched refused)]

end Taken

/-- The reports that a gathering has taken when it ends in a fault. -/
inductive Stranded (h : Session σ) (window : Window) (advance : Bool) (metric : Metric)
    (pick : Int → Run (Sessions σ) Indices) (s : Sessions σ) : List Report → Fault → Prop
  | uncounted {f : Fault} (failed : (h.countDevices s).result = .error f) :
      Stranded h window advance metric pick s [] f
  | unpicked {count : Int} {f : Fault} (counted : (h.countDevices s).result = .ok count)
      (failed : (pick count (h.countDevices s).state).result = .error f) :
      Stranded h window advance metric pick s [] f
  /-- The reports taken are those of the indices before the one that could not be visited. -/
  | visiting {count : Int} {indices : Indices} {before : List Report} {f : Fault}
      (counted : (h.countDevices s).result = .ok count)
      (picked : (pick count (h.countDevices s).state).result = .ok indices)
      (breaks : Run.Breaks (h.report ⟨h, window, advance⟩ metric count)
        (pick count (h.countDevices s).state).state indices.toList before f) :
      Stranded h window advance metric pick s before f

/-! ## Disciplines of a gathering -/

variable {h : Session σ} {window : Window} {advance : Bool} {metric : Metric}
  {pick : Int → Run (Sessions σ) Indices} {d : Discipline (Sessions σ)}

theorem obeys_countDevices {counted : Int → Prop} (note : ∀ n, d.event (.note n))
    (counts : h.AsksWithin d .deviceCount counted) : h.countDevices.Obeys d counted := by
  refine Obeys.bind (counts .countFailed nofun) fun count known => ?_
  exact Obeys.bind (.emit (note _)) fun _ _ => .pure known

/-- A gathering obeys what its requests and the picking of its indices obey. Each report that is
taken has the label of the metric. -/
theorem obeys_gather {issued : Int → Native → Prop} {counted : Int → Prop}
    {picked : Int → Int → Prop} (note : ∀ n, d.event (.note n))
    (counts : h.AsksWithin d .deviceCount counted)
    (picks : ∀ count,
      (pick count).Obeys d fun indices => ∀ index ∈ indices.toList, picked count index)
    (visits : ∀ count index, counted count → picked count index →
      d.AllowsVisit h metric count index (issued index)) :
    (h.gather window advance metric pick).Obeys d fun reports =>
      ∀ r ∈ reports, r.label = metric.label := by
  refine (obeys_countDevices note counts).bind fun count known => ?_
  refine (picks count).bind fun indices those => ?_
  rw [Indices.visit_eq_each]
  exact Obeys.each fun index member =>
    (visits count index known (those index member)).report.mono fun _ told => told.2

end Session

/-! ## Silence -/

/-- The discipline of a gathering without output: it prints nothing, and its failures are not those
of a backend that is unavailable. -/
def Discipline.quiet : Discipline σ :=
  .wordless fun f => ∀ g, f = .failed g → g.kind ≠ .unavailable

namespace Session

open Run (Obeys)

theorem quiet_ask (h : Session σ) (request : Request) :
    h.AsksWithin .quiet request fun _ => True := by
  intro failure available
  refine Obeys.orFail ?_ fun reason g same => ?_
  · refine Obeys.bind (Q := fun _ => True) ?_ fun _ _ => ?_
    · refine Obeys.bind (Q := fun _ => True) .look fun phase _ => ?_
      split
      · exact .pure trivial
      · exact .fault (.inl nofun)
    · refine (wordless_ask h.backend _ request).widen ?_
      rintro f ⟨refusal, rfl⟩
      exact .inl nofun
  · cases same
    exact available reason

theorem quiet_visit (h : Session σ) (metric : Metric) (count index : Int) :
    Discipline.quiet.AllowsVisit h metric count index fun _ => True where
  note _ := rfl
  pause _ := rfl
  failure f available g same := by
    cases same
    exact available
  missing _ g same := by
    rcases missing_cases index count with named | ⟨n, _, unnamed⟩
    · rw [named] at same
      cases same
      nofun
    · -- What cannot be named is no failure at all.
      rw [unnamed] at same
      cases same
  handle := h.quiet_ask _
  device request _ _ _ _ := h.quiet_ask request

theorem quiet_countDevices (h : Session σ) : h.countDevices.Obeys .quiet fun _ => True :=
  obeys_countDevices (fun _ => rfl) (h.quiet_ask .deviceCount)

/-- A gathering prints nothing, does not fail as unavailable, and gives reports of its metric. -/
theorem quiet_gather {h : Session σ} {window : Window} {advance : Bool} {metric : Metric}
    {pick : Int → Run (Sessions σ) Indices}
    (quiet : ∀ count, (pick count).Obeys .quiet fun _ => True) :
    (h.gather window advance metric pick).Obeys .quiet fun reports =>
      ∀ r ∈ reports, r.label = metric.label := by
  have picks : ∀ count, (pick count).Obeys .quiet fun indices => ∀ index ∈ indices.toList, True :=
    fun count => (quiet count).mono fun _ _ _ _ => trivial
  exact obeys_gather (fun _ => rfl) (h.quiet_ask .deviceCount) picks
    fun count index _ _ => h.quiet_visit metric count index

end Session

end GpuTelemetry
