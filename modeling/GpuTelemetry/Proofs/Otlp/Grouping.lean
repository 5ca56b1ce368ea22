import Mathlib.Algebra.GroupWithZero.Nat
import Mathlib.Control.Monad.Basic
import Mathlib.Data.List.Forall2
import Mathlib.Data.List.Nodup
import GpuTelemetry.Proofs.Otlp

/-!
# Points of a request

How the reports of a batch are spread over the gauges of its request. `Grouped` is what holds of the
gauges once some reports have been taken in: the labels in the order in which they first occurred,
and in each gauge the points of its reports, in order. Taking in one more report keeps it
(`Grouped.insertPoint`), so it holds of every batch (`grouped_gaugesOf`).

Gauges are only ever added to: `Extends` relates those of a batch to those of a longer one.

Main statement: `Request.points_as_reported`.
-/

namespace GpuTelemetry.Otlp

/-! ## One more point -/

section Insertion

variable (label : String) (point : DataPoint)

/-- A gauge is added for a label that has none, behind all others. -/
theorem names_insertPoint (gauges : List Gauge) :
    (insertPoint label point gauges).map Gauge.name =
      if label ∈ gauges.map Gauge.name then gauges.map Gauge.name
      else gauges.map Gauge.name ++ [label] := by
  induction gauges with
  | nil => rfl
  | cons gauge rest ih =>
      unfold insertPoint
      by_cases same : gauge.name = label
      · simp [same]
      · -- The first gauge has another label and stays in front, whether the label is known behind
        -- it or not.
        have other : label ≠ gauge.name := fun eq => same eq.symm
        rw [if_neg same, List.map_cons, ih]
        by_cases known : label ∈ rest.map Gauge.name
        · rw [if_pos known, List.map_cons, if_pos (List.mem_cons_of_mem _ known)]
        · rw [if_neg known, List.map_cons, if_neg (by simpa [other] using known), List.cons_append]

/-- A gauge behind the insertion of a point was there before and has another label, or it has the
point behind all that the gauge of its label had, or there was none of its label. -/
theorem mem_insertPoint {gauges : List Gauge} (distinct : (gauges.map Gauge.name).Nodup)
    {gauge : Gauge} (member : gauge ∈ insertPoint label point gauges) :
    (gauge ∈ gauges ∧ gauge.name ≠ label) ∨
      (∃ before ∈ gauges, before.name = label ∧
        gauge = { before with points := before.points ++ [point] }) ∨
      (label ∉ gauges.map Gauge.name ∧ gauge = ⟨label, unitOf label, [point]⟩) := by
  induction gauges with
  | nil => exact .inr (.inr ⟨by simp, List.mem_singleton.mp member⟩)
  | cons first rest ih =>
      obtain ⟨fresh, others⟩ := List.nodup_cons.mp distinct
      unfold insertPoint at member
      by_cases same : first.name = label
      · rw [if_pos same] at member
        rcases List.mem_cons.mp member with rfl | later
        · exact .inr (.inl ⟨first, List.mem_cons_self, same, rfl⟩)
        · -- Labels are distinct, so no gauge behind the one with the label has it as well.
          refine .inl ⟨List.mem_cons_of_mem _ later, fun again => fresh ?_⟩
          rw [same, ← again]
          exact List.mem_map_of_mem later
      · rw [if_neg same] at member
        rcases List.mem_cons.mp member with rfl | later
        · exact .inl ⟨List.mem_cons_self, same⟩
        · rcases ih others later with ⟨old, apart⟩ | ⟨before, old, named, rfl⟩ | ⟨new, rfl⟩
          · exact .inl ⟨List.mem_cons_of_mem _ old, apart⟩
          · exact .inr (.inl ⟨before, List.mem_cons_of_mem _ old, named, rfl⟩)
          · refine .inr (.inr ⟨?_, rfl⟩)
            rw [List.map_cons, List.mem_cons, not_or]
            exact ⟨fun eq => same eq.symm, new⟩

/-- There is one point more. -/
theorem sum_insertPoint (gauges : List Gauge) :
    ((insertPoint label point gauges).map (·.points.length)).sum =
      (gauges.map (·.points.length)).sum + 1 := by
  induction gauges with
  | nil => rfl
  | cons gauge rest ih =>
      unfold insertPoint
      by_cases same : gauge.name = label
      · simp only [if_pos same, List.map_cons, List.sum_cons, List.length_append, List.length_cons,
          List.length_nil]
        omega
      · simp only [if_neg same, List.map_cons, List.sum_cons, ih]
        omega

end Insertion

/-- Reports are taken in one after the other, each by a point that shows it. -/
theorem gaugesOf_cons {time : Int} {r : Report} {rest : List Report} {gauges more : List Gauge}
    (built : gaugesOf time gauges (r :: rest) = .ok more) :
    ∃ p : DataPoint, p.Shows time r ∧
      gaugesOf time (insertPoint r.label p gauges) rest = .ok more := by
  unfold gaugesOf at built
  rcases DataPoint.ofReport_cases time r with ⟨n, _, refused⟩ | ⟨_, p, made, shows⟩
  · simp [refused, bind, Except.bind] at built
  · simp only [made, bind, Except.bind] at built
    exact ⟨p, shows, built⟩

/-! ## Grouped reports -/

/-- The labels of reports, each once, in the order of their first occurrence. -/
def labelsOf (reports : List Report) : List String :=
  (reports.map Report.label).eraseDups

/-- The reports with a label, in order. -/
def labelled (label : String) (reports : List Report) : List Report :=
  reports.filter (·.label = label)

theorem mem_labelsOf {label : String} {reports : List Report} :
    label ∈ labelsOf reports ↔ ∃ r ∈ reports, r.label = label := by
  unfold labelsOf
  rw [List.mem_eraseDups, List.mem_map]

theorem labelsOf_of_label {label : String} {reports : List Report} (some : reports ≠ [])
    (same : ∀ r ∈ reports, r.label = label) : labelsOf reports = [label] := by
  obtain ⟨first, rest, rfl⟩ := List.exists_cons_of_ne_nil some
  have others : (rest.map Report.label).filter (fun other => !other == first.label) = [] := by
    refine List.filter_eq_nil_iff.mpr fun other member => ?_
    obtain ⟨r, known, rfl⟩ := List.mem_map.mp member
    simp [same r (List.mem_cons_of_mem _ known), same first List.mem_cons_self]
  unfold labelsOf
  rw [List.map_cons, List.eraseDups_cons, others, same first List.mem_cons_self]
  rfl

theorem labelsOf_concat (reports : List Report) (r : Report) :
    labelsOf (reports ++ [r]) =
      if r.label ∈ labelsOf reports then labelsOf reports else labelsOf reports ++ [r.label] := by
  have split : labelsOf (reports ++ [r]) =
      labelsOf reports ++ ([r.label].removeAll (reports.map Report.label)).eraseDups := by
    unfold labelsOf
    rw [List.map_append, List.eraseDups_append]
    rfl
  rw [split]
  by_cases known : r.label ∈ labelsOf reports
  · have old : r.label ∈ reports.map Report.label := List.mem_eraseDups.mp known
    -- The label has occurred before and is left out where it occurs again.
    have nothing : [r.label].removeAll (reports.map Report.label) = [] := by
      simpa [List.removeAll] using old
    rw [if_pos known, nothing, List.eraseDups_nil, List.append_nil]
  · have new : r.label ∉ reports.map Report.label := fun old => known (List.mem_eraseDups.mpr old)
    have itself : [r.label].removeAll (reports.map Report.label) = [r.label] := by
      simpa [List.removeAll] using new
    rw [if_neg known, itself]
    rfl

theorem labelled_concat_self (reports : List Report) (r : Report) :
    labelled r.label (reports ++ [r]) = labelled r.label reports ++ [r] := by
  simp [labelled]

theorem labelled_concat_of_ne {label : String} (reports : List Report) {r : Report}
    (other : label ≠ r.label) : labelled label (reports ++ [r]) = labelled label reports := by
  simp [labelled, other.symm]

theorem labelled_eq_self {label : String} {reports : List Report}
    (same : ∀ r ∈ reports, r.label = label) : labelled label reports = reports :=
  List.filter_eq_self.mpr fun r member => decide_eq_true (same r member)

theorem labelled_eq_nil {label : String} {reports : List Report}
    (absent : label ∉ labelsOf reports) : labelled label reports = [] := by
  refine List.filter_eq_nil_iff.mpr fun r member => ?_
  rw [decide_eq_true_eq]
  exact fun same => absent (mem_labelsOf.mpr ⟨r, member, same⟩)

/-- Gauges with the points of some reports: a gauge for each label, in the order in which the labels
first occur, and in each gauge a point for each report of its label, in the order of the reports. -/
structure Grouped (time : Int) (reports : List Report) (gauges : List Gauge) : Prop where
  names : gauges.map Gauge.name = labelsOf reports
  distinct : (gauges.map Gauge.name).Nodup
  units : ∀ g ∈ gauges, g.unit = unitOf g.name
  points : ∀ g ∈ gauges, List.Forall₂ (DataPoint.Shows time) (labelled g.name reports) g.points
  total : (gauges.map (·.points.length)).sum = reports.length

namespace Grouped

variable {time : Int} {reports : List Report} {gauges : List Gauge}

theorem nil : Grouped time [] [] := ⟨rfl, .nil, nofun, nofun, rfl⟩

/-- One more report keeps gauges grouped. -/
theorem insertPoint (grouped : Grouped time reports gauges) {r : Report} {p : DataPoint}
    (shows : p.Shows time r) :
    Grouped time (reports ++ [r]) (insertPoint r.label p gauges) := by
  have named := names_insertPoint r.label p gauges
  refine ⟨?_, ?_, ?_, ?_, ?_⟩
  · rw [named, labelsOf_concat, grouped.names]
  · rw [named]
    by_cases known : r.label ∈ gauges.map Gauge.name
    · rw [if_pos known]
      exact grouped.distinct
    · rw [if_neg known, ← List.concat_eq_append]
      exact grouped.distinct.concat known
  · intro g member
    rcases mem_insertPoint r.label p grouped.distinct member with
      ⟨old, _⟩ | ⟨before, old, _, rfl⟩ | ⟨_, rfl⟩
    · exact grouped.units g old
    · exact grouped.units before old
    · rfl
  · intro g member
    rcases mem_insertPoint r.label p grouped.distinct member with
      ⟨old, apart⟩ | ⟨before, old, same, rfl⟩ | ⟨new, rfl⟩
    · rw [labelled_concat_of_ne reports apart]
      exact grouped.points g old
    · -- The gauge of the label gets its point behind the others, and so do its reports.
      have points := grouped.points before old
      rw [same] at points
      show List.Forall₂ _ (labelled before.name (reports ++ [r])) (before.points ++ [p])
      rw [same, labelled_concat_self]
      exact List.rel_append points (.cons shows .nil)
    · -- The label is a new one: it has had no reports before.
      rw [grouped.names] at new
      show List.Forall₂ _ (labelled r.label (reports ++ [r])) [p]
      rw [labelled_concat_self, labelled_eq_nil new]
      exact .cons shows .nil
  · rw [sum_insertPoint, grouped.total, List.length_append, List.length_singleton]

/-- There is a report for each gauge, and so a point. -/
theorem points_ne_nil (grouped : Grouped time reports gauges) {g : Gauge} (member : g ∈ gauges) :
    g.points ≠ [] := by
  have label : g.name ∈ labelsOf reports := grouped.names ▸ List.mem_map_of_mem member
  obtain ⟨r, reported, same⟩ := mem_labelsOf.mp label
  have chosen : r ∈ labelled g.name reports :=
    List.mem_filter.mpr ⟨reported, decide_eq_true same⟩
  intro none
  have points := grouped.points g member
  rw [none, List.forall₂_nil_right_iff] at points
  rw [points] at chosen
  cases chosen

/-- The points of a gauge stand for the reports of its label. -/
theorem readings (grouped : Grouped time reports gauges) {g : Gauge} (member : g ∈ gauges) :
    g.points.map (DataPoint.report? g.name) = (labelled g.name reports).map some := by
  have labels : ∀ r ∈ labelled g.name reports, r.label = g.name := fun r chosen =>
    of_decide_eq_true (List.mem_filter.mp chosen).2
  have points := grouped.points g member
  generalize labelled g.name reports = chosen at labels points
  generalize g.points = shown at points
  induction points with
  | nil => rfl
  | @cons r p _ _ shows _ ih =>
      have named : r.label = g.name := labels r List.mem_cons_self
      rw [List.map_cons, List.map_cons, ih fun s later => labels s (List.mem_cons_of_mem _ later),
        ← named, shows.report?]

end Grouped

/-- What is built of reports, on top of gauges with the points of others, has the points of both. -/
theorem grouped_gaugesOf {time : Int} {before reports : List Report} {gauges more : List Gauge}
    (grouped : Grouped time before gauges) (built : gaugesOf time gauges reports = .ok more) :
    Grouped time (before ++ reports) more := by
  induction reports generalizing before gauges with
  | nil =>
      cases built
      rw [List.append_nil]
      exact grouped
  | cons r rest ih =>
      obtain ⟨p, shows, later⟩ := gaugesOf_cons built
      rw [List.append_cons]
      exact ih (grouped.insertPoint shows) later

/-! ## Growth -/

/-- A gauge of the same label and unit, with the same points and perhaps more behind them. -/
structure Gauge.Grows (before after : Gauge) : Prop where
  name : after.name = before.name
  unit : after.unit = before.unit
  points : before.points <+: after.points

theorem Gauge.Grows.refl (g : Gauge) : g.Grows g := ⟨rfl, rfl, List.prefix_rfl⟩

theorem Gauge.Grows.trans {g h k : Gauge} (one : g.Grows h) (two : h.Grows k) : g.Grows k :=
  ⟨two.name.trans one.name, two.unit.trans one.unit, one.points.trans two.points⟩

/-- Gauges that have grown, each in its place, and perhaps new ones behind them. -/
inductive Extends : List Gauge → List Gauge → Prop
  | new (gauges : List Gauge) : Extends [] gauges
  | grown {g h : Gauge} {before after : List Gauge} (grows : g.Grows h)
      (behind : Extends before after) : Extends (g :: before) (h :: after)

namespace Extends

theorem refl : (gauges : List Gauge) → Extends gauges gauges
  | [] => .new []
  | g :: rest => .grown (.refl g) (refl rest)

theorem trans {first second third : List Gauge} (one : Extends first second)
    (two : Extends second third) : Extends first third := by
  induction one generalizing third with
  | new gauges => exact .new third
  | grown grows behind ih =>
      cases two with
      | grown grows' behind' => exact .grown (grows.trans grows') (ih behind')

theorem insertPoint (label : String) (point : DataPoint) (gauges : List Gauge) :
    Extends gauges (insertPoint label point gauges) := by
  induction gauges with
  | nil => exact .new _
  | cons gauge rest ih =>
      unfold Otlp.insertPoint
      by_cases same : gauge.name = label
      · rw [if_pos same]
        exact .grown ⟨rfl, rfl, List.prefix_append ..⟩ (.refl rest)
      · rw [if_neg same]
        exact .grown (.refl gauge) ih

end Extends

/-- Taking in reports leaves nothing out that is there already. -/
theorem extends_gaugesOf {time : Int} {reports : List Report} {gauges more : List Gauge}
    (built : gaugesOf time gauges reports = .ok more) : Extends gauges more := by
  induction reports generalizing gauges with
  | nil =>
      cases built
      exact .refl _
  | cons r rest ih =>
      obtain ⟨p, _, later⟩ := gaugesOf_cons built
      exact (Extends.insertPoint r.label p gauges).trans (ih later)

/-- The gauges of two batches, one behind the other, are those of the second on top of those of the
first. -/
theorem gaugesOf_append (time : Int) (gauges : List Gauge) (first second : List Report) :
    gaugesOf time gauges (first ++ second) =
      gaugesOf time gauges first >>= fun more => gaugesOf time more second := by
  induction first generalizing gauges with
  | nil => rfl
  | cons r rest ih =>
      rw [List.cons_append]
      simp only [gaugesOf]
      cases DataPoint.ofReport time r with
      | error f => rfl
      | ok p => exact ih (insertPoint r.label p gauges)

/-! ## Requests -/

namespace Request

variable {host : String} {time : Int} {reports : List Report} {q : Request}

/-- A request has the gauges of its reports. -/
theorem gauges_of_ofReports (given : ofReports host time reports = .ok q) :
    gaugesOf time [] reports = .ok q.gauges ∧ q = ⟨resourceOf host, ownScope, q.gauges⟩ := by
  unfold ofReports at given
  cases built : gaugesOf time [] reports with
  | error f => simp [built, bind, Except.bind] at given
  | ok gauges =>
      simp only [built, bind, Except.bind, pure, Except.pure, Except.ok.injEq] at given
      subst given
      exact ⟨rfl, rfl⟩

theorem grouped_ofReports (given : ofReports host time reports = .ok q) :
    Grouped time reports q.gauges :=
  grouped_gaugesOf .nil (gauges_of_ofReports given).1

/-- The points of a request stand for its reports, label by label. -/
theorem readings_eq (given : ofReports host time reports = .ok q) :
    q.readings = (labelsOf reports).flatMap fun label => (labelled label reports).map some := by
  have grouped := grouped_ofReports given
  unfold readings
  rw [← grouped.names, List.flatMap_map]
  exact List.flatMap_congr fun g member => grouped.readings member

theorem host?_ofReports (given : ofReports host time reports = .ok q) : q.host? = some host := by
  rw [(gauges_of_ofReports given).2]
  rfl

/-- A request for more reports has the gauges of the first ones, grown, and new ones behind them. -/
theorem extends_ofReports {more : List Report} {longer : Request}
    (given : ofReports host time reports = .ok q)
    (grown : ofReports host time (reports ++ more) = .ok longer) :
    Extends q.gauges longer.gauges := by
  have whole := (gauges_of_ofReports grown).1
  rw [gaugesOf_append, (gauges_of_ofReports given).1] at whole
  exact extends_gaugesOf whole

/-- Of reports whose integers have room in their fields a request is built that loses none of them,
doubles none and reorders none. Its gauges have the labels of the reports, each once, in the order
of their first occurrence. The points of a gauge are, in order, one for each report of its label,
which it shows; no gauge is empty, and there are as many points as reports. With more reports behind
them, the gauges only grow at their ends, and new ones come behind all others. -/
theorem points_as_reported (host : String) (fits : ∀ r ∈ reports, ∀ n, ¬ Misfit time r n) :
    ∃ q, ofReports host time reports = .ok q ∧
      q.gauges.map Gauge.name = labelsOf reports ∧ (q.gauges.map Gauge.name).Nodup ∧
      (∀ g ∈ q.gauges, g.points ≠ [] ∧
        List.Forall₂ (DataPoint.Shows time) (labelled g.name reports) g.points) ∧
      (q.gauges.map (·.points.length)).sum = reports.length ∧
      ∀ more : List Report, (∀ r ∈ more, ∀ n, ¬ Misfit time r n) →
        ∃ longer, ofReports host time (reports ++ more) = .ok longer ∧
          Extends q.gauges longer.gauges := by
  obtain ⟨q, given⟩ := built_iff.mpr fits
  have grouped := grouped_ofReports given
  refine ⟨q, given, grouped.names, grouped.distinct, ?_, grouped.total, ?_⟩
  · exact fun g member => ⟨grouped.points_ne_nil member, grouped.points g member⟩
  · intro more others
    obtain ⟨longer, grown⟩ : ∃ longer, ofReports host time (reports ++ more) = .ok longer :=
      built_iff.mpr (List.forall_mem_append.mpr ⟨fits, others⟩)
    exact ⟨longer, grown, extends_ofReports given grown⟩

/-- Labels that come in turns, a value of zero and an empty name. -/
theorem points_as_reported_in_turns :
    ∃ q, ofReports "host" 5
        [⟨1, "b", "power", 0⟩, ⟨0, "a", "memory", -3⟩, ⟨0, "", "power", 7⟩] = .ok q ∧
      q.gauges.map Gauge.name = ["power", "memory"] ∧
      (q.gauges.map (·.points.length)).sum = 3 := by
  have fits : ∀ r ∈ [⟨1, "b", "power", 0⟩, ⟨0, "a", "memory", -3⟩, ⟨0, "", "power", 7⟩],
      ∀ n, ¬ Misfit 5 r n := by
    simp [fits_iff]
  obtain ⟨q, built, names, _, _, total, _⟩ := points_as_reported "host" fits
  have labels : labelsOf [⟨1, "b", "power", 0⟩, ⟨0, "a", "memory", -3⟩, ⟨0, "", "power", 7⟩] =
      ["power", "memory"] := by
    decide +kernel
  exact ⟨q, built, names.trans labels, total⟩

end Request

/-- The points of a request for reports of one label stand for the reports, in order. -/
theorem readings_ofReports {host : String} {time : Int} {label : String} {reports : List Report}
    {request : Request} (same : ∀ r ∈ reports, r.label = label)
    (given : Request.ofReports host time reports = .ok request) :
    request.readings = reports.map some := by
  rw [Request.readings_eq given]
  by_cases empty : reports = []
  · rw [empty]
    rfl
  · rw [labelsOf_of_label empty same, List.flatMap_singleton, labelled_eq_self same]

end GpuTelemetry.Otlp
