import Mathlib.Control.Monad.Basic
import GpuTelemetry.Proofs.Otlp.Grouping
import GpuTelemetry.Proofs.Otlp.Wire.Messages

/-!
# Reports in bytes

What the bytes of a request say about the reports that it was built of: the host, for each label the
unit and the readings in their order, and the time of the readings, if there are any.

Main statement: `Request.bytes_determine_reports`.
-/

namespace GpuTelemetry.Otlp

/-- What has been read for one label: index, name and value, in order. -/
structure Series where
  label : String
  unit : String
  readings : List (Int × String × Int)
  deriving DecidableEq

/-- What has been read for a label in some reports. -/
def Series.of (label unit : String) (reports : List Report) : Series :=
  ⟨label, unit, reports.map fun r => (r.index, r.name, r.value)⟩

/-- The series of some reports, in the order in which their labels first occur. -/
def seriesOf (reports : List Report) : List Series :=
  (labelsOf reports).map fun label => .of label (unitOf label) (labelled label reports)

/-- The series whose points a gauge has. -/
def Gauge.series (g : Gauge) : Series :=
  .of g.name g.unit (g.points.filterMap (DataPoint.report? g.name))

/-- The times of all points. -/
def Request.times (q : Request) : List Int :=
  q.gauges.flatMap fun g => g.points.map fun p => (p.time.val : Int)

namespace Grouped

variable {time : Int} {reports : List Report} {gauges : List Gauge}

theorem series (grouped : Grouped time reports gauges) :
    gauges.map Gauge.series = seriesOf reports := by
  rw [seriesOf, ← grouped.names, List.map_map]
  refine List.map_congr_left fun g member => ?_
  show Series.of g.name g.unit _ = Series.of g.name (unitOf g.name) _
  have read : g.points.filterMap (DataPoint.report? g.name) = labelled g.name reports :=
    calc g.points.filterMap (DataPoint.report? g.name)
      _ = (g.points.map (DataPoint.report? g.name)).filterMap id := by rw [List.filterMap_map]; rfl
      _ = ((labelled g.name reports).map some).filterMap id := by rw [grouped.readings member]
      _ = labelled g.name reports := by rw [List.filterMap_map]; exact List.filterMap_some
  rw [read, grouped.units g member]

theorem times (grouped : Grouped time reports gauges) :
    (gauges.flatMap fun g => g.points.map fun p => (p.time.val : Int)) =
      List.replicate reports.length time := by
  refine List.eq_replicate_iff.mpr ⟨?_, ?_⟩
  · rw [List.length_flatMap, ← grouped.total]
    simp only [List.length_map]
  · intro stamp member
    obtain ⟨g, gauged, stamped⟩ := List.mem_flatMap.mp member
    obtain ⟨p, pointed, rfl⟩ := List.mem_map.mp stamped
    have timed := (grouped.points g gauged).flip.imp fun _ _ shows => And.intro shows.time shows
    exact ((List.forall₂_and_left _ _).mp timed).1 p pointed

end Grouped

/-! ## Requests -/

namespace Request

variable {host : String} {time : Int} {reports : List Report}

/-- Of reports whose integers have room in their fields a request is built whose bytes are read back
as this request. They tell the host, the series of the reports and the time of each reading: other
bytes stand for any other host or other series, and for any other time if there are readings. -/
theorem bytes_determine_reports (host : String) (fits : ∀ r ∈ reports, ∀ n, ¬ Misfit time r n) :
    ∃ q, ofReports host time reports = .ok q ∧
      Wire.request? (Wire.ofRequest q) = some q ∧ q.host? = some host ∧
      q.gauges.map Gauge.series = seriesOf reports ∧
      q.times = List.replicate reports.length time ∧
      ∀ {host' : String} {time' : Int} {reports' : List Report} {other : Request},
        ofReports host' time' reports' = .ok other → Wire.ofRequest other = Wire.ofRequest q →
          host' = host ∧ seriesOf reports' = seriesOf reports ∧ (reports ≠ [] → time' = time) := by
  obtain ⟨q, given⟩ : ∃ q, ofReports host time reports = .ok q := built_iff.mpr fits
  have grouped := grouped_ofReports given
  refine ⟨q, given, Wire.request?_ofRequest q, host?_ofReports given, grouped.series, grouped.times,
    ?_⟩
  intro host' time' reports' other given' same
  obtain rfl := Wire.ofRequest_injective same
  have grouped' := grouped_ofReports given'
  have hosts := (host?_ofReports given').symm.trans (host?_ofReports given)
  have times := grouped'.times.symm.trans grouped.times
  refine ⟨Option.some.inj hosts, grouped'.series.symm.trans grouped.series, fun some => ?_⟩
  -- Only readings have a time, so it takes one of them to tell the times apart.
  have counted : reports.length ≠ 0 := fun none => some (List.length_eq_zero_iff.mp none)
  obtain ⟨length, none | timed⟩ := List.replicate_inj.mp times
  · exact absurd (length.symm.trans none) counted
  · exact timed

/-- A second later the same readings have other bytes, values of zero and empty names or not. -/
theorem bytes_determine_reports_later :
    ∃ q, ofReports "host" 5 [⟨1, "", "power", 0⟩, ⟨0, "a", "", -3⟩] = .ok q ∧
      Wire.request? (Wire.ofRequest q) = some q ∧
      ∀ other, ofReports "host" 1000000005 [⟨1, "", "power", 0⟩, ⟨0, "a", "", -3⟩] = .ok other →
        Wire.ofRequest other ≠ Wire.ofRequest q := by
  have fits : ∀ r ∈ [⟨1, "", "power", 0⟩, ⟨0, "a", "", -3⟩], ∀ n, ¬ Misfit 5 r n := by
    simp [fits_iff]
  obtain ⟨q, given, read, _, _, _, determined⟩ := bytes_determine_reports "host" fits
  refine ⟨q, given, read, fun other later same => ?_⟩
  have timed := (determined later same).2.2 (List.cons_ne_nil _ _)
  exact absurd timed (by decide)

end Request

end GpuTelemetry.Otlp
