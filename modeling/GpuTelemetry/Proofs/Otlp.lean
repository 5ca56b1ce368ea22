import GpuTelemetry.Otlp

/-!
# Laws of metrics requests

Which reports a request carries, read off its gauges (`Request.readings`), and which integers keep a
request from being built (`Misfit`). Main statements:

* `built_iff`: a request is built exactly if every integer of every report has room in its field;
* `misfit_of_refused`: a refusal names an integer that has none;
* `DataPoint.ofReport_cases`: the point that is made of a report shows it, and nothing else.
-/

namespace GpuTelemetry.Otlp

/-! ## Reading a request -/

/-- The integer of the attribute with a key. -/
def Attribute.int? (key : String) (a : Attribute) : Option Int :=
  match a.value with
  | .int n => if a.key = key then some n.val else none
  | .text _ => none

/-- The text of the attribute with a key. -/
def Attribute.text? (key : String) (a : Attribute) : Option String :=
  match a.value with
  | .text s => if a.key = key then some s else none
  | .int _ => none

/-- The report that a data point of a gauge stands for. -/
def DataPoint.report? (label : String) (p : DataPoint) : Option Report := do
  let index ← p.attributes.findSome? (Attribute.int? "gpu.index")
  let name ← p.attributes.findSome? (Attribute.text? "gpu.name")
  return ⟨index, name, label, p.value.val⟩

/-- What the data points of a request stand for, gauge by gauge. -/
def Request.readings (q : Request) : List (Option Report) :=
  q.gauges.flatMap fun g => g.points.map (DataPoint.report? g.name)

/-- The name of the host that a request comes from. -/
def Request.host? (q : Request) : Option String :=
  q.resource.findSome? (Attribute.text? "host.name")

/-- A data point holds the time, the value of a report, and its index and its name as attributes. -/
structure DataPoint.Shows (time : Int) (r : Report) (p : DataPoint) : Prop where
  time : (p.time.val : Int) = time
  value : p.value.val = r.value
  attributes : ∃ index : Signed, index.val = r.index ∧
    p.attributes = [⟨"gpu.index", .int index⟩, ⟨"gpu.name", .text r.name⟩]

/-- A point stands for the report that it shows. -/
theorem DataPoint.Shows.report? {time : Int} {r : Report} {p : DataPoint} (shows : p.Shows time r) :
    p.report? r.label = some r := by
  obtain ⟨index, indexed, held⟩ := shows.attributes
  simp [DataPoint.report?, held, List.findSome?, Attribute.int?, Attribute.text?, indexed,
    shows.value]

/-! ## Misfits -/

/-- An integer of a data point that has no room in its field. -/
inductive Misfit (time : Int) (r : Report) : Int → Prop
  | index (outside : r.index < -0x8000000000000000 ∨ 0x8000000000000000 ≤ r.index) :
      Misfit time r r.index
  | time (outside : time < 0 ∨ 0x10000000000000000 ≤ time) : Misfit time r time
  | value (outside : r.value < -0x8000000000000000 ∨ 0x8000000000000000 ≤ r.value) :
      Misfit time r r.value

theorem fits_iff {time : Int} {r : Report} :
    (∀ n, ¬ Misfit time r n) ↔
      (-0x8000000000000000 ≤ r.index ∧ r.index < 0x8000000000000000) ∧
      (0 ≤ time ∧ time < 0x10000000000000000) ∧
      (-0x8000000000000000 ≤ r.value ∧ r.value < 0x8000000000000000) := by
  constructor
  · intro fits
    refine ⟨Classical.byContradiction fun outside => fits _ (.index ?_),
      Classical.byContradiction fun outside => fits _ (.time ?_),
      Classical.byContradiction fun outside => fits _ (.value ?_)⟩ <;> omega
  · rintro ⟨indexed, timed, valued⟩ n misfit
    cases misfit <;> omega

theorem Signed.eq_of_val {m n : Signed} (same : m.val = n.val) : m = n := by
  cases m
  cases n
  cases same
  rfl

theorem Unsigned.eq_of_val {m n : Unsigned} (same : m.val = n.val) : m = n := by
  cases m
  cases n
  cases same
  rfl

theorem Signed.ofInt_cases (n : Int) :
    (n < -0x8000000000000000 ∨ 0x8000000000000000 ≤ n) ∧
        Signed.ofInt n = .error (.outOfField (.inRequest n)) ∨
      (-0x8000000000000000 ≤ n ∧ n < 0x8000000000000000) ∧
        ∃ m, Signed.ofInt n = .ok m ∧ m.val = n := by
  unfold Signed.ofInt
  by_cases lower : -0x8000000000000000 ≤ n
  · by_cases upper : n < 0x8000000000000000
    · exact .inr ⟨⟨lower, upper⟩, ⟨n, lower, upper⟩, by rw [dif_pos lower, dif_pos upper], rfl⟩
    · exact .inl ⟨.inr (by omega), by rw [dif_pos lower, dif_neg upper]⟩
  · exact .inl ⟨.inl (by omega), by rw [dif_neg lower]⟩

theorem Unsigned.ofInt_cases (n : Int) :
    (n < 0 ∨ 0x10000000000000000 ≤ n) ∧ Unsigned.ofInt n = .error (.outOfField (.inRequest n)) ∨
      (0 ≤ n ∧ n < 0x10000000000000000) ∧
        ∃ m, Unsigned.ofInt n = .ok m ∧ (m.val : Int) = n := by
  cases n with
  | negSucc k => exact .inl ⟨.inl (by omega), rfl⟩
  | ofNat k =>
      have plain : Int.ofNat k = (k : Int) := rfl
      by_cases upper : k < 0x10000000000000000
      · exact .inr ⟨by omega, ⟨k, upper⟩, dif_pos upper, rfl⟩
      · exact .inl ⟨.inr (by omega), dif_neg upper⟩

/-- A data point is built, and shows its report, if all integers fit; otherwise one that does not is
at fault. -/
theorem DataPoint.ofReport_cases (time : Int) (r : Report) :
    (∃ n, Misfit time r n ∧ DataPoint.ofReport time r = .error (.outOfField (.inRequest n))) ∨
      (∀ n, ¬ Misfit time r n) ∧
        ∃ p, DataPoint.ofReport time r = .ok p ∧ p.Shows time r := by
  unfold DataPoint.ofReport
  -- The integers are put into their fields one by one, and the first that has no room is the end.
  rcases Signed.ofInt_cases r.index with ⟨outside, refused⟩ | ⟨inside, index, given, same⟩
  · exact .inl ⟨r.index, .index outside, by simp [refused, bind, Except.bind]⟩
  rcases Unsigned.ofInt_cases time with ⟨outside, refused⟩ | ⟨timely, stamp, stamped, exact⟩
  · exact .inl ⟨time, .time outside, by simp [given, refused, bind, Except.bind]⟩
  rcases Signed.ofInt_cases r.value with ⟨outside, refused⟩ | ⟨within, value, valued, equal⟩
  · exact .inl ⟨r.value, .value outside, by simp [given, stamped, refused, bind, Except.bind]⟩
  exact .inr ⟨fits_iff.mpr ⟨inside, timely, within⟩,
    ⟨stamp, value, [⟨"gpu.index", .int index⟩, ⟨"gpu.name", .text r.name⟩]⟩,
    by simp [given, stamped, valued, bind, Except.bind, pure, Except.pure],
    exact, equal, index, same, rfl⟩

/-! ## Gauges -/

/-- Gauges are built exactly if every integer of every report has room in its field. -/
theorem gaugesOf_cases (time : Int) (gauges : List Gauge) (reports : List Report) :
    (∃ r ∈ reports, ∃ n, Misfit time r n ∧
        gaugesOf time gauges reports = .error (.outOfField (.inRequest n))) ∨
      (∀ r ∈ reports, ∀ n, ¬ Misfit time r n) ∧
        ∃ more, gaugesOf time gauges reports = .ok more := by
  induction reports generalizing gauges with
  | nil => exact .inr ⟨by simp, gauges, rfl⟩
  | cons r rest ih =>
      unfold gaugesOf
      rcases DataPoint.ofReport_cases time r with ⟨n, misfit, refused⟩ | ⟨fits, p, given, _⟩
      · exact .inl ⟨r, by simp, n, misfit, by simp [refused, bind, Except.bind]⟩
      · -- The point of the first report is in its gauge, whichever that is.
        rcases ih (insertPoint r.label p gauges) with
          ⟨q, later, n, misfit, refused⟩ | ⟨all, more, built⟩
        · exact .inl ⟨q, by simp [later], n, misfit, by simp [given, refused, bind, Except.bind]⟩
        · refine .inr ⟨by simpa using ⟨fits, all⟩, more, ?_⟩
          simp [given, built, bind, Except.bind]

/-! ## Requests -/

/-- A refusal to build a request names an integer that has no room in its field. -/
theorem misfit_of_refused {host : String} {time : Int} {reports : List Report} {f : Fault}
    (refused : Request.ofReports host time reports = .error f) :
    ∃ r ∈ reports, ∃ n, Misfit time r n ∧ f = .outOfField (.inRequest n) := by
  unfold Request.ofReports at refused
  rcases gaugesOf_cases time [] reports with ⟨r, member, n, misfit, failed⟩ | ⟨_, gauges, built⟩
  · simp only [failed, bind, Except.bind, Except.error.injEq] at refused
    exact ⟨r, member, n, misfit, refused.symm⟩
  · simp [built, bind, Except.bind, pure, Except.pure] at refused

/-- A request is built exactly if every integer of every report has room in its field. -/
theorem built_iff {host : String} {time : Int} {reports : List Report} :
    (∃ request, Request.ofReports host time reports = .ok request) ↔
      ∀ r ∈ reports, ∀ n, ¬ Misfit time r n := by
  unfold Request.ofReports
  rcases gaugesOf_cases time [] reports with ⟨r, member, n, misfit, failed⟩ | ⟨fits, gauges, built⟩
  · simp only [failed, bind, Except.bind]
    constructor
    · rintro ⟨_, given⟩
      cases given
    · intro fits
      exact absurd misfit (fits r member n)
  · simp only [built, bind, Except.bind]
    exact ⟨fun _ => fits, fun _ => ⟨_, rfl⟩⟩

end GpuTelemetry.Otlp
