import GpuTelemetry.Proofs.Otlp

/-!
# Integers without room

The integers of a batch go into fields of 64 bits one after the other, report by report: the index,
the time, the value (`entriesOf`). The first of them that has no room in its field ends the building
of the request, and the refusal names it (`refused_iff`). A time is looked at for each report, so in
an empty batch it may be any.

Main statement: `Request.first_misfit_named`.
-/

namespace GpuTelemetry.Otlp

/-- An integer on its way into a signed or an unsigned field. -/
inductive Entry where
  | signed (n : Int)
  | unsigned (n : Int)

namespace Entry

def integer : Entry → Int
  | .signed n | .unsigned n => n

/-- Whether the field has room for the integer. -/
def fits : Entry → Bool
  | .signed n => -0x8000000000000000 ≤ n && n < 0x8000000000000000
  | .unsigned n => 0 ≤ n && n < 0x10000000000000000

theorem fits_signed {n : Int} :
    (signed n).fits = false ↔ n < -0x8000000000000000 ∨ 0x8000000000000000 ≤ n := by
  simp only [fits, Bool.and_eq_false_iff, decide_eq_false_iff_not]
  omega

theorem fits_unsigned {n : Int} :
    (unsigned n).fits = false ↔ n < 0 ∨ 0x10000000000000000 ≤ n := by
  simp only [fits, Bool.and_eq_false_iff, decide_eq_false_iff_not]
  omega

end Entry

/-- The integers of a report in the order in which they go into their fields. -/
def entriesOf (time : Int) (r : Report) : List Entry :=
  [.signed r.index, .unsigned time, .signed r.value]

variable {time : Int} {r : Report} {reports : List Report} {e : Entry}

theorem misfit_iff {n : Int} :
    Misfit time r n ↔ ∃ e ∈ entriesOf time r, e.fits = false ∧ e.integer = n := by
  constructor
  · rintro (outside | outside | outside)
    · exact ⟨.signed r.index, by simp [entriesOf], Entry.fits_signed.mpr outside, rfl⟩
    · exact ⟨.unsigned time, by simp [entriesOf], Entry.fits_unsigned.mpr outside, rfl⟩
    · exact ⟨.signed r.value, by simp [entriesOf], Entry.fits_signed.mpr outside, rfl⟩
  · rintro ⟨e, member, unfit, rfl⟩
    simp only [entriesOf, List.mem_cons, List.not_mem_nil, or_false] at member
    rcases member with rfl | rfl | rfl
    · exact .index (Entry.fits_signed.mp unfit)
    · exact .time (Entry.fits_unsigned.mp unfit)
    · exact .value (Entry.fits_signed.mp unfit)

/-- The first integer of a report that has no room is the one at fault. -/
theorem DataPoint.ofReport_of_misfit (first : (entriesOf time r).find? (!·.fits) = some e) :
    DataPoint.ofReport time r = .error (.outOfField (.inRequest e.integer)) := by
  unfold entriesOf at first
  unfold DataPoint.ofReport
  -- In either order, that of the entries and that of the fields, the index comes first.
  rcases Signed.ofInt_cases r.index with ⟨outside, refused⟩ | ⟨inside, index, given, _⟩
  · rw [List.find?_cons_of_pos (by simp [Entry.fits_signed.mpr outside])] at first
    cases first
    simp [refused, bind, Except.bind, Entry.integer]
  rw [List.find?_cons_of_neg (by simp [Entry.fits, inside])] at first
  rcases Unsigned.ofInt_cases time with ⟨outside, refused⟩ | ⟨inside, stamp, stamped, _⟩
  · rw [List.find?_cons_of_pos (by simp [Entry.fits_unsigned.mpr outside])] at first
    cases first
    simp [given, refused, bind, Except.bind, Entry.integer]
  rw [List.find?_cons_of_neg (by simp [Entry.fits, inside])] at first
  rcases Signed.ofInt_cases r.value with ⟨outside, refused⟩ | ⟨inside, _⟩
  · rw [List.find?_cons_of_pos (by simp [Entry.fits_signed.mpr outside])] at first
    cases first
    simp [given, stamped, refused, bind, Except.bind, Entry.integer]
  rw [List.find?_cons_of_neg (by simp [Entry.fits, inside])] at first
  cases first

/-- The first integer without room in a batch. -/
def firstMisfit? (time : Int) (reports : List Report) : Option Entry :=
  (reports.flatMap (entriesOf time)).find? (!·.fits)

theorem firstMisfit?_cons (time : Int) (r : Report) (rest : List Report) :
    firstMisfit? time (r :: rest) =
      ((entriesOf time r).find? (!·.fits)).or (firstMisfit? time rest) := by
  unfold firstMisfit?
  rw [List.flatMap_cons, List.find?_append]

theorem gaugesOf_of_misfit (first : firstMisfit? time reports = some e) (gauges : List Gauge) :
    gaugesOf time gauges reports = .error (.outOfField (.inRequest e.integer)) := by
  induction reports generalizing gauges with
  | nil => cases first
  | cons r rest ih =>
      rw [firstMisfit?_cons] at first
      unfold gaugesOf
      cases own : (entriesOf time r).find? (!·.fits) with
      | some d =>
          rw [own] at first
          cases first
          simp [DataPoint.ofReport_of_misfit own, bind, Except.bind]
      | none =>
          rw [own, Option.none_or] at first
          -- Every integer of this report has room, so its point is built and the next report is up.
          rcases DataPoint.ofReport_cases time r with ⟨n, misfit, _⟩ | ⟨_, p, given, _⟩
          · obtain ⟨d, member, unfit, _⟩ := misfit_iff.mp misfit
            have fits := List.find?_eq_none.mp own d member
            simp [unfit] at fits
          · simp only [given, bind, Except.bind]
            exact ih first _

/-- There is a first integer without room if there is any. -/
theorem exists_firstMisfit_iff :
    (∃ e, firstMisfit? time reports = some e) ↔ ∃ r ∈ reports, ∃ n, Misfit time r n := by
  unfold firstMisfit?
  rw [← Option.isSome_iff_exists, List.find?_isSome]
  constructor
  · rintro ⟨e, member, unfit⟩
    obtain ⟨r, held, own⟩ := List.mem_flatMap.mp member
    exact ⟨r, held, e.integer, misfit_iff.mpr ⟨e, own, by simpa using unfit, rfl⟩⟩
  · rintro ⟨r, held, n, misfit⟩
    obtain ⟨e, own, unfit, _⟩ := misfit_iff.mp misfit
    exact ⟨e, List.mem_flatMap.mpr ⟨r, held, own⟩, by simp [unfit]⟩

/-- A batch is refused exactly for the first of its integers that has no room. -/
theorem refused_iff {host : String} {f : Fault} :
    Request.ofReports host time reports = .error f ↔
      ∃ e, firstMisfit? time reports = some e ∧ f = .outOfField (.inRequest e.integer) := by
  have refused : ∀ e, firstMisfit? time reports = some e →
      Request.ofReports host time reports = .error (.outOfField (.inRequest e.integer)) := by
    intro e first
    unfold Request.ofReports
    rw [gaugesOf_of_misfit first]
    rfl
  constructor
  · intro failed
    obtain ⟨r, held, n, misfit, _⟩ := misfit_of_refused failed
    obtain ⟨e, first⟩ := exists_firstMisfit_iff.mpr ⟨r, held, n, misfit⟩
    exact ⟨e, first, Except.error.inj (failed.symm.trans (refused e first))⟩
  · rintro ⟨e, first, rfl⟩
    exact refused e first

/-- A batch is refused exactly if an index or a value of a report is outside of the signed range of
64 bits, or the time is outside of the unsigned one and there is a report at all. The refusal names
the first integer without room, where the index of a report comes ahead of the time and the time
ahead of its value, and nothing else ends the building of a request. -/
theorem Request.first_misfit_named (host : String) (time : Int) (reports : List Report) :
    ((∃ f, Request.ofReports host time reports = .error f) ↔
      (∃ r ∈ reports, (r.index < -0x8000000000000000 ∨ 0x7FFFFFFFFFFFFFFF < r.index) ∨
        (r.value < -0x8000000000000000 ∨ 0x7FFFFFFFFFFFFFFF < r.value)) ∨
      reports ≠ [] ∧ (time < 0 ∨ 0xFFFFFFFFFFFFFFFF < time)) ∧
    ∀ f, Request.ofReports host time reports = .error f ↔
      ∃ before e after, reports.flatMap (entriesOf time) = before ++ e :: after ∧
        (∀ d ∈ before, d.fits = true) ∧ e.fits = false ∧ f = .outOfField (.inRequest e.integer) ∧
        f.message = "Value out of range: " ++ toString e.integer := by
  refine ⟨?_, fun f => ?_⟩
  · have refused : (∃ f, Request.ofReports host time reports = .error f) ↔
        ∃ r ∈ reports, ∃ n, Misfit time r n := by
      simp only [← exists_firstMisfit_iff, refused_iff]
      exact ⟨fun ⟨_, e, first, _⟩ => ⟨e, first⟩, fun ⟨e, first⟩ => ⟨_, e, first, rfl⟩⟩
    rw [refused]
    constructor
    · rintro ⟨r, held, n, outside | outside | outside⟩
      · exact .inl ⟨r, held, .inl (by omega)⟩
      · exact .inr ⟨List.ne_nil_of_mem held, by omega⟩
      · exact .inl ⟨r, held, .inr (by omega)⟩
    · rintro (⟨r, held, outside | outside⟩ | ⟨some, outside⟩)
      · exact ⟨r, held, _, .index (by omega)⟩
      · exact ⟨r, held, _, .value (by omega)⟩
      · -- The time is put into the point of each report, so it takes one report to be refused.
        obtain ⟨r, held⟩ := List.exists_mem_of_ne_nil reports some
        exact ⟨r, held, _, .time (by omega)⟩
  · rw [refused_iff, firstMisfit?]
    constructor
    · rintro ⟨e, first, rfl⟩
      obtain ⟨unfit, before, after, split, fit⟩ := List.find?_eq_some_iff_append.mp first
      exact ⟨before, e, after, split, by simpa using fit, by simpa using unfit, rfl, rfl⟩
    · rintro ⟨before, e, after, split, fit, unfit, same, _⟩
      refine ⟨e, List.find?_eq_some_iff_append.mpr ⟨?_, before, after, split, ?_⟩, same⟩
      · simp [unfit]
      · simpa using fit

/-- Of three integers without room the time is named, which is looked at ahead of the value of its
report and of the index of the next one; the same time is no trouble where there is no report. -/
example :
    Request.ofReports "node" (-1) [⟨0, "A", "gpu_power", 0x8000000000000000⟩,
        ⟨-0x8000000000000001, "B", "gpu_power", 20⟩] = .error (.outOfField (.inRequest (-1))) ∧
      (Request.ofReports "node" (-1) []).isOk = true :=
  ⟨rfl, rfl⟩

end GpuTelemetry.Otlp
