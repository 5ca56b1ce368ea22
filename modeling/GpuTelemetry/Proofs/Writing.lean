import GpuTelemetry.Lookup
import GpuTelemetry.Report.Line

/-!
# Integers in texts

A text that holds integers is written if none of them has more digits than the limit allows;
otherwise the first that is too long is the fault of writing it (`Numeral.writing_cases`). So it is
with the lines of reports (`Report.Short`) and of devices, and with the failure to find a device
(`Session.missing_cases`).
-/

namespace GpuTelemetry

namespace Numeral

variable {integers : List Int} {n : Int}

theorem overlong?_eq_none_iff :
    overlong? integers = none ↔ ∀ n ∈ integers, digitCount n ≤ digitLimit := by
  simp [overlong?]

variable {α : Type} (made : α)

theorem writing_of_overlong (found : overlong? integers = some n) :
    writing integers made = .error (.outOfField (.inText n)) := by
  unfold writing
  rw [found]

theorem writing_of_short (short : ∀ n ∈ integers, digitCount n ≤ digitLimit) :
    writing integers made = .ok made := by
  unfold writing
  rw [overlong?_eq_none_iff.mpr short]

theorem writing_cases (integers : List Int) :
    (∀ n ∈ integers, digitCount n ≤ digitLimit) ∧ writing integers made = .ok made ∨
      ∃ n, overlong? integers = some n ∧
        writing integers made = .error (.outOfField (.inText n)) := by
  cases found : overlong? integers with
  | none =>
      have short := overlong?_eq_none_iff.mp found
      exact .inl ⟨short, writing_of_short made short⟩
  | some n => exact .inr ⟨n, rfl, writing_of_overlong made found⟩

end Numeral

/-! ## Lines of reports -/

namespace Report

/-- A report whose index and value can be written and read. -/
structure Short (r : Report) : Prop where
  index : Numeral.digitCount r.index ≤ Numeral.digitLimit
  value : Numeral.digitCount r.value ≤ Numeral.digitLimit

variable {r : Report}

theorem write_of_short (short : r.Short) : r.write = .ok r.line :=
  Numeral.writing_of_short _ (by simp [short.index, short.value])

/-- Of a report that is not short, the index or the value is too long to be written. -/
theorem overlong_of_not_short (long : ¬ r.Short) :
    ∃ n, Numeral.overlong? [r.index, r.value] = some n ∧
      r.write = .error (.outOfField (.inText n)) := by
  rcases Numeral.writing_cases r.line [r.index, r.value] with ⟨short, _⟩ | overlong
  · exact absurd ⟨short r.index (by simp), short r.value (by simp)⟩ long
  · exact overlong

/-- Either all reports are short, or there is a first one that is not. -/
theorem short_cases (reports : List Report) :
    (∀ r ∈ reports, r.Short) ∨ ∃ before r behind, reports = before ++ r :: behind ∧
      (∀ other ∈ before, other.Short) ∧ ¬ r.Short := by
  induction reports with
  | nil => exact .inl nofun
  | cons r rest ih =>
      by_cases short : r.Short
      · rcases ih with all | ⟨before, first, behind, rfl, well, long⟩
        · exact .inl (List.forall_mem_cons.mpr ⟨short, all⟩)
        · exact .inr ⟨r :: before, first, behind, rfl, List.forall_mem_cons.mpr ⟨short, well⟩, long⟩
      · exact .inr ⟨[], r, rest, rfl, nofun, short⟩

end Report

theorem Device.write_of_short {d : Device}
    (short : Numeral.digitCount d.index ≤ Numeral.digitLimit) : d.write = .ok d.line :=
  Numeral.writing_of_short _ (by simpa using short)

/-! ## An index without a device -/

namespace Session

variable {index count : Int}

theorem missing_of_short (shortIndex : Numeral.digitCount index ≤ Numeral.digitLimit)
    (shortCount : Numeral.digitCount count ≤ Numeral.digitLimit) :
    missing index count = .failed (.outOfRange index count) := by
  unfold missing
  rw [Numeral.writing_of_short _ (by simp [shortIndex, shortCount])]

theorem missing_of_overlong {n : Int} (found : Numeral.overlong? [index, count] = some n) :
    missing index count = .outOfField (.inText n) := by
  unfold missing
  rw [Numeral.writing_of_overlong _ found]

/-- An index without a device ends in a failure that names it, or cannot be named. -/
theorem missing_cases (index count : Int) :
    missing index count = .failed (.outOfRange index count) ∨
      ∃ n, Numeral.overlong? [index, count] = some n ∧
        missing index count = .outOfField (.inText n) := by
  rcases Numeral.writing_cases (Failure.outOfRange index count) [index, count] with
    ⟨short, _⟩ | ⟨n, found, _⟩
  · exact .inl (missing_of_short (short index (by simp)) (short count (by simp)))
  · exact .inr ⟨n, found, missing_of_overlong found⟩

end Session

end GpuTelemetry
