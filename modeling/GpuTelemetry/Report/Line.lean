import GpuTelemetry.Failure
import GpuTelemetry.Report
import GpuTelemetry.Text.Quoted

/-!
# Report lines

A report is written as one line, `index-name-label-value`. Names may hold dashes, so reading splits
the index off at the first dash and the label and the value at the last two; blanks at both ends of
the line do not count. `Report.ofLine?` reads what `Report.line` writes.

A line exists for every report. A report is written (`Report.write`) only if its index and its value
are short enough to be.
-/

namespace GpuTelemetry

/-- The part of a text before the first separator, and the part behind it. -/
def splitFirst? (separator : Char) : List Char → Option (List Char × List Char)
  | [] => none
  | c :: rest =>
    if c = separator then some ([], rest)
    else (splitFirst? separator rest).map fun (before, behind) => (c :: before, behind)

/-- The part of a text before the last separator, and the part behind it. -/
def splitLast? (separator : Char) (cs : List Char) : Option (List Char × List Char) :=
  (splitFirst? separator cs.reverse).map fun (behind, before) => (before.reverse, behind.reverse)

structure Report.Malformed where
  line : String
  deriving Repr, DecidableEq

/-- The wording for a line that is not the line of a report. -/
def Report.Malformed.message (e : Report.Malformed) : String :=
  "malformed telemetry line: " ++ Text.quote e.line

def Report.line (r : Report) : String :=
  String.ofList (Numeral.write r.index ++ '-' :: r.name.toList ++ '-' :: r.label.toList ++
    '-' :: Numeral.write r.value)

def Device.line (d : Device) : String :=
  String.ofList (Numeral.write d.index ++ '-' :: d.name.toList)

/-- The line of a report, unless one of its integers is too long to be written. -/
def Report.write (r : Report) : Except Fault String :=
  Numeral.writing [r.index, r.value] r.line

/-- The line of a device, unless its index is too long to be written. -/
def Device.write (d : Device) : Except Fault String :=
  Numeral.writing [d.index] d.line

/-- The four parts of a line without blanks at its ends: index, name, label and value. -/
def Report.parts? (text : List Char) : Option (List Char × List Char × List Char × List Char) := do
  let (index, rest) ← splitFirst? '-' text
  let (rest, value) ← splitLast? '-' rest
  let (name, label) ← splitLast? '-' rest
  if name = [] ∨ label = [] ∨ value = [] then none else some (index, name, label, value)

/-- The report that a line stands for. -/
def Report.ofLine? (line : String) : Option Report := do
  let (index, name, label, value) ← parts? (Text.strip Text.isBlank line.toList)
  let index ← Numeral.ofChars? index
  let value ← Numeral.ofChars? value
  if index < 0 then none else some ⟨index, String.ofList name, String.ofList label, value⟩

/-- The report that a line stands for, or the line in an error. -/
def Report.ofLine (line : String) : Except Report.Malformed Report :=
  match ofLine? line with
  | some report => .ok report
  | none => .error ⟨line⟩

end GpuTelemetry
