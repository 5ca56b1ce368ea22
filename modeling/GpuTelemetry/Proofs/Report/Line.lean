import GpuTelemetry.Proofs.Numeral
import GpuTelemetry.Proofs.Writing

/-!
# Reading report lines

The grammar of report lines stands beside their reader: a line is read if, without the blanks at its
ends, it consists of an index, a name, a label and a value with dashes between them, of which only
the name may hold dashes of its own (`Report.Parts.Spell`). Main statements:

* `Report.reading_accepts_grammar`: the reader accepts exactly the grammar, a line has at most one
  such decomposition, and the line of a report that was read is read as the same report again;
* `Report.line_read_back_iff`: which reports are read back from their own lines. The line of any
  other report of a metric is refused, and never taken for a different report.
-/

namespace GpuTelemetry

/-! ## Splitting at a separator -/

theorem splitFirst?_eq_some_iff {separator : Char} {cs before behind : List Char} :
    splitFirst? separator cs = some (before, behind) ↔
      cs = before ++ separator :: behind ∧ separator ∉ before := by
  constructor
  · intro split
    induction cs generalizing before with
    | nil => cases split
    | cons c rest ih =>
        unfold splitFirst? at split
        by_cases here : c = separator
        · rw [if_pos here] at split
          cases split
          exact ⟨by rw [here]; rfl, List.not_mem_nil⟩
        · rw [if_neg here] at split
          obtain ⟨⟨front, back⟩, later, same⟩ := Option.map_eq_some_iff.mp split
          cases same
          obtain ⟨shape, absent⟩ := ih later
          refine ⟨by rw [shape]; rfl, ?_⟩
          intro member
          rcases List.mem_cons.mp member with first | inside
          · exact here first.symm
          · exact absent inside
  · rintro ⟨rfl, absent⟩
    induction before with
    | nil => simp [splitFirst?]
    | cons c rest ih =>
        have apart : c ≠ separator := fun same => absent (List.mem_cons.mpr (.inl same.symm))
        have later := ih fun inside => absent (List.mem_cons_of_mem c inside)
        simp [splitFirst?, apart, later]

theorem splitLast?_eq_some_iff {separator : Char} {cs before behind : List Char} :
    splitLast? separator cs = some (before, behind) ↔
      cs = before ++ separator :: behind ∧ separator ∉ behind := by
  unfold splitLast?
  constructor
  · intro split
    obtain ⟨⟨back, front⟩, reversed, same⟩ := Option.map_eq_some_iff.mp split
    cases same
    -- The last separator is the first one from behind.
    obtain ⟨shape, absent⟩ := splitFirst?_eq_some_iff.mp reversed
    have shape := congrArg List.reverse shape
    rw [List.reverse_reverse] at shape
    exact ⟨by rw [shape]; simp, by simpa using absent⟩
  · rintro ⟨rfl, absent⟩
    have reversed : splitFirst? separator (before ++ separator :: behind).reverse =
        some (behind.reverse, before.reverse) :=
      splitFirst?_eq_some_iff.mpr ⟨by simp, by simpa using absent⟩
    rw [reversed]
    simp

/-- A text is cut at its first separator in one way only. -/
theorem cut_first {separator : Char} {a b c d : List Char}
    (same : a ++ separator :: b = c ++ separator :: d) (left : separator ∉ a)
    (right : separator ∉ c) : a = c ∧ b = d := by
  have one : splitFirst? separator (a ++ separator :: b) = some (a, b) :=
    splitFirst?_eq_some_iff.mpr ⟨rfl, left⟩
  have two : splitFirst? separator (c ++ separator :: d) = some (c, d) :=
    splitFirst?_eq_some_iff.mpr ⟨rfl, right⟩
  rw [same, two] at one
  exact ⟨(congrArg Prod.fst (Option.some.inj one)).symm,
    (congrArg Prod.snd (Option.some.inj one)).symm⟩

/-- A text is cut at its last separator in one way only. -/
theorem cut_last {separator : Char} {a b c d : List Char}
    (same : a ++ separator :: b = c ++ separator :: d) (left : separator ∉ b)
    (right : separator ∉ d) : a = c ∧ b = d := by
  have one : splitLast? separator (a ++ separator :: b) = some (a, b) :=
    splitLast?_eq_some_iff.mpr ⟨rfl, left⟩
  have two : splitLast? separator (c ++ separator :: d) = some (c, d) :=
    splitLast?_eq_some_iff.mpr ⟨rfl, right⟩
  rw [same, two] at one
  exact ⟨(congrArg Prod.fst (Option.some.inj one)).symm,
    (congrArg Prod.snd (Option.some.inj one)).symm⟩

namespace Report

/-! ## The grammar -/

/-- The four parts of a report line. -/
structure Parts where
  index : List Char
  name : List Char
  label : List Char
  value : List Char

namespace Parts

/-- The parts with dashes between them. -/
def text (p : Parts) : List Char :=
  p.index ++ '-' :: ((p.name ++ '-' :: p.label) ++ '-' :: p.value)

/-- Parts that are told apart by the dashes between them: only the name may hold dashes, and neither
the name nor the label is empty. -/
structure Distinct (p : Parts) : Prop where
  index : '-' ∉ p.index
  name : p.name ≠ []
  label : p.label ≠ []
  plain : '-' ∉ p.label
  value : '-' ∉ p.value

/-- The parts of a line that stands for a report: its index and its value are numerals. -/
structure Spell (p : Parts) (r : Report) : Prop where
  distinct : p.Distinct
  index : Numeral.Denotes p.index r.index
  name : String.ofList p.name = r.name
  label : String.ofList p.label = r.label
  value : Numeral.Denotes p.value r.value

/-- A text is made of distinct parts in one way only. -/
theorem Distinct.eq {p q : Parts} (one : p.Distinct) (two : q.Distinct) (same : p.text = q.text) :
    p = q := by
  -- The first dash ends the index, and the last two stand around the label.
  obtain ⟨index, rest⟩ := cut_first same one.index two.index
  obtain ⟨rest, value⟩ := cut_last rest one.value two.value
  obtain ⟨name, label⟩ := cut_last rest one.plain two.plain
  cases p
  cases q
  cases index
  cases name
  cases label
  cases value
  rfl

end Parts

theorem parts?_eq_some_iff {text : List Char} {p : Parts} :
    parts? text = some (p.index, p.name, p.label, p.value) ↔
      text = p.text ∧ p.Distinct ∧ p.value ≠ [] := by
  unfold parts?
  simp only [Option.bind_eq_bind, Option.bind_eq_some_iff, Prod.exists, splitFirst?_eq_some_iff,
    splitLast?_eq_some_iff, Option.ite_none_left_eq_some, Option.some.injEq, Prod.mk.injEq]
  constructor
  · rintro ⟨_, _, ⟨rfl, index⟩, _, _, ⟨rfl, value⟩, _, _, ⟨rfl, plain⟩, full, rfl, rfl, rfl, rfl⟩
    simp only [not_or] at full
    exact ⟨rfl, ⟨index, full.1, full.2.1, plain, value⟩, full.2.2⟩
  · rintro ⟨rfl, distinct, full⟩
    refine ⟨_, _, ⟨rfl, distinct.index⟩, _, _, ⟨rfl, distinct.value⟩, _, _,
      ⟨rfl, distinct.plain⟩, ?_, rfl, rfl, rfl, rfl⟩
    simp [distinct.name, distinct.label, full]

/-- The reader accepts the grammar and nothing else. -/
theorem ofLine?_eq_some_iff {line : String} {r : Report} :
    ofLine? line = some r ↔
      ∃ p : Parts, p.text = Text.strip Text.isBlank line.toList ∧ p.Spell r := by
  unfold ofLine?
  generalize Text.strip Text.isBlank line.toList = text
  simp only [Option.bind_eq_bind, Option.bind_eq_some_iff, Prod.exists,
    Numeral.ofChars?_eq_some_iff, Option.ite_none_left_eq_some, Option.some.injEq]
  constructor
  · rintro ⟨index, name, label, value, cut, i, denotes, v, denotes', positive, rfl⟩
    let p : Parts := ⟨index, name, label, value⟩
    obtain ⟨shape, distinct, _⟩ := parts?_eq_some_iff (p := p).mp cut
    exact ⟨p, shape.symm, distinct, denotes, rfl, rfl, denotes'⟩
  · rintro ⟨p, rfl, spell⟩
    refine ⟨p.index, p.name, p.label, p.value,
      parts?_eq_some_iff.mpr ⟨rfl, spell.distinct, spell.value.ne_nil⟩, r.index, spell.index,
      r.value, spell.value, ?_, ?_⟩
    · -- An index holds no dash, and so no minus sign.
      exact Int.not_lt.mpr (spell.index.nonneg spell.distinct.index)
    · rw [spell.name, spell.label]

theorem ofLine_eq_ok_iff {line : String} {r : Report} :
    ofLine line = .ok r ↔ ofLine? line = some r := by
  unfold ofLine
  cases ofLine? line <;> simp

/-- A line that stands for no report is refused. -/
theorem ofLine_of_refused {line : String} (refused : ∀ r, ofLine? line ≠ some r) :
    ofLine line = .error ⟨line⟩ := by
  unfold ofLine
  cases read : ofLine? line with
  | none => rfl
  | some r => exact absurd read (refused r)

/-! ## Lines of reports -/

/-- A report that a line can stand for. -/
structure Portable (r : Report) : Prop where
  index : 0 ≤ r.index
  value : 0 ≤ r.value
  name : r.name ≠ ""
  label : r.label ≠ ""
  plain : '-' ∉ r.label.toList

/-- The parts of the line of a report. -/
def parts (r : Report) : Parts :=
  ⟨Numeral.write r.index, r.name.toList, r.label.toList, Numeral.write r.value⟩

theorem toList_line (r : Report) : r.line.toList = r.parts.text := by
  simp [line, Parts.text, parts]

/-- The line of a report has no blanks at its ends, whatever its name holds. -/
theorem strip_line (r : Report) : Text.strip Text.isBlank r.line.toList = r.parts.text := by
  have shape : r.parts.text = Numeral.write r.index ++
      ('-' :: ((r.name.toList ++ '-' :: r.label.toList) ++ ['-'])) ++ Numeral.write r.value := by
    simp [Parts.text, parts]
  rw [toList_line, shape]
  exact Text.strip_of_bare (.between (Numeral.bare_write _) (Numeral.write_ne_nil _)
    (Numeral.bare_write _) (Numeral.write_ne_nil _) _)

/-- The line of a report that lines can stand for stands for it. -/
theorem ofLine_line {r : Report} (short : r.Short) (portable : r.Portable) :
    ofLine r.line = .ok r := by
  obtain ⟨ds, index, _⟩ := Numeral.write_of_nonneg portable.index
  obtain ⟨es, value, _⟩ := Numeral.write_of_nonneg portable.value
  have name : r.name.toList ≠ [] := by simpa using portable.name
  have label : r.label.toList ≠ [] := by simpa using portable.label
  have distinct : r.parts.Distinct :=
    ⟨index.notMem Numeral.digit?_mark.1 (by decide), name, label, portable.plain,
      value.notMem Numeral.digit?_mark.1 (by decide)⟩
  refine ofLine_eq_ok_iff.mpr (ofLine?_eq_some_iff.mpr ⟨r.parts, (strip_line r).symm, ?_⟩)
  exact ⟨distinct, Numeral.denotes_write short.index, String.ofList_toList,
    String.ofList_toList, Numeral.denotes_write short.value⟩

/-- Lines stand for no other reports. -/
theorem portable_of_ofLine {line : String} {r : Report} (read : ofLine line = .ok r) :
    r.Short ∧ r.Portable := by
  obtain ⟨p, _, spell⟩ := ofLine?_eq_some_iff.mp (ofLine_eq_ok_iff.mp read)
  refine ⟨⟨spell.index.digitCount_le, spell.value.digitCount_le⟩, ?_⟩
  refine ⟨spell.index.nonneg spell.distinct.index, spell.value.nonneg spell.distinct.value,
    ?_, ?_, ?_⟩
  · rw [← spell.name]
    simpa using spell.distinct.name
  · rw [← spell.label]
    simpa using spell.distinct.label
  · rw [← spell.label, String.toList_ofList]
    exact spell.distinct.plain

/-- A report with a label that lines can hold is either read back from its line, or its line is
refused: the dashes of its name and the signs of its numbers lead to no other report. -/
theorem portable_of_ofLine_line {r other : Report} (label : r.label ≠ "")
    (plain : '-' ∉ r.label.toList) (read : ofLine r.line = .ok other) : r.Portable := by
  obtain ⟨p, shape, spell⟩ := ofLine?_eq_some_iff.mp (ofLine_eq_ok_iff.mp read)
  rw [strip_line] at shape
  have distinct := spell.distinct
  by_cases index : 0 ≤ r.index
  · obtain ⟨ds, digits, _⟩ := Numeral.write_of_nonneg index
    obtain ⟨_, rest⟩ := cut_first shape distinct.index
      (digits.notMem Numeral.digit?_mark.1 (by decide))
    by_cases value : 0 ≤ r.value
    · obtain ⟨es, digits, _⟩ := Numeral.write_of_nonneg value
      obtain ⟨rest, _⟩ := cut_last rest distinct.value
        (digits.notMem Numeral.digit?_mark.1 (by decide))
      obtain ⟨name, _⟩ := cut_last rest distinct.plain plain
      refine ⟨index, value, ?_, label, plain⟩
      intro empty
      refine distinct.name (name.trans ?_)
      rw [parts, empty]
      rfl
    · -- The minus sign of the value is taken for a separator, and leaves no room for a label.
      obtain ⟨run, es, sign, digits, _⟩ := Numeral.write_of_neg (Int.lt_of_not_ge value)
      have shifted : (p.name ++ '-' :: p.label) ++ '-' :: p.value =
          ((r.name.toList ++ '-' :: r.label.toList) ++ '-' :: []) ++ '-' :: run := by
        rw [rest, parts, sign]
        simp
      obtain ⟨rest, _⟩ := cut_last shifted distinct.value
        (digits.notMem Numeral.digit?_mark.1 (by decide))
      obtain ⟨_, none⟩ := cut_last rest distinct.plain List.not_mem_nil
      exact absurd none distinct.label
  · -- The minus sign of the index is the first dash, and leaves no room for an index.
    obtain ⟨run, ds, sign, _⟩ := Numeral.write_of_neg (Int.lt_of_not_ge index)
    have shifted : p.index ++ '-' :: ((p.name ++ '-' :: p.label) ++ '-' :: p.value) =
        [] ++ '-' :: (run ++ '-' :: ((r.name.toList ++ '-' :: r.label.toList) ++
          '-' :: Numeral.write r.value)) := by
      refine shape.trans ?_
      rw [Parts.text, parts, sign]
      simp
    obtain ⟨none, _⟩ := cut_first shifted distinct.index List.not_mem_nil
    exact absurd none spell.index.ne_nil

/-! ## Main statements -/

/-- The reader accepts exactly the grammar of report lines: a line is read as a report if and only
if, without the blanks at its ends, it is made of distinct parts that spell the report. It is made
of such parts in one way only; a line that is not is refused. The index and the value of a report
that was read are not negative, and its own line is read as the same report. -/
theorem reading_accepts_grammar (line : String) :
    (∀ r, ofLine line = .ok r ↔
      ∃ p : Parts, p.text = Text.strip Text.isBlank line.toList ∧ p.Spell r) ∧
    (∀ (p q : Parts) (r s : Report), p.text = Text.strip Text.isBlank line.toList →
      q.text = Text.strip Text.isBlank line.toList → p.Spell r → q.Spell s → p = q ∧ r = s) ∧
    ((¬ ∃ (p : Parts) (r : Report), p.text = Text.strip Text.isBlank line.toList ∧ p.Spell r) →
      ofLine line = .error ⟨line⟩) ∧
    (∀ r, ofLine line = .ok r → 0 ≤ r.index ∧ 0 ≤ r.value ∧ ofLine r.line = .ok r) := by
  have accepts : ∀ r, ofLine line = .ok r ↔
      ∃ p : Parts, p.text = Text.strip Text.isBlank line.toList ∧ p.Spell r :=
    fun r => ofLine_eq_ok_iff.trans ofLine?_eq_some_iff
  refine ⟨accepts, ?_, ?_, ?_⟩
  · intro p q r s first second spell spell'
    -- Both reports are what is read from the line, and reading gives one at most.
    have one := (accepts r).mpr ⟨p, first, spell⟩
    have two := (accepts s).mpr ⟨q, second, spell'⟩
    refine ⟨spell.distinct.eq spell'.distinct (first.trans second.symm), ?_⟩
    exact Except.ok.inj (one.symm.trans two)
  · intro outside
    refine ofLine_of_refused fun r read => outside ?_
    obtain ⟨p, shape, spell⟩ := ofLine?_eq_some_iff.mp read
    exact ⟨p, r, shape, spell⟩
  · intro r read
    obtain ⟨short, portable⟩ := portable_of_ofLine read
    exact ⟨portable.index, portable.value, ofLine_line short portable⟩

/-- The label of a metric can stand in a line. -/
theorem plain_label (metric : Metric) : metric.label ≠ "" ∧ '-' ∉ metric.label.toList := by
  cases metric <;> decide

/-- A report is read back from its line if and only if its index and its value are not negative, its
name and its label are not empty and its label holds no dash. If it is the report of a metric and
does not meet this, its line is refused and stands for no other report either. -/
theorem line_read_back_iff (r : Report) (short : r.Short) :
    (ofLine r.line = .ok r ↔
      0 ≤ r.index ∧ 0 ≤ r.value ∧ r.name ≠ "" ∧ r.label ≠ "" ∧ '-' ∉ r.label.toList) ∧
    ∀ (device : Device) (metric : Metric) (value : Int), r = Report.of device metric value →
      ¬ (0 ≤ r.index ∧ 0 ≤ r.value ∧ r.name ≠ "" ∧ r.label ≠ "" ∧ '-' ∉ r.label.toList) →
      ofLine r.line = .error ⟨r.line⟩ := by
  have portable_iff : r.Portable ↔
      0 ≤ r.index ∧ 0 ≤ r.value ∧ r.name ≠ "" ∧ r.label ≠ "" ∧ '-' ∉ r.label.toList :=
    ⟨fun p => ⟨p.index, p.value, p.name, p.label, p.plain⟩,
      fun ⟨index, value, name, label, plain⟩ => ⟨index, value, name, label, plain⟩⟩
  rw [← portable_iff]
  refine ⟨⟨fun read => (portable_of_ofLine read).2, ofLine_line short⟩, ?_⟩
  intro device metric value made bad
  have label : r.label = metric.label := by rw [made, Report.of]
  obtain ⟨named, plain⟩ := plain_label metric
  refine ofLine_of_refused fun other read => bad ?_
  exact portable_of_ofLine_line (label ▸ named) (label ▸ plain) (ofLine_eq_ok_iff.mpr read)

/-- A name of dashes and line feeds is read back, and with a negative value its line is refused. -/
theorem dashed_lines_read_back :
    let r : Report := ⟨12, "-A100\n-40GB -", "gpu_util", 87⟩
    let s : Report := ⟨12, "-A100\n-40GB -", "gpu_util", -87⟩
    r.Short ∧ s.Short ∧ ofLine r.line = .ok r ∧ ofLine s.line = .error ⟨s.line⟩ := by
  intro r s
  have short : r.Short := ⟨by decide +kernel, by decide +kernel⟩
  have short' : s.Short := ⟨by decide +kernel, by decide +kernel⟩
  refine ⟨short, short', (line_read_back_iff r short).1.mpr (by decide), ?_⟩
  exact (line_read_back_iff s short').2 ⟨12, "-A100\n-40GB -", .slot 12⟩ .utilization (-87) rfl
    (by decide)

end Report

end GpuTelemetry
