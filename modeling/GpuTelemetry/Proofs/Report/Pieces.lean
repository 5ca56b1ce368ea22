import Mathlib.Algebra.GroupWithZero.Nat
import GpuTelemetry.Proofs.Output
import GpuTelemetry.Proofs.Report.Line

/-!
# Pieces of an output

A consumer cuts an output at its line feeds and reads each piece as a report line. The pieces of
printed reports stand for these reports if and only if each name is one line and each value is
neither negative nor too long for a numeral: `Report.pieces_read_back_iff`.
-/

namespace GpuTelemetry

/-! ## Pieces -/

namespace Console

/-- The pieces of a text between its line feeds. What stands behind the last line feed is no piece
if it is empty. -/
def pieces (text : String) : List String :=
  let parts := text.toList.splitOn '\n'
  (if parts.getLast? = some [] then parts.dropLast else parts).map String.ofList

theorem length_splitOn (separator : Char) (cs : List Char) :
    (cs.splitOn separator).length = cs.count separator + 1 := by
  induction cs with
  | nil => rfl
  | cons c rest ih =>
      have cut := List.splitOnP_cons_eq_if_modifyHead (p := (· == separator)) c rest
      unfold List.splitOn at ih ⊢
      rw [cut, List.count_cons]
      split <;> simp [ih]

/-- Each text between line feeds is a piece, and a text that holds line feeds is several. -/
theorem pieces_lines (texts : List String) :
    pieces (lines texts) =
      texts.flatMap fun text => (text.toList.splitOn '\n').map String.ofList := by
  have parts : (lines texts).toList.splitOn '\n' =
      (texts.flatMap fun text => text.toList.splitOn '\n') ++ [[]] := by
    unfold lines
    rw [String.toList_join]
    induction texts with
    | nil => rfl
    | cons text rest ih =>
        have front : (text ++ "\n").toList = text.toList ++ ['\n'] := String.toList_append ..
        rw [List.map_cons, List.flatMap_cons, front, List.append_assoc, List.singleton_append,
          List.splitOn_append_cons_self, ih, List.flatMap_cons, List.append_assoc]
  unfold pieces
  dsimp only
  -- The last line feed has nothing behind it, which is no piece.
  rw [parts, List.getLast?_concat, if_pos rfl, List.dropLast_concat, List.map_flatMap]

/-- There is a piece for each text and one for each line feed in it. -/
theorem length_pieces_lines (texts : List String) :
    (pieces (lines texts)).length = (texts.map fun text => text.toList.count '\n' + 1).sum := by
  rw [pieces_lines, List.length_flatMap]
  simp only [List.length_map, length_splitOn]

/-- Texts without line feeds are their own pieces. -/
theorem pieces_lines_of_plain {texts : List String}
    (plain : ∀ text ∈ texts, '\n' ∉ text.toList) : pieces (lines texts) = texts := by
  rw [pieces_lines]
  induction texts with
  | nil => rfl
  | cons text rest ih =>
      rw [List.flatMap_cons, List.splitOn_eq_singleton (plain text List.mem_cons_self),
        ih fun other member => plain other (List.mem_cons_of_mem _ member)]
      simp

/-- If there are as many pieces as texts, none of the texts holds a line feed. -/
theorem plain_of_length_pieces {texts : List String}
    (length : (pieces (lines texts)).length = texts.length) :
    ∀ text ∈ texts, '\n' ∉ text.toList := by
  rw [length_pieces_lines] at length
  -- Every text accounts for one piece at least, so none is left for a second piece of any text.
  have atLeast : ∀ rest : List String,
      rest.length ≤ (rest.map fun text => text.toList.count '\n' + 1).sum := by
    intro rest
    induction rest with
    | nil => exact Nat.le_refl _
    | cons text rest ih =>
        simp only [List.length_cons, List.map_cons, List.sum_cons]
        omega
  induction texts with
  | nil => exact nofun
  | cons text rest ih =>
      simp only [List.length_cons, List.map_cons, List.sum_cons] at length
      have others := atLeast rest
      have absent : text.toList.count '\n' = 0 := by omega
      exact List.forall_mem_cons.mpr ⟨List.count_eq_zero.mp absent, ih (by omega)⟩

end Console

/-! ## Lines of reports -/

namespace Report

/-- What a line asks of the report of a device: a name of one line, and a value that can be read
without a sign. -/
structure Legible (r : Report) : Prop where
  name : '\n' ∉ r.name.toList
  value : 0 ≤ r.value
  short : Numeral.digitCount r.value ≤ Numeral.digitLimit

/-- The report of a metric of a device that was found, with an index that numerals can show. -/
structure Sound (r : Report) : Prop where
  index : 0 ≤ r.index
  short : Numeral.digitCount r.index ≤ Numeral.digitLimit
  name : r.name ≠ ""
  metric : ∃ metric : Metric, r.label = metric.label

/-- A report line holds a line feed only if the name does. -/
theorem lineFeed_notMem_line {r : Report} (sound : r.Sound) :
    '\n' ∉ r.line.toList ↔ '\n' ∉ r.name.toList := by
  obtain ⟨metric, label⟩ := sound.metric
  have plain : '\n' ∉ r.label.toList := by
    rw [label]
    cases metric <;> decide
  have index := Numeral.lineFeed_notMem_write r.index
  have value := Numeral.lineFeed_notMem_write r.value
  rw [toList_line]
  simp [Parts.text, parts, plain, index, value]

theorem ofLine_line_iff {r : Report} (sound : r.Sound) :
    ofLine r.line = .ok r ↔ 0 ≤ r.value ∧ Numeral.digitCount r.value ≤ Numeral.digitLimit := by
  obtain ⟨metric, label⟩ := sound.metric
  obtain ⟨named, plain⟩ := plain_label metric
  constructor
  · intro read
    obtain ⟨short, portable⟩ := portable_of_ofLine read
    exact ⟨portable.value, short.value⟩
  · rintro ⟨positive, short⟩
    exact ofLine_line ⟨sound.short, short⟩
      ⟨sound.index, positive, sound.name, label ▸ named, label ▸ plain⟩

/-- The pieces of printed reports stand for these reports if and only if each of them is legible. -/
theorem pieces_read_back_iff {reports : List Report} (sound : ∀ r ∈ reports, r.Sound) :
    (Console.pieces (Console.lines (reports.map line))).map ofLine = reports.map .ok ↔
      ∀ r ∈ reports, r.Legible := by
  constructor
  · intro read r member
    -- The number of pieces alone shows that no line was cut, and then the pieces are the lines.
    have length := congrArg List.length read
    simp only [List.length_map] at length
    have plain : ∀ text ∈ reports.map line, '\n' ∉ text.toList :=
      Console.plain_of_length_pieces (by simpa using length)
    rw [Console.pieces_lines_of_plain plain, List.map_map] at read
    have each := List.map_inj_left.mp read r member
    rw [Function.comp_apply] at each
    obtain ⟨value, short⟩ := (ofLine_line_iff (sound r member)).mp each
    have name := plain r.line (List.mem_map_of_mem member)
    exact ⟨(lineFeed_notMem_line (sound r member)).mp name, value, short⟩
  · intro legible
    have plain : ∀ text ∈ reports.map line, '\n' ∉ text.toList := by
      rw [List.forall_mem_map]
      exact fun r member => (lineFeed_notMem_line (sound r member)).mpr (legible r member).name
    rw [Console.pieces_lines_of_plain plain, List.map_map]
    refine List.map_inj_left.mpr fun r member => ?_
    have readable := legible r member
    rw [Function.comp_apply]
    exact (ofLine_line_iff (sound r member)).mpr ⟨readable.value, readable.short⟩

end Report

end GpuTelemetry
