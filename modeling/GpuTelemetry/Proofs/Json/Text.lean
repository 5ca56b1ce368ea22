import Mathlib.Tactic.SplitIfs
import GpuTelemetry.Json.Reader

/-!
# Texts in JSON documents

A text that has been written into a document is read back, whatever characters it holds: the escapes
stand for the UTF-16 units of the characters (`unitsOf_escape`), and units are joined to the
characters they come from (`joinUnits_units`).

Main statement: `readText_quoted`.
-/

namespace GpuTelemetry.Json

/-! ## Escapes -/

theorem hexDigit?_digit {d : Nat} (small : d < 16) :
    hexDigit? ((Nat.toDigits 16 d).headD '0') = some d := by
  have all : ∀ d < 16, hexDigit? ((Nat.toDigits 16 d).headD '0') = some d := by decide
  exact all d small

/-- Four hexadecimal digits stand for the unit that they have been written for. -/
theorem hexUnit?_hex {unit : Nat} (small : unit < 0x10000) :
    ∃ a b c d, Text.hex 4 unit = [a, b, c, d] ∧ hexUnit? a b c d = some unit := by
  refine ⟨_, _, _, _, rfl, ?_⟩
  unfold hexUnit?
  rw [hexDigit?_digit (Nat.mod_lt _ (by decide)), hexDigit?_digit (Nat.mod_lt _ (by decide)),
    hexDigit?_digit (Nat.mod_lt _ (by decide)), hexDigit?_digit (Nat.mod_lt _ (by decide))]
  show some _ = some unit
  congr 1
  omega

theorem valid_code (c : Char) :
    c.toNat < 0xD800 ∨ 0xDFFF < c.toNat ∧ c.toNat < 0x110000 :=
  c.valid

theorem units_of_lt {c : Char} (small : c.toNat < 0x10000) : units c = [c.toNat] :=
  if_pos small

theorem units_of_le {c : Char} (large : 0x10000 ≤ c.toNat) :
    units c = [0xD800 + (c.toNat - 0x10000) / 0x400, 0xDC00 + (c.toNat - 0x10000) % 0x400] :=
  if_neg (Nat.not_lt.mpr large)

theorem units_small (c : Char) : ∀ unit ∈ units c, unit < 0x10000 := by
  have valid := valid_code c
  intro unit member
  by_cases small : c.toNat < 0x10000
  · rw [units_of_lt small] at member
    cases List.mem_singleton.mp member
    exact small
  · rw [units_of_le (Nat.le_of_not_lt small)] at member
    simp only [List.mem_cons, List.not_mem_nil, or_false] at member
    omega

section Units

variable {cs rest : List Char} {us : List Nat}

/-- An escape of one letter is read as the unit that it stands for. -/
theorem unitsOf_letter {letter : Char} {code : Nat} (plain : letter ≠ 'u')
    (stands : letterEscape? letter = some code) (behind : unitsOf cs = some (us, rest)) :
    unitsOf ('\\' :: letter :: cs) = some (code :: us, rest) := by
  rw [unitsOf.eq_4 _ _ fun _ _ _ _ _ same _ => plain same, stands, behind]
  rfl

/-- Escapes by code are read as the units that they stand for. -/
theorem unitsOf_codes {codes : List Nat} (small : ∀ unit ∈ codes, unit < 0x10000)
    (behind : unitsOf cs = some (us, rest)) :
    unitsOf ((codes.flatMap fun unit => '\\' :: 'u' :: Text.hex 4 unit) ++ cs) =
      some (codes ++ us, rest) := by
  induction codes with
  | nil => exact behind
  | cons unit codes ih =>
      obtain ⟨first, others⟩ := List.forall_mem_cons.mp small
      obtain ⟨a, b, c, d, written, read⟩ := hexUnit?_hex first
      rw [List.flatMap_cons, written]
      simp only [List.cons_append, List.nil_append]
      rw [unitsOf, read, ih others]
      rfl

/-- A character stands for itself unless it is a control character, a quote or a backslash. -/
theorem unitsOf_plain {c : Char} (printed : 0x20 ≤ c.toNat) (quote : c ≠ '"')
    (backslash : c ≠ '\\') (behind : unitsOf cs = some (us, rest)) :
    unitsOf (c :: cs) = some (c.toNat :: us, rest) := by
  have stands : ¬ (c = '\\' ∨ c.toNat < 0x20) :=
    not_or.mpr ⟨backslash, Nat.not_lt.mpr printed⟩
  rw [unitsOf.eq_5 _ _ quote (fun _ _ _ _ _ same _ => backslash same)
    (fun _ _ same _ => backslash same), if_neg stands, behind]
  rfl

/-- An escaped character is read as its units. -/
theorem unitsOf_escape (c : Char) (behind : unitsOf cs = some (us, rest)) :
    unitsOf (escape c ++ cs) = some (units c ++ us, rest) := by
  unfold escape
  -- One case for each branch of the escape, in their order.
  split_ifs with special feed turn tab back form printed
  · rcases special with rfl | rfl <;> exact unitsOf_letter (by decide) rfl behind
  · cases feed
    exact unitsOf_letter (by decide) rfl behind
  · cases turn
    exact unitsOf_letter (by decide) rfl behind
  · cases tab
    exact unitsOf_letter (by decide) rfl behind
  · rw [units_of_lt (by omega), back]
    exact unitsOf_letter (by decide) rfl behind
  · rw [units_of_lt (by omega), form]
    exact unitsOf_letter (by decide) rfl behind
  · rw [units_of_lt (by omega)]
    exact unitsOf_plain printed.1 (fun same => special (.inl same))
      (fun same => special (.inr same)) behind
  · exact unitsOf_codes (units_small c) behind

/-- The units of a text end at the quote behind it. -/
theorem unitsOf_quoted (cs rest : List Char) :
    unitsOf (cs.flatMap escape ++ '"' :: rest) = some (cs.flatMap units, rest) := by
  induction cs with
  | nil => exact unitsOf.eq_2 rest
  | cons c cs ih =>
      rw [List.flatMap_cons, List.append_assoc]
      exact unitsOf_escape c ih

end Units

/-! ## Characters -/

theorem charOf?_toNat (c : Char) : charOf? c.toNat = some c := by
  have valid := valid_code c
  unfold charOf?
  rw [if_neg (by omega), Char.ofNat_toNat]

/-- The units of a character are joined to it, apart from those behind them. -/
theorem joinUnits_append (c : Char) (us : List Nat) :
    joinUnits (units c ++ us) = (joinUnits us).map (c :: ·) := by
  have valid := valid_code c
  by_cases small : c.toNat < 0x10000
  · rw [units_of_lt small, List.singleton_append]
    cases us with
    | nil =>
        rw [joinUnits.eq_2, charOf?_toNat, joinUnits.eq_1]
        rfl
    | cons next us =>
        rw [joinUnits, if_neg (by omega), charOf?_toNat]
        cases joinUnits (next :: us) <;> rfl
  · -- A character beyond the first plane: the first unit of its pair is followed by the second.
    have pair : 0xD800 ≤ 0xD800 + (c.toNat - 0x10000) / 0x400 ∧
        0xD800 + (c.toNat - 0x10000) / 0x400 ≤ 0xDBFF ∧
        0xDC00 ≤ 0xDC00 + (c.toNat - 0x10000) % 0x400 ∧
        0xDC00 + (c.toNat - 0x10000) % 0x400 ≤ 0xDFFF := by
      omega
    have code : 0x10000 + (0xD800 + (c.toNat - 0x10000) / 0x400 - 0xD800) * 0x400 +
        (0xDC00 + (c.toNat - 0x10000) % 0x400 - 0xDC00) = c.toNat := by
      omega
    rw [units_of_le (Nat.le_of_not_lt small)]
    simp only [List.cons_append, List.nil_append]
    rw [joinUnits, if_pos pair, code, Char.ofNat_toNat]

theorem joinUnits_units (cs : List Char) : joinUnits (cs.flatMap units) = some cs := by
  induction cs with
  | nil => rw [List.flatMap_nil, joinUnits]
  | cons c cs ih =>
      rw [List.flatMap_cons, joinUnits_append, ih]
      rfl

/-- A text behind its opening quote is read back. -/
theorem readText_quoted (s : String) (rest : List Char) :
    readText (s.toList.flatMap escape ++ '"' :: rest) = some (s, rest) := by
  unfold readText
  rw [unitsOf_quoted]
  show (do return (String.ofList (← joinUnits (s.toList.flatMap units)), rest)) = some (s, rest)
  rw [joinUnits_units]
  exact congrArg (fun t => some (t, rest)) (String.ofList_toList)

end GpuTelemetry.Json
