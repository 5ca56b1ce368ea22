import Mathlib.Data.List.TakeDrop
import GpuTelemetry.Proofs.Json.Text
import GpuTelemetry.Proofs.Numeral

/-!
# Reading documents back

A value that has been laid out over lines is read back as it was, provided that no number in it is
longer than a numeral may be (`Legible`). The bound on the parts of a text that the reader starts
out with is enough for everything that is written.

Main statement: `read_pretty`.
-/

namespace GpuTelemetry.Json

/-- Values whose numbers have no more digits than a numeral may have. -/
inductive Legible : Json → Prop
  | null : Legible .null
  | bool (b : Bool) : Legible (.bool b)
  | int (n : Int) (short : Numeral.digitCount n ≤ Numeral.digitLimit) : Legible (.int n)
  | text (s : String) : Legible (.text s)
  | array (items : List Json) (each : ∀ item ∈ items, Legible item) : Legible (.array items)
  | object (members : List (String × Json)) (each : ∀ member ∈ members, Legible member.2) :
      Legible (.object members)

/-! ## Blanks -/

def isBlank (c : Char) : Bool :=
  c = ' ' || c = '\t' || c = '\n' || c = '\r'

theorem skipBlanks_cons {c : Char} (bare : isBlank c = false) (cs : List Char) :
    skipBlanks (c :: cs) = c :: cs :=
  List.dropWhile_cons_of_neg (by simpa [isBlank] using bare)

theorem skipBlanks_blank {c : Char} (blank : isBlank c = true) (cs : List Char) :
    skipBlanks (c :: cs) = skipBlanks cs :=
  List.dropWhile_cons_of_pos (by simpa [isBlank] using blank)

theorem skipBlanks_spaces (n : Nat) (cs : List Char) :
    skipBlanks (List.replicate n ' ' ++ cs) = skipBlanks cs := by
  induction n with
  | zero => rfl
  | succ n ih => rw [List.replicate_succ, List.cons_append, skipBlanks_blank rfl, ih]

theorem skipBlanks_lineStart (level : Nat) (cs : List Char) :
    skipBlanks (lineStart level ++ cs) = skipBlanks cs := by
  unfold lineStart
  rw [List.cons_append, skipBlanks_blank rfl, skipBlanks_spaces]

/-- Blanks before a value make no difference. -/
theorem readValue_congr {cs ds : List Char} (same : skipBlanks cs = skipBlanks ds) (parts : Nat) :
    readValue parts cs = readValue parts ds := by
  cases parts with
  | zero => rw [readValue, readValue]
  | succ parts => rw [readValue, readValue, same]

/-! ## Numbers -/

/-- What can follow a number: nothing, or a character that is not one of its digits. -/
def Ends (rest : List Char) : Prop :=
  ∀ c ∈ rest.head?, ¬ (0x30 ≤ c.toNat ∧ c.toNat ≤ 0x39)

theorem ends_nil : Ends [] := nofun

theorem ends_cons {c : Char} (other : ¬ (0x30 ≤ c.toNat ∧ c.toNat ≤ 0x39)) (cs : List Char) :
    Ends (c :: cs) := by
  intro d first
  cases first
  exact other

theorem digit_writeNat (n : Nat) :
    ∀ c ∈ Numeral.writeNat n, 0x30 ≤ c.toNat ∧ c.toNat ≤ 0x39 := by
  have shown : ∀ d < 10,
      0x30 ≤ (Numeral.digitChar d).toNat ∧ (Numeral.digitChar d).toNat ≤ 0x39 := by
    decide
  induction n using Numeral.writeNat.induct with
  | case1 n small =>
      rw [Numeral.writeNat_of_lt small]
      exact List.forall_mem_singleton.mpr (shown n small)
  | case2 n large ih =>
      rw [Numeral.writeNat_of_le (Nat.le_of_not_lt large)]
      exact List.forall_mem_append.mpr
        ⟨ih, List.forall_mem_singleton.mpr (shown _ (Nat.mod_lt _ (by decide)))⟩

/-- The digits of a number end where something else begins. -/
theorem span_digits {run rest : List Char}
    (digits : ∀ c ∈ run, 0x30 ≤ c.toNat ∧ c.toNat ≤ 0x39) (ends : Ends rest) :
    (run ++ rest).span (fun c => 0x30 ≤ c.toNat && c.toNat ≤ 0x39) = (run, rest) := by
  have shown : ∀ c ∈ run, (decide (0x30 ≤ c.toNat) && decide (c.toNat ≤ 0x39)) = true := by
    simpa using digits
  rw [List.span_eq_takeWhile_dropWhile, List.takeWhile_append_of_pos shown,
    List.dropWhile_append_of_pos shown]
  cases rest with
  | nil => simp
  | cons c rest =>
      have other := ends c rfl
      rw [List.takeWhile_cons_of_neg (by simpa using other),
        List.dropWhile_cons_of_neg (by simpa using other), List.append_nil]

theorem readInt_write {n : Int} (short : Numeral.digitCount n ≤ Numeral.digitLimit)
    {rest : List Char} (ends : Ends rest) : readInt (Numeral.write n ++ rest) = some (n, rest) := by
  cases n with
  | ofNat m =>
      obtain ⟨ds, shown, length, value⟩ := Numeral.exists_digits m
      have read : Numeral.signed? ([] ++ Numeral.writeNat m) = some (Int.ofNat m) :=
        Numeral.signed?_of_run shown (length ▸ short)
          (.inr ⟨.inr rfl, by rw [value]; rfl⟩)
      obtain ⟨c, d, tail, start, digit⟩ := shown.first
      -- The first character of a number that is not negative is a digit, and no sign is taken off.
      have unsigned : ∀ more, Numeral.writeNat m ++ rest ≠ '-' :: more := by
        rw [start]
        exact fun more same =>
          Numeral.ne_of_digit digit Numeral.digit?_mark.1 (List.cons.inj same).1
      show readInt (Numeral.writeNat m ++ rest) = _
      unfold readInt
      split
      next sign digits matched =>
        split at matched
        · next minus => exact absurd minus (unsigned _)
        · cases matched
          simp only [span_digits (digit_writeNat m) ends, read]
          rfl
  | negSucc m =>
      obtain ⟨ds, shown, length, value⟩ := Numeral.exists_digits (m + 1)
      have read : Numeral.signed? (['-'] ++ Numeral.writeNat (m + 1)) = some (Int.negSucc m) :=
        Numeral.signed?_of_run shown (length ▸ short)
          (.inl ⟨rfl, by rw [value]; rfl⟩)
      show readInt ('-' :: (Numeral.writeNat (m + 1) ++ rest)) = _
      simp only [readInt, span_digits (digit_writeNat (m + 1)) ends, read]
      rfl

/-! ## Values -/

/-- A value is read back from its lines, with what follows them left. -/
def Reads (v : Json) : Prop :=
  ∀ {level parts : Nat} {rest : List Char}, 2 * (v.write level).length ≤ parts → Ends rest →
    readValue parts (v.write level ++ rest) = some (v, rest)

/-- How a number starts. -/
def StartsNumber (c : Char) : Prop :=
  c.toNat = 0x2D ∨ 0x30 ≤ c.toNat ∧ c.toNat ≤ 0x39

instance (c : Char) : Decidable (StartsNumber c) :=
  inferInstanceAs (Decidable (_ ∨ _))

theorem write_start (n : Int) : ∃ c tail, Numeral.write n = c :: tail ∧ StartsNumber c := by
  cases n with
  | ofNat m =>
      obtain ⟨c, tail, start⟩ := List.exists_cons_of_ne_nil (Numeral.write_ne_nil m)
      have written : c ∈ Numeral.write m := start ▸ List.mem_cons_self
      exact ⟨c, tail, start, .inr (digit_writeNat m c written)⟩
  | negSucc m => exact ⟨'-', _, rfl, .inl rfl⟩

theorem StartsNumber.bare {c : Char} (number : StartsNumber c) : isBlank c = false := by
  refine Bool.eq_false_iff.mpr fun blank => ?_
  simp only [isBlank, Bool.or_eq_true, decide_eq_true_eq] at blank
  rcases blank with ((rfl | rfl) | rfl) | rfl <;> exact absurd number (by decide)

/-- A value starts with no blank, and not as the end of an array. -/
theorem value_start (v : Json) (level : Nat) :
    ∃ c tail, v.write level = c :: tail ∧ isBlank c = false ∧ c ≠ ']' := by
  cases v with
  | null => exact ⟨'n', _, rfl, rfl, by decide⟩
  | bool b => cases b <;> exact ⟨_, _, rfl, rfl, by decide⟩
  | int n =>
      -- A number starts with a digit or a minus sign.
      obtain ⟨c, tail, start, number⟩ := write_start n
      refine ⟨c, tail, start, number.bare, ?_⟩
      rintro rfl
      exact absurd number (by decide)
  | text s => exact ⟨'"', _, rfl, rfl, by decide⟩
  | array items =>
      cases items with
      | nil => exact ⟨'[', _, rfl, rfl, by decide⟩
      | cons item rest => exact ⟨'[', _, rfl, rfl, by decide⟩
  | object members =>
      cases members with
      | nil => exact ⟨'\x7b', _, rfl, rfl, by decide⟩
      | cons member rest => exact ⟨'\x7b', _, rfl, rfl, by decide⟩

/-- A value starts where the blanks before it end. -/
theorem skipBlanks_write (v : Json) (level : Nat) (rest : List Char) :
    skipBlanks (v.write level ++ rest) = v.write level ++ rest := by
  obtain ⟨c, tail, start, bare, _⟩ := value_start v level
  rw [start, List.cons_append, skipBlanks_cons bare]

/-- There is a part for a value that has been written. -/
theorem exists_part {v : Json} {level parts : Nat} (enough : 2 * (v.write level).length ≤ parts) :
    ∃ others, parts = others + 1 := by
  obtain ⟨c, tail, start, _⟩ := value_start v level
  rw [start, List.length_cons] at enough
  exact ⟨parts - 1, by omega⟩

theorem readValue_number {c : Char} (number : StartsNumber c) (parts : Nat) (cs : List Char) :
    readValue (parts + 1) (c :: cs) =
      (readInt (c :: cs)).map fun (n, rest) => (.int n, rest) := by
  -- The reader tells all other kinds of values by a first character that starts no number.
  have other : ∀ d : Char, ¬ StartsNumber d → ∀ ds, c :: cs = d :: ds → False := by
    intro d plain ds same
    cases same
    exact plain number
  rw [readValue, skipBlanks_cons number.bare]
  split
  · next same => exact (other '"' (by decide) _ same).elim
  · next same => exact (other '[' (by decide) _ same).elim
  · next same => exact (other '\x7b' (by decide) _ same).elim
  · next same => exact (other 't' (by decide) _ same).elim
  · next same => exact (other 'f' (by decide) _ same).elim
  · next same => exact (other 'n' (by decide) _ same).elim
  · rfl

theorem reads_int {n : Int} (short : Numeral.digitCount n ≤ Numeral.digitLimit) :
    Reads (.int n) := by
  intro level parts rest enough ends
  obtain ⟨parts, rfl⟩ := exists_part enough
  obtain ⟨c, tail, start, number⟩ := write_start n
  have read := readInt_write short ends
  show readValue (parts + 1) (Numeral.write n ++ rest) = _
  rw [start, List.cons_append] at read ⊢
  rw [readValue_number number, read]
  rfl

theorem reads_text (s : String) : Reads (.text s) := by
  intro level parts rest enough ends
  obtain ⟨parts, rfl⟩ := exists_part enough
  have shape : (Json.text s).write level ++ rest =
      '"' :: (s.toList.flatMap escape ++ '"' :: rest) := by
    simp [write, quote]
  rw [readValue, skipBlanks_write, shape]
  show (readText _).map _ = _
  rw [readText_quoted]
  rfl

theorem dropWord?_append (word rest : List Char) : dropWord? word (word ++ rest) = some rest := by
  induction word with
  | nil => rfl
  | cons c word ih => rw [List.cons_append, dropWord?, if_pos rfl, ih]

theorem reads_null : Reads .null := by
  intro level parts rest enough ends
  obtain ⟨parts, rfl⟩ := exists_part enough
  rw [readValue, skipBlanks_write]
  exact congrArg (Option.map _) (dropWord?_append "ull".toList rest)

theorem reads_bool (b : Bool) : Reads (.bool b) := by
  intro level parts rest enough ends
  obtain ⟨parts, rfl⟩ := exists_part enough
  rw [readValue, skipBlanks_write]
  cases b with
  | true => exact congrArg (Option.map _) (dropWord?_append "rue".toList rest)
  | false => exact congrArg (Option.map _) (dropWord?_append "alse".toList rest)

/-! ## Steps of the reader -/

section Steps

variable {parts : Nat} {cs tail behind rest : List Char} {value : Json} {name : String}

theorem readItems_last (first : readValue parts cs = some (value, tail))
    (closing : skipBlanks tail = ']' :: rest) :
    readItems (parts + 1) cs = some ([value], rest) := by
  rw [readItems, first]
  simp only [Option.bind_eq_bind, Option.bind_some, closing]
  rfl

theorem readItems_next {items : List Json} (first : readValue parts cs = some (value, tail))
    (comma : skipBlanks tail = ',' :: behind)
    (others : readItems parts behind = some (items, rest)) :
    readItems (parts + 1) cs = some (value :: items, rest) := by
  rw [readItems, first]
  simp only [Option.bind_eq_bind, Option.bind_some, comma, others]
  rfl

theorem skipBlanks_quote (level : Nat) (name : String) (cs : List Char) :
    skipBlanks (lineStart level ++ (quote name ++ cs)) =
      '"' :: (name.toList.flatMap escape ++ '"' :: cs) := by
  rw [skipBlanks_lineStart]
  simp only [quote, List.cons_append, List.append_assoc, List.nil_append]
  exact skipBlanks_cons rfl _

theorem readMembers_last (level : Nat) (first : readValue parts behind = some (value, tail))
    (closing : skipBlanks tail = '\x7d' :: rest) :
    readMembers (parts + 1) (lineStart level ++ (quote name ++ ':' :: behind)) =
      some ([(name, value)], rest) := by
  have colon : skipBlanks (':' :: behind) = ':' :: behind := skipBlanks_cons rfl _
  rw [readMembers]
  simp only [skipBlanks_quote, readText_quoted, colon, first, closing, Option.bind_eq_bind,
    Option.bind_some]
  rfl

theorem readMembers_next (level : Nat) {more : List Char} {members : List (String × Json)}
    (first : readValue parts behind = some (value, tail))
    (comma : skipBlanks tail = ',' :: more)
    (others : readMembers parts more = some (members, rest)) :
    readMembers (parts + 1) (lineStart level ++ (quote name ++ ':' :: behind)) =
      some ((name, value) :: members, rest) := by
  have colon : skipBlanks (':' :: behind) = ':' :: behind := skipBlanks_cons rfl _
  rw [readMembers]
  simp only [skipBlanks_quote, readText_quoted, colon, first, comma, others, Option.bind_eq_bind,
    Option.bind_some]
  rfl

/-- An array that does not end at once has items. -/
theorem readValue_items {items : List Json} (begun : ∀ tail, skipBlanks cs ≠ ']' :: tail)
    (read : readItems parts cs = some (items, rest)) :
    readValue (parts + 1) ('[' :: cs) = some (.array items, rest) := by
  rw [readValue, skipBlanks_cons rfl]
  simp only [read]
  rfl

/-- An object whose first part is a name has members. -/
theorem readValue_members {members : List (String × Json)} (starts : skipBlanks cs = '"' :: tail)
    (read : readMembers parts cs = some (members, rest)) :
    readValue (parts + 1) ('\x7b' :: cs) = some (.object members, rest) := by
  rw [readValue, skipBlanks_cons rfl]
  simp only [starts, read]
  rfl

end Steps

/-! ## Arrays and objects -/

theorem colon_space : ": ".toList = [':', ' '] := rfl

theorem ends_lineStart (level : Nat) (rest : List Char) : Ends (lineStart level ++ rest) :=
  ends_cons (by decide) _

theorem Reads.behind_lineStart {v : Json} (reads : Reads v) {level other parts : Nat}
    {rest : List Char} (enough : 2 * (v.write level).length ≤ parts) (ends : Ends rest) :
    readValue parts (lineStart other ++ (v.write level ++ rest)) = some (v, rest) :=
  (readValue_congr (skipBlanks_lineStart other _) parts).trans (reads enough ends)

theorem Reads.behind_space {v : Json} (reads : Reads v) {level parts : Nat} {rest : List Char}
    (enough : 2 * (v.write level).length ≤ parts) (ends : Ends rest) :
    readValue parts (' ' :: (v.write level ++ rest)) = some (v, rest) :=
  (readValue_congr (skipBlanks_blank rfl _) parts).trans (reads enough ends)

/-- The items of an array are read back up to its closing bracket. -/
theorem readItems_write {item : Json} {more : List Json} (each : ∀ v ∈ item :: more, Reads v)
    {level parts : Nat} (outer : Nat) (rest : List Char)
    (enough : 2 * (item.write level ++ writeItems level more).length < parts) :
    readItems parts (lineStart level ++ (item.write level ++ (writeItems level more ++
      (lineStart outer ++ ']' :: rest)))) = some (item :: more, rest) := by
  rw [List.length_append] at enough
  obtain ⟨parts, rfl⟩ : ∃ fewer, parts = fewer + 1 := ⟨parts - 1, by omega⟩
  obtain ⟨reads, others⟩ := List.forall_mem_cons.mp each
  -- An item costs a part besides those of its value; what stands between two items pays for it.
  induction more generalizing item parts with
  | nil =>
      have closing : skipBlanks (lineStart outer ++ ']' :: rest) = ']' :: rest :=
        (skipBlanks_lineStart outer _).trans (skipBlanks_cons rfl rest)
      refine readItems_last (reads.behind_lineStart (by omega) ?_) closing
      exact ends_lineStart outer _
  | cons next more ih =>
      simp only [writeItems, List.cons_append, List.append_assoc, List.length_cons,
        List.length_append] at enough ⊢
      refine readItems_next (reads.behind_lineStart (by omega) (ends_cons (by decide) _))
        (skipBlanks_cons rfl _) ?_
      obtain ⟨parts, rfl⟩ : ∃ fewer, parts = fewer + 1 := ⟨parts - 1, by omega⟩
      obtain ⟨second, later⟩ := List.forall_mem_cons.mp others
      exact ih others parts (by omega) second later

/-- The members of an object are read back up to its closing brace. -/
theorem readMembers_write {name : String} {value : Json} {more : List (String × Json)}
    (each : ∀ member ∈ (name, value) :: more, Reads member.2) {level parts : Nat} (outer : Nat)
    (rest : List Char)
    (enough : 2 * (value.write level ++ writeMembers level more).length < parts) :
    readMembers parts (lineStart level ++ (quote name ++ ':' :: ' ' :: (value.write level ++
      (writeMembers level more ++ (lineStart outer ++ '\x7d' :: rest))))) =
        some ((name, value) :: more, rest) := by
  rw [List.length_append] at enough
  obtain ⟨reads, others⟩ : Reads value ∧ ∀ member ∈ more, Reads member.2 :=
    List.forall_mem_cons.mp each
  induction more generalizing name value parts with
  | nil =>
      obtain ⟨parts, rfl⟩ : ∃ fewer, parts = fewer + 1 := ⟨parts - 1, by omega⟩
      -- Behind the last member there is only the brace, on a line of its own.
      have closing : skipBlanks (lineStart outer ++ '\x7d' :: rest) = '\x7d' :: rest :=
        (skipBlanks_lineStart outer _).trans (skipBlanks_cons rfl rest)
      exact readMembers_last level (reads.behind_space (by omega) (ends_lineStart outer _)) closing
  | cons next more ih =>
      obtain ⟨parts, rfl⟩ : ∃ fewer, parts = fewer + 1 := ⟨parts - 1, by omega⟩
      obtain ⟨second, later⟩ := List.forall_mem_cons.mp others
      simp only [writeMembers, colon_space, List.cons_append, List.append_assoc, List.nil_append,
        List.length_cons, List.length_append] at enough ⊢
      refine readMembers_next level (reads.behind_space (by omega) (ends_cons (by decide) _))
        (skipBlanks_cons rfl _) ?_
      exact ih others (by omega) second later

theorem reads_array {items : List Json} (each : ∀ item ∈ items, Reads item) :
    Reads (.array items) := by
  intro level parts rest enough ends
  obtain ⟨parts, rfl⟩ := exists_part enough
  cases items with
  | nil => rfl
  | cons item more =>
      simp only [write, List.cons_append, List.append_assoc, List.length_cons, List.length_append,
        List.nil_append] at enough ⊢
      refine readValue_items (fun tail closing => ?_) (readItems_write each level rest ?_)
      · -- The first item must not be taken for the end of an empty array.
        obtain ⟨c, behind, start, _, first⟩ := value_start item (level + 1)
        rw [skipBlanks_lineStart, skipBlanks_write, start] at closing
        exact first (List.cons.inj closing).1
      · rw [List.length_append]
        omega

theorem reads_object {members : List (String × Json)} (each : ∀ member ∈ members, Reads member.2) :
    Reads (.object members) := by
  intro level parts rest enough ends
  obtain ⟨parts, rfl⟩ := exists_part enough
  cases members with
  | nil => rfl
  | cons member more =>
      obtain ⟨name, value⟩ := member
      simp only [write, colon_space, List.cons_append, List.append_assoc, List.length_cons,
        List.length_append, List.nil_append] at enough ⊢
      -- A name starts with a quote, so the object is not taken for an empty one.
      refine readValue_members (skipBlanks_quote (level + 1) name _)
        (readMembers_write each level rest ?_)
      rw [List.length_append]
      omega

/-- A value within the digit limit is read back from its lines. -/
theorem reads_of_legible {v : Json} (legible : v.Legible) : Reads v := by
  induction legible with
  | null => exact reads_null
  | bool b => exact reads_bool b
  | int n short => exact reads_int short
  | text s => exact reads_text s
  | array items each ih => exact reads_array ih
  | object members each ih => exact reads_object ih

/-- A value within the digit limit is read back from its text. -/
theorem read_pretty {v : Json} (legible : v.Legible) : read v.pretty = some v := by
  have whole : readValue (2 * (v.write 0).length + 1) (v.write 0 ++ []) = some (v, []) :=
    reads_of_legible legible (Nat.le_succ _) ends_nil
  rw [List.append_nil] at whole
  unfold read pretty
  rw [String.toList_ofList]
  simp only [whole]
  rfl

end GpuTelemetry.Json
