import GpuTelemetry.Numeral

/-!
# Laws of numerals

The grammar of numerals stands beside their reader: a run of digits of any script with single
underscores between them (`DigitRun`), at most one sign before it and blanks around both
(`Denotes`). Main statements:

* `ofChars?_eq_some_iff`: the reader accepts exactly the grammar;
* `denotes_write`: the plain form of an integer within the limit denotes it;
* `Denotes.digitCount_le`: no numeral denotes an integer beyond the limit.
-/

namespace GpuTelemetry.Numeral

/-! ## Digits -/

/-- A digit belongs to the ten that follow the zero of a script. -/
theorem exists_base {c : Char} {d : Nat} (digit : digit? c = some d) :
    ∃ base ∈ zeros, c.toNat = base + d ∧ d < 10 := by
  unfold digit? at digit
  obtain ⟨base, found, rfl⟩ := Option.map_eq_some_iff.mp digit
  have inside := List.find?_some found
  simp only [Bool.and_eq_true, decide_eq_true_eq] at inside
  exact ⟨base, List.mem_of_find?_eq_some found, by omega, by omega⟩

theorem lt_ten_of_digit {c : Char} {d : Nat} (digit : digit? c = some d) : d < 10 := by
  obtain ⟨_, _, _, small⟩ := exists_base digit
  exact small

/-- No script has a digit among the blanks of either set. -/
theorem isBlank_of_digit {c : Char} {d : Nat} (digit : digit? c = some d) :
    Text.isBlank c = false := by
  obtain ⟨base, member, code, small⟩ := exists_base digit
  have apart : ∀ base ∈ zeros, 0x30 ≤ base ∧ (base + 9 < 0x85 ∨ 0xA0 < base) ∧
      (base + 9 < 0x1680 ∨ 0x1680 < base) ∧ (base + 9 < 0x2000 ∨ 0x3000 < base) := by
    decide
  have range := apart base member
  unfold Text.isBlank Text.isNumeralBlank
  simp only [code, Bool.or_eq_false_iff, Bool.and_eq_false_iff, decide_eq_false_iff_not,
    beq_eq_false_iff_ne, ne_eq]
  omega

theorem isNumeralBlank_of_isBlank {c : Char} (bare : Text.isBlank c = false) :
    Text.isNumeralBlank c = false := by
  unfold Text.isBlank at bare
  exact (Bool.or_eq_false_iff.mp bare).1

@[simp] theorem digit?_digitChar {d : Nat} (small : d < 10) : digit? (digitChar d) = some d := by
  have all : ∀ d < 10, digit? (digitChar d) = some d := by decide
  exact all d small

/-- Neither a sign nor an underscore nor a line feed is a digit. -/
theorem digit?_mark : digit? '-' = none ∧ digit? '+' = none ∧ digit? '_' = none ∧
    digit? '\n' = none := by
  decide

theorem ne_of_digit {c e : Char} {d : Nat} (digit : digit? c = some d) (other : digit? e = none) :
    c ≠ e := by
  rintro rfl
  rw [other] at digit
  cases digit

/-! ## Runs of digits -/

/-- A run of digits, single underscores between them allowed, and the digits that it shows. -/
inductive DigitRun : List Char → List Nat → Prop
  | last {c : Char} {d : Nat} (digit : digit? c = some d) : DigitRun [c] [d]
  | next {c : Char} {d : Nat} {rest : List Char} {ds : List Nat} (digit : digit? c = some d)
      (behind : DigitRun rest ds) : DigitRun (c :: rest) (d :: ds)
  | spaced {c : Char} {d : Nat} {rest : List Char} {ds : List Nat} (digit : digit? c = some d)
      (behind : DigitRun rest ds) : DigitRun (c :: '_' :: rest) (d :: ds)

namespace DigitRun

variable {run : List Char} {ds : List Nat}

theorem first (shown : DigitRun run ds) :
    ∃ c d rest, run = c :: rest ∧ digit? c = some d := by
  cases shown with
  | last digit => exact ⟨_, _, _, rfl, digit⟩
  | next digit behind => exact ⟨_, _, _, rfl, digit⟩
  | spaced digit behind => exact ⟨_, _, _, rfl, digit⟩

theorem final (shown : DigitRun run ds) :
    ∃ before c d, run = before ++ [c] ∧ digit? c = some d := by
  induction shown with
  | last digit => exact ⟨[], _, _, rfl, digit⟩
  | @next c d rest ds digit behind ih =>
      obtain ⟨before, e, f, rfl, digit'⟩ := ih
      exact ⟨c :: before, e, f, rfl, digit'⟩
  | @spaced c d rest ds digit behind ih =>
      obtain ⟨before, e, f, rfl, digit'⟩ := ih
      exact ⟨c :: '_' :: before, e, f, rfl, digit'⟩

/-- A run shows at least one digit, and each of them is one. -/
theorem digits (shown : DigitRun run ds) : ds ≠ [] ∧ ∀ d ∈ ds, d < 10 := by
  induction shown with
  | last digit => simpa using lt_ten_of_digit digit
  | next digit behind ih => simpa using ⟨lt_ten_of_digit digit, ih.2⟩
  | spaced digit behind ih => simpa using ⟨lt_ten_of_digit digit, ih.2⟩

theorem snoc (shown : DigitRun run ds) {c : Char} {d : Nat} (digit : digit? c = some d) :
    DigitRun (run ++ [c]) (ds ++ [d]) := by
  induction shown with
  | last first => exact .next first (.last digit)
  | next first behind ih => exact .next first ih
  | spaced first behind ih => exact .spaced first ih

/-- What is neither a digit nor an underscore does not occur in a run. -/
theorem notMem (shown : DigitRun run ds) {c : Char} (other : digit? c = none) (mark : c ≠ '_') :
    c ∉ run := by
  have apart : ∀ {e : Char} {d : Nat}, digit? e = some d → c ≠ e :=
    fun digit => (ne_of_digit digit other).symm
  induction shown with
  | last digit => simpa using apart digit
  | next digit behind ih => simpa using ⟨apart digit, ih⟩
  | spaced digit behind ih => simpa using ⟨apart digit, mark, ih⟩

end DigitRun

theorem digits?_eq_some_iff {run : List Char} {ds : List Nat} :
    digits? run = some ds ↔ DigitRun run ds := by
  constructor
  · intro read
    fun_induction digits? run generalizing ds with
    | case1 => cases read
    | case2 c =>
        obtain ⟨d, digit, rfl⟩ := Option.map_eq_some_iff.mp read
        exact .last digit
    | case3 c rest ih =>
        simp only [Option.bind_eq_bind, Option.bind_eq_some_iff, Option.pure_def,
          Option.some.injEq] at read
        obtain ⟨d, digit, ds, behind, rfl⟩ := read
        exact .spaced digit (ih behind)
    | case4 c rest single gap ih =>
        simp only [Option.bind_eq_bind, Option.bind_eq_some_iff, Option.pure_def,
          Option.some.injEq] at read
        obtain ⟨d, digit, ds, behind, rfl⟩ := read
        exact .next digit (ih behind)
  · intro shown
    induction shown with
    | last digit => simp [digits?, digit]
    | @next c d rest ds digit behind ih =>
        -- Behind a digit without underscore comes another digit, so the last rule of reading fits.
        obtain ⟨e, f, more, rfl, other⟩ := behind.first
        have apart : e ≠ '_' := ne_of_digit other digit?_mark.2.2.1
        rw [digits?.eq_4 _ _ (by simp) (by simpa using fun h => absurd h apart), digit, ih]
        rfl
    | spaced digit behind ih => simp [digits?, digit, ih]

/-! ## The grammar -/

/-- The grammar of numerals and what they denote: blanks, at most one sign, a run of digits within
the limit, blanks. -/
inductive Denotes (text : List Char) (n : Int) : Prop
  | intro (before sign run after : List Char) (ds : List Nat)
      (shape : text = before ++ (sign ++ run) ++ after)
      (front : ∀ c ∈ before, Text.isNumeralBlank c = true)
      (back : ∀ c ∈ after, Text.isNumeralBlank c = true)
      (shown : DigitRun run ds) (short : ds.length ≤ digitLimit)
      (value : sign = ['-'] ∧ n = -(ofDigits ds : Int) ∨
        (sign = ['+'] ∨ sign = []) ∧ n = (ofDigits ds : Int))

theorem magnitude?_eq_some_iff {run : List Char} {m : Nat} :
    magnitude? run = some m ↔ ∃ ds, DigitRun run ds ∧ ds.length ≤ digitLimit ∧ m = ofDigits ds := by
  unfold magnitude?
  simp only [Option.bind_eq_bind, Option.bind_eq_some_iff, digits?_eq_some_iff,
    Option.ite_none_right_eq_some, Option.some.injEq]
  constructor
  · rintro ⟨ds, shown, short, rfl⟩
    exact ⟨ds, shown, short, rfl⟩
  · rintro ⟨ds, shown, short, rfl⟩
    exact ⟨ds, shown, short, rfl⟩

/-- The number of a sign and a run of digits within the limit. -/
theorem signed?_of_run {sign run : List Char} {ds : List Nat} {n : Int} (shown : DigitRun run ds)
    (short : ds.length ≤ digitLimit)
    (value : sign = ['-'] ∧ n = -(ofDigits ds : Int) ∨
      (sign = ['+'] ∨ sign = []) ∧ n = (ofDigits ds : Int)) :
    signed? (sign ++ run) = some n := by
  have read : magnitude? run = some (ofDigits ds) :=
    magnitude?_eq_some_iff.mpr ⟨ds, shown, short, rfl⟩
  unfold signed?
  rcases value with ⟨rfl, rfl⟩ | ⟨rfl | rfl, rfl⟩
  · simp [withSign, read]
  · simp [withSign, read]
  · obtain ⟨c, d, rest, rfl, digit⟩ := shown.first
    -- Without a sign the run must not be taken for one: its first character is a digit.
    have unsigned : c ≠ '-' ∧ c ≠ '+' :=
      ⟨ne_of_digit digit digit?_mark.1, ne_of_digit digit digit?_mark.2.1⟩
    simp [withSign, unsigned, read]

/-- The reader accepts exactly the numerals of the grammar, and gives what they denote. -/
theorem ofChars?_eq_some_iff {text : List Char} {n : Int} :
    ofChars? text = some n ↔ Denotes text n := by
  constructor
  · intro read
    obtain ⟨before, after, shape, front, back⟩ := Text.exists_strip Text.isNumeralBlank text
    unfold ofChars? signed? at read
    generalize Text.strip Text.isNumeralBlank text = core at shape read
    unfold withSign at read
    split at read
    all_goals
      simp only [Option.map_eq_some_iff, Option.bind_eq_bind, Option.bind_eq_some_iff,
        Option.pure_def, Option.some.injEq] at read
      obtain ⟨_, ⟨m, magnitude, rfl⟩, rfl⟩ := read
      obtain ⟨ds, shown, short, rfl⟩ := magnitude?_eq_some_iff.mp magnitude
    · exact ⟨before, ['-'], _, after, ds, shape, front, back, shown, short, .inl ⟨rfl, rfl⟩⟩
    · exact ⟨before, ['+'], _, after, ds, shape, front, back, shown, short,
        .inr ⟨.inl rfl, rfl⟩⟩
    · exact ⟨before, [], _, after, ds, shape, front, back, shown, short, .inr ⟨.inr rfl, rfl⟩⟩
  · rintro ⟨before, sign, run, after, ds, rfl, front, back, shown, short, value⟩
    -- No sign and no digit is a blank, so stripping stops at both ends of the numeral.
    have bare : Text.Bare Text.isNumeralBlank (sign ++ run) := by
      obtain ⟨c, d, rest, start, first⟩ := shown.first
      obtain ⟨before, e, f, finish, last⟩ := shown.final
      have kept := isNumeralBlank_of_isBlank (isBlank_of_digit first)
      have ending : sign ++ run = sign ++ before ++ [e] := by rw [finish, List.append_assoc]
      have bareEnd := isNumeralBlank_of_isBlank (isBlank_of_digit last)
      rcases value with ⟨rfl, _⟩ | ⟨rfl | rfl, _⟩
      · exact .of_ends rfl ending (by decide) bareEnd
      · exact .of_ends rfl ending (by decide) bareEnd
      · exact .of_ends start ending kept bareEnd
    unfold ofChars?
    rw [Text.strip_append front back bare]
    exact signed?_of_run shown short value

/-! ## The plain form -/

theorem writeNat_of_lt {n : Nat} (small : n < 10) : writeNat n = [digitChar n] := by
  rw [writeNat, if_pos small]

theorem writeNat_of_le {n : Nat} (large : 10 ≤ n) :
    writeNat n = writeNat (n / 10) ++ [digitChar (n % 10)] := by
  rw [writeNat, if_neg (by omega)]

theorem ofDigits_snoc (ds : List Nat) (d : Nat) : ofDigits (ds ++ [d]) = 10 * ofDigits ds + d := by
  simp [ofDigits]

/-- The plain form of a number shows as many digits as it has characters, and they are those of the
number. -/
theorem exists_digits (n : Nat) :
    ∃ ds, DigitRun (writeNat n) ds ∧ ds.length = (writeNat n).length ∧ ofDigits ds = n := by
  induction n using Nat.strongRecOn with
  | ind n ih =>
      by_cases small : n < 10
      · rw [writeNat_of_lt small]
        exact ⟨[n], .last (digit?_digitChar small), rfl, by simp [ofDigits]⟩
      · obtain ⟨ds, shown, length, value⟩ := ih (n / 10) (by omega)
        rw [writeNat_of_le (by omega)]
        refine ⟨ds ++ [n % 10], shown.snoc (digit?_digitChar (by omega)), by simp [length], ?_⟩
        rw [ofDigits_snoc, value]
        omega

/-- The plain form of a number that is not negative is a run of its digits. -/
theorem write_of_nonneg {n : Int} (positive : 0 ≤ n) :
    ∃ ds, DigitRun (write n) ds ∧ ds.length = digitCount n ∧ n = (ofDigits ds : Int) := by
  obtain ⟨m, rfl⟩ := Int.eq_ofNat_of_zero_le positive
  obtain ⟨ds, shown, length, value⟩ := exists_digits m
  exact ⟨ds, shown, length, by rw [value]⟩

/-- The plain form of a negative number is a minus sign and a run of its digits. -/
theorem write_of_neg {n : Int} (negative : n < 0) :
    ∃ run ds, write n = '-' :: run ∧ DigitRun run ds ∧ ds.length = digitCount n ∧
      n = -(ofDigits ds : Int) := by
  obtain ⟨m, rfl⟩ := Int.eq_negSucc_of_lt_zero negative
  obtain ⟨ds, shown, length, value⟩ := exists_digits (m + 1)
  exact ⟨_, ds, rfl, shown, length, by rw [value]; rfl⟩

/-- The plain form of an integer within the limit denotes it. -/
theorem denotes_write {n : Int} (short : digitCount n ≤ digitLimit) : Denotes (write n) n := by
  by_cases positive : 0 ≤ n
  · obtain ⟨ds, shown, length, value⟩ := write_of_nonneg positive
    exact ⟨[], [], _, [], ds, by simp, nofun, nofun, shown, by omega, .inr ⟨.inr rfl, value⟩⟩
  · obtain ⟨run, ds, shape, shown, length, value⟩ := write_of_neg (Int.lt_of_not_ge positive)
    exact ⟨[], ['-'], run, [], ds, by simp [shape], nofun, nofun, shown, by omega,
      .inl ⟨rfl, value⟩⟩

theorem write_ne_nil (n : Int) : write n ≠ [] := by
  by_cases positive : 0 ≤ n
  · obtain ⟨ds, shown, _, _⟩ := write_of_nonneg positive
    obtain ⟨c, d, rest, start, _⟩ := shown.first
    rw [start]
    exact List.cons_ne_nil _ _
  · obtain ⟨run, ds, shape, _⟩ := write_of_neg (Int.lt_of_not_ge positive)
    rw [shape]
    exact List.cons_ne_nil _ _

/-- A plain form neither begins nor ends with a blank. -/
theorem bare_write (n : Int) : Text.Bare Text.isBlank (write n) := by
  by_cases positive : 0 ≤ n
  · obtain ⟨ds, shown, _, _⟩ := write_of_nonneg positive
    obtain ⟨c, d, rest, start, first⟩ := shown.first
    obtain ⟨before, e, f, finish, last⟩ := shown.final
    exact .of_ends start finish (isBlank_of_digit first) (isBlank_of_digit last)
  · obtain ⟨run, ds, shape, shown, _, _⟩ := write_of_neg (Int.lt_of_not_ge positive)
    obtain ⟨before, e, f, finish, last⟩ := shown.final
    have ending : write n = ('-' :: before) ++ [e] := by rw [shape, finish, List.cons_append]
    exact .of_ends shape ending (by decide) (isBlank_of_digit last)

/-- A plain form is one line. -/
theorem lineFeed_notMem_write (n : Int) : '\n' ∉ write n := by
  by_cases positive : 0 ≤ n
  · obtain ⟨ds, shown, _, _⟩ := write_of_nonneg positive
    exact shown.notMem digit?_mark.2.2.2 (by decide)
  · obtain ⟨run, ds, shape, shown, _, _⟩ := write_of_neg (Int.lt_of_not_ge positive)
    rw [shape]
    simpa using shown.notMem digit?_mark.2.2.2 (by decide)

/-- Numbers that are greater have at least as many digits. -/
theorem length_writeNat_mono {m n : Nat} (le : m ≤ n) :
    (writeNat m).length ≤ (writeNat n).length := by
  induction n using Nat.strongRecOn generalizing m with
  | ind n ih =>
      by_cases small : m < 10
      · have some := List.length_pos_iff.mpr (write_ne_nil n)
        rw [writeNat_of_lt small]
        exact some
      · have shorter := ih (n / 10) (by omega) (Nat.div_le_div_right le)
        rw [writeNat_of_le (n := m) (by omega), writeNat_of_le (n := n) (by omega)]
        simpa using shorter

/-- An integer of 64 bits is within the limit. -/
theorem digitCount_le_of_word {n : Int} (small : n.natAbs ≤ 0x10000000000000000) :
    digitCount n ≤ digitLimit :=
  Nat.le_trans (length_writeNat_mono small) (by decide +kernel)

/-- One more digit makes the plain form at most one character longer. -/
theorem length_writeNat_le (n : Nat) {d : Nat} (digit : d < 10) :
    (writeNat (10 * n + d)).length ≤ (writeNat n).length + 1 := by
  by_cases small : 10 * n + d < 10
  · rw [writeNat_of_lt small]
    simp
  · have cut : (10 * n + d) / 10 = n := by omega
    rw [writeNat_of_le (by omega), cut]
    simp

theorem pow_ten_pos (k : Nat) : 0 < Nat.pow 10 k := Nat.pow_pos (by decide)

/-- A number from a power of ten on has more digits than the exponent. -/
theorem lt_length_writeNat {n k : Nat} (large : Nat.pow 10 k ≤ n) : k < (writeNat n).length := by
  induction k generalizing n with
  | zero => exact List.length_pos_iff.mpr (write_ne_nil n)
  | succ k ih =>
      change Nat.pow 10 k * 10 ≤ n at large
      have some := pow_ten_pos k
      have shorter := ih (n := n / 10) (by omega)
      rw [writeNat_of_le (by omega)]
      simpa using shorter

/-- There are integers beyond the limit. -/
theorem digitLimit_lt_digitCount : digitLimit < digitCount (Nat.pow 10 digitLimit) := by
  unfold digitCount
  rw [Int.natAbs_natCast]
  exact lt_length_writeNat (Nat.le_refl _)

/-- A number has at most as many digits as any run of digits that shows it. -/
theorem length_writeNat_ofDigits {ds : List Nat} (some : ds ≠ []) (digits : ∀ d ∈ ds, d < 10) :
    (writeNat (ofDigits ds)).length ≤ ds.length := by
  -- The digits are read from the left, so the induction is over those left and carries the number
  -- read so far.
  have behind : ∀ (rest : List Nat) (n : Nat), (∀ d ∈ rest, d < 10) →
      (writeNat (rest.foldl (fun value digit => 10 * value + digit) n)).length ≤
        (writeNat n).length + rest.length := by
    intro rest
    induction rest with
    | nil => exact fun n _ => Nat.le_refl _
    | cons d rest ih =>
        intro n small
        have later := ih (10 * n + d) fun e member => small e (List.mem_cons_of_mem d member)
        have one := length_writeNat_le n (small d List.mem_cons_self)
        simp only [List.foldl_cons, List.length_cons]
        omega
  obtain ⟨d, rest, rfl⟩ := List.exists_cons_of_ne_nil some
  have later := behind rest (10 * 0 + d) fun e member => digits e (List.mem_cons_of_mem d member)
  have one : (writeNat (10 * 0 + d)).length = 1 := by
    rw [writeNat_of_lt (by have := digits d List.mem_cons_self; omega)]
    rfl
  unfold ofDigits
  simp only [List.foldl_cons, List.length_cons]
  omega

/-- No numeral denotes an integer beyond the limit. -/
theorem Denotes.digitCount_le {text : List Char} {n : Int} (denotes : Denotes text n) :
    digitCount n ≤ digitLimit := by
  obtain ⟨before, sign, run, after, ds, shape, front, back, shown, short, value⟩ := denotes
  have size : n.natAbs = ofDigits ds := by
    rcases value with ⟨_, rfl⟩ | ⟨_, rfl⟩
    · exact (Int.natAbs_neg _).trans (Int.natAbs_natCast _)
    · exact Int.natAbs_natCast _
  unfold digitCount
  rw [size]
  exact Nat.le_trans (length_writeNat_ofDigits shown.digits.1 shown.digits.2) short

/-- A numeral without a minus sign denotes no negative integer. -/
theorem Denotes.nonneg {text : List Char} {n : Int} (denotes : Denotes text n)
    (unsigned : '-' ∉ text) : 0 ≤ n := by
  obtain ⟨before, sign, run, after, ds, rfl, front, back, shown, short, value⟩ := denotes
  rcases value with ⟨rfl, _⟩ | ⟨_, rfl⟩
  · simp at unsigned
  · exact Int.natCast_nonneg _

/-- Behind a minus sign in front comes a digit. -/
theorem Denotes.digit_of_minus {rest : List Char} {n : Int} (denotes : Denotes ('-' :: rest) n) :
    ∃ c d more, rest = c :: more ∧ digit? c = some d := by
  obtain ⟨before, sign, run, after, ds, shape, front, back, shown, short, value⟩ := denotes
  obtain ⟨c, d, more, rfl, digit⟩ := shown.first
  cases before with
  | nil =>
      rcases value with ⟨rfl, _⟩ | ⟨rfl | rfl, _⟩
      · exact ⟨c, d, more ++ after, (List.cons.inj shape).2, digit⟩
      · exact absurd (List.cons.inj shape).1 (by decide)
      · exact absurd (List.cons.inj shape).1.symm (ne_of_digit digit digit?_mark.1)
  | cons b others =>
      have blank := front b List.mem_cons_self
      rw [← (List.cons.inj shape).1] at blank
      exact absurd blank (by decide)

/-- What is neither a blank nor a sign nor a digit nor an underscore does not occur in a numeral. -/
theorem Denotes.notMem {text : List Char} {n : Int} (denotes : Denotes text n) {c : Char}
    (other : digit? c = none) (bare : Text.isNumeralBlank c = false)
    (mark : c ≠ '_' ∧ c ≠ '-' ∧ c ≠ '+') : c ∉ text := by
  obtain ⟨before, sign, run, after, ds, rfl, front, back, shown, short, value⟩ := denotes
  have unsigned : c ∉ sign := by
    -- The sign is a minus, a plus or nothing.
    rcases value with ⟨rfl, _⟩ | ⟨rfl | rfl, _⟩
    · simpa using mark.2.1
    · simpa using mark.2.2
    · exact List.not_mem_nil
  have blanks : ∀ cs : List Char, (∀ e ∈ cs, Text.isNumeralBlank e = true) → c ∉ cs :=
    fun cs all member => by
      rw [all c member] at bare
      cases bare
  simp only [List.mem_append, not_or]
  exact ⟨⟨blanks before front, unsigned, shown.notMem other mark.1⟩, blanks after back⟩

/-- An empty text is no numeral. -/
theorem Denotes.ne_nil {text : List Char} {n : Int} (denotes : Denotes text n) : text ≠ [] := by
  obtain ⟨before, sign, run, after, ds, rfl, front, back, shown, short, value⟩ := denotes
  obtain ⟨c, d, rest, rfl, digit⟩ := shown.first
  simp

end GpuTelemetry.Numeral
