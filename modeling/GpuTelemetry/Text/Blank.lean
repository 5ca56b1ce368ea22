/-!
# Blanks

Two sets of blank characters. Trimming removes the blanks of `isBlank`; around a numeral only those
of `isNumeralBlank` may stand, which leaves out the four information separators U+001C to U+001F.
-/

namespace GpuTelemetry.Text

/-- The blanks that may surround a numeral: tab to carriage return, and the space separators. -/
def isNumeralBlank (c : Char) : Bool :=
  let n := c.toNat
  (0x09 ≤ n && n ≤ 0x0D) || n == 0x20 || n == 0x85 || n == 0xA0 || n == 0x1680 ||
    (0x2000 ≤ n && n ≤ 0x200A) || n == 0x2028 || n == 0x2029 || n == 0x202F || n == 0x205F ||
    n == 0x3000

/-- The blanks that trimming removes: those around numerals and the information separators. -/
def isBlank (c : Char) : Bool :=
  isNumeralBlank c || (0x1C ≤ c.toNat && c.toNat ≤ 0x1F)

/-- Drops the characters of a class from both ends. -/
def strip (drop : Char → Bool) (cs : List Char) : List Char :=
  ((cs.dropWhile drop).reverse.dropWhile drop).reverse

def trim (s : String) : String :=
  String.ofList (strip isBlank s.toList)

/-! ## Laws of stripping -/

/-- A text that neither begins nor ends with a character of a class. -/
structure Bare (drop : Char → Bool) (cs : List Char) : Prop where
  first : ∀ c ∈ cs.head?, drop c = false
  last : ∀ c ∈ cs.getLast?, drop c = false

variable {drop : Char → Bool}

/-- A text is bare if its two ends are not of the class. -/
theorem Bare.of_ends {cs rest before : List Char} {c d : Char} (start : cs = c :: rest)
    (finish : cs = before ++ [d]) (first : drop c = false) (last : drop d = false) :
    Bare drop cs := by
  refine ⟨?_, ?_⟩
  · rw [start]
    simpa using first
  · rw [finish]
    simpa using last

/-- What stands between two bare texts that are not empty does not matter. -/
theorem Bare.between {front back : List Char} (one : Bare drop front) (some : front ≠ [])
    (two : Bare drop back) (other : back ≠ []) (inner : List Char) :
    Bare drop (front ++ inner ++ back) := by
  refine ⟨?_, ?_⟩
  · obtain ⟨c, rest, rfl⟩ := List.exists_cons_of_ne_nil some
    exact one.first
  · rw [List.getLast?_append, List.getLast?_eq_some_getLast other]
    have last := two.last
    rwa [List.getLast?_eq_some_getLast other] at last

theorem dropWhile_of_first {cs : List Char} (first : ∀ c ∈ cs.head?, drop c = false) :
    cs.dropWhile drop = cs := by
  cases cs with
  | nil => rfl
  | cons c rest =>
      have kept : drop c = false := first c rfl
      simp [kept]

theorem strip_of_bare {cs : List Char} (bare : Bare drop cs) : strip drop cs = cs := by
  have last : ∀ c ∈ cs.reverse.head?, drop c = false := by
    rw [List.head?_reverse]
    exact bare.last
  unfold strip
  rw [dropWhile_of_first bare.first, dropWhile_of_first last, List.reverse_reverse]

/-- What stands around a bare text is stripped off, if all of it is of the class. -/
theorem strip_append {before core after : List Char} (front : ∀ c ∈ before, drop c = true)
    (back : ∀ c ∈ after, drop c = true) (bare : Bare drop core) :
    strip drop (before ++ core ++ after) = core := by
  by_cases empty : core = []
  · subst empty
    have all : ∀ c ∈ before ++ [] ++ after, drop c = true := by
      simpa using fun c => Or.rec (front c) (back c)
    have gone : (before ++ [] ++ after ++ []).dropWhile drop = [].dropWhile drop :=
      List.dropWhile_append_of_pos all
    rw [List.append_nil] at gone
    unfold strip
    rw [gone]
    rfl
  · obtain ⟨c, rest, rfl⟩ := List.exists_cons_of_ne_nil empty
    have kept : drop c = false := bare.first c rfl
    have behind : ∀ c ∈ after.reverse, drop c = true := by simpa using back
    have last : ∀ d ∈ (c :: rest).reverse.head?, drop d = false := by
      rw [List.head?_reverse]
      exact bare.last
    unfold strip
    rw [List.append_assoc, List.dropWhile_append_of_pos front, List.cons_append,
      List.dropWhile_cons_of_neg (by simp [kept]), ← List.cons_append, List.reverse_append,
      List.dropWhile_append_of_pos behind, dropWhile_of_first last, List.reverse_reverse]

/-- Stripping takes off nothing but characters of the class, at both ends. -/
theorem exists_strip (drop : Char → Bool) (cs : List Char) :
    ∃ before after, cs = before ++ strip drop cs ++ after ∧ (∀ c ∈ before, drop c = true) ∧
      ∀ c ∈ after, drop c = true := by
  have all : ∀ ds : List Char, ∀ c ∈ ds.takeWhile drop, drop c = true := fun ds =>
    List.all_eq_true.mp List.all_takeWhile
  refine ⟨cs.takeWhile drop, ((cs.dropWhile drop).reverse.takeWhile drop).reverse, ?_, all cs, ?_⟩
  · unfold strip
    rw [List.append_assoc, ← List.reverse_append, List.takeWhile_append_dropWhile,
      List.reverse_reverse, List.takeWhile_append_dropWhile]
  · intro c member
    exact all _ c (List.mem_reverse.mp member)

/-- What is left of a stripped text is bare. -/
theorem bare_strip (drop : Char → Bool) (cs : List Char) : Bare drop (strip drop cs) := by
  have stopped : ∀ ds : List Char, ∀ c ∈ (ds.dropWhile drop).head?, drop c = false := by
    intro ds c first
    have stop := List.head?_dropWhile_not drop ds
    rw [Option.mem_def.mp first] at stop
    exact stop
  have split : cs.dropWhile drop =
      strip drop cs ++ ((cs.dropWhile drop).reverse.takeWhile drop).reverse := by
    unfold strip
    rw [← List.reverse_append, List.takeWhile_append_dropWhile, List.reverse_reverse]
  refine ⟨fun c first => stopped cs c ?_, fun c last => stopped (cs.dropWhile drop).reverse c ?_⟩
  · rw [split, List.head?_append, Option.mem_def.mp first]
    rfl
  · unfold strip at last
    rwa [List.getLast?_reverse] at last

end GpuTelemetry.Text
