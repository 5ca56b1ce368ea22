import GpuTelemetry.Numeral

/-!
# Well-formed UTF-8

The grammar of well-formed UTF-8 (`WellFormed`): characters of one to four bytes each, of which the
first says how many follow. A character is written in as few bytes as hold it, no surrogate is
written, and nothing beyond the last code point.

Main statements: `wellFormed_iff_exists_chars`, by which these are the bytes of texts and of nothing
else, and `fromUTF8?_eq_some_iff`, by which decoding loses nothing.
-/

namespace GpuTelemetry.Text

/-- A byte behind the first one of a character. -/
def IsTail (b : UInt8) : Prop := 0x80 ≤ b.toNat ∧ b.toNat ≤ 0xBF

/-- The bytes of one character. -/
inductive CharBytes : List UInt8 → Prop
  | one {a : UInt8} (first : a.toNat ≤ 0x7F) : CharBytes [a]
  /-- The first bytes `C0` and `C1` would begin what fits into one byte. -/
  | two {a b : UInt8} (first : 0xC2 ≤ a.toNat ∧ a.toNat ≤ 0xDF) (second : IsTail b) :
      CharBytes [a, b]
  /-- Behind `E0`, low second bytes would begin what fits into two bytes; behind `ED`, high ones
  would begin a surrogate. -/
  | three {a b c : UInt8} (first : 0xE0 ≤ a.toNat ∧ a.toNat ≤ 0xEF) (second : IsTail b)
      (third : IsTail c) (needed : a.toNat = 0xE0 → 0xA0 ≤ b.toNat)
      (scalar : a.toNat = 0xED → b.toNat ≤ 0x9F) : CharBytes [a, b, c]
  /-- Behind `F0`, low second bytes would begin what fits into three bytes; behind `F4`, high ones
  would begin what is no code point. -/
  | four {a b c d : UInt8} (first : 0xF0 ≤ a.toNat ∧ a.toNat ≤ 0xF4) (second : IsTail b)
      (third : IsTail c) (fourth : IsTail d) (needed : a.toNat = 0xF0 → 0x90 ≤ b.toNat)
      (scalar : a.toNat = 0xF4 → b.toNat ≤ 0x8F) : CharBytes [a, b, c, d]

/-- Characters one after the other, and nothing else. -/
inductive WellFormed : List UInt8 → Prop
  | nil : WellFormed []
  | append {character rest : List UInt8} (first : CharBytes character) (behind : WellFormed rest) :
      WellFormed (character ++ rest)

/-! ## One character -/

/-- The bytes of a character by its code. -/
theorem utf8EncodeChar_eq (c : Char) : String.utf8EncodeChar c =
    if c.toNat ≤ 0x7F then [UInt8.ofNat c.toNat]
    else if c.toNat ≤ 0x7FF then
      [UInt8.ofNat (c.toNat / 64 % 32 + 192), UInt8.ofNat (c.toNat % 64 + 128)]
    else if c.toNat ≤ 0xFFFF then
      [UInt8.ofNat (c.toNat / 4096 % 16 + 224), UInt8.ofNat (c.toNat / 64 % 64 + 128),
        UInt8.ofNat (c.toNat % 64 + 128)]
    else
      [UInt8.ofNat (c.toNat / 262144 % 8 + 240), UInt8.ofNat (c.toNat / 4096 % 64 + 128),
        UInt8.ofNat (c.toNat / 64 % 64 + 128), UInt8.ofNat (c.toNat % 64 + 128)] :=
  rfl

theorem code_cases (c : Char) : c.toNat < 0xD800 ∨ 0xDFFF < c.toNat ∧ c.toNat < 0x110000 :=
  c.valid

theorem toNat_ofNat_of_lt {n : Nat} (small : n < 256) : (UInt8.ofNat n).toNat = n :=
  Nat.mod_eq_of_lt small

theorem isTail_low (n : Nat) : IsTail (UInt8.ofNat (n % 64 + 128)) := by
  unfold IsTail
  rw [toNat_ofNat_of_lt (by omega)]
  omega

theorem charBytes_encode (c : Char) : CharBytes (String.utf8EncodeChar c) := by
  have code := code_cases c
  rw [utf8EncodeChar_eq]
  -- One case for each number of bytes; the bounds on the lead byte are those of the code.
  split
  · refine .one ?_
    rw [toNat_ofNat_of_lt (by omega)]
    omega
  · split
    · refine .two ?_ (isTail_low _)
      rw [toNat_ofNat_of_lt (by omega)]
      omega
    · split
      · refine .three ?_ (isTail_low _) (isTail_low _) ?_ ?_
        all_goals repeat rw [toNat_ofNat_of_lt (by omega)]
        all_goals omega
      · refine .four ?_ (isTail_low _) (isTail_low _) (isTail_low _) ?_ ?_
        all_goals repeat rw [toNat_ofNat_of_lt (by omega)]
        all_goals omega

/-- Bytes are those of the character with a code if they are what the code is written as. -/
theorem exists_char {bytes : List UInt8} (grammar : CharBytes bytes) :
    ∃ c, bytes = String.utf8EncodeChar c := by
  -- The code is put together from the bits that the bytes carry.
  have build : ∀ n : Nat, n.isValidChar → ∃ c : Char, c.toNat = n := fun n valid =>
    ⟨Char.ofNatAux n valid, rfl⟩
  have same : ∀ (b : UInt8) (n : Nat), b.toNat = n → b = UInt8.ofNat n := fun b n eq => by
    rw [← eq, UInt8.ofNat_toNat]
  cases grammar with
  | @one a first =>
      obtain ⟨c, code⟩ := build a.toNat (.inl (by omega))
      refine ⟨c, ?_⟩
      rw [utf8EncodeChar_eq, code, if_pos first, UInt8.ofNat_toNat]
  | @two a b first second =>
      unfold IsTail at second
      obtain ⟨c, code⟩ := build ((a.toNat - 0xC0) * 64 + (b.toNat - 0x80)) (.inl (by omega))
      refine ⟨c, ?_⟩
      rw [utf8EncodeChar_eq, code, if_neg (by omega), if_pos (by omega)]
      rw [← same a _ (by omega), ← same b _ (by omega)]
  | @three a b d first second third needed scalar =>
      unfold IsTail at second third
      obtain ⟨c, code⟩ := build
        ((a.toNat - 0xE0) * 4096 + (b.toNat - 0x80) * 64 + (d.toNat - 0x80))
        (by unfold Nat.isValidChar; omega)
      refine ⟨c, ?_⟩
      rw [utf8EncodeChar_eq, code, if_neg (by omega), if_neg (by omega), if_pos (by omega)]
      rw [← same a _ (by omega), ← same b _ (by omega), ← same d _ (by omega)]
  | @four a b d e first second third fourth needed scalar =>
      unfold IsTail at second third fourth
      obtain ⟨c, code⟩ := build
        ((a.toNat - 0xF0) * 262144 + (b.toNat - 0x80) * 4096 + (d.toNat - 0x80) * 64 +
          (e.toNat - 0x80))
        (by unfold Nat.isValidChar; omega)
      refine ⟨c, ?_⟩
      rw [utf8EncodeChar_eq, code, if_neg (by omega), if_neg (by omega), if_neg (by omega)]
      rw [← same a _ (by omega), ← same b _ (by omega), ← same d _ (by omega),
        ← same e _ (by omega)]

/-! ## Texts -/

/-- The bytes of characters one after the other. -/
theorem wellFormed_encode (cs : List Char) : WellFormed (cs.flatMap String.utf8EncodeChar) := by
  induction cs with
  | nil => exact .nil
  | cons c rest ih => exact .append (charBytes_encode c) ih

theorem exists_chars {bytes : List UInt8} (grammar : WellFormed bytes) :
    ∃ cs : List Char, bytes = cs.flatMap String.utf8EncodeChar := by
  induction grammar with
  | nil => exact ⟨[], rfl⟩
  | append first behind ih =>
      obtain ⟨c, rfl⟩ := exists_char first
      obtain ⟨cs, rfl⟩ := ih
      exact ⟨c :: cs, rfl⟩

/-- The grammar is that of texts. -/
theorem wellFormed_iff_exists_chars {bytes : List UInt8} :
    WellFormed bytes ↔ ∃ cs : List Char, bytes = cs.flatMap String.utf8EncodeChar :=
  ⟨exists_chars, fun ⟨cs, same⟩ => same ▸ wellFormed_encode cs⟩

/-! ## Decoding -/

theorem toList_loop (bytes : ByteArray) (i : Nat) (before : List UInt8) :
    ByteArray.toList.loop bytes i before = before.reverse ++ bytes.data.toList.drop i := by
  -- The loop runs along the places; what has been taken so far is there in reverse order.
  induction i, before using ByteArray.toList.loop.induct bytes with
  | case1 i before inside ih =>
      have present : i < bytes.data.toList.length := inside
      have got : bytes.get! i = bytes.data.toList[i] := by
        show bytes.data[i]! = bytes.data[i]
        exact getElem!_pos bytes.data i inside
      rw [ByteArray.toList.loop, if_pos inside, ih, got, List.drop_eq_getElem_cons present,
        List.reverse_cons, List.append_assoc, List.singleton_append]
  | case2 i before outside =>
      have beyond : bytes.data.toList.length ≤ i := Nat.le_of_not_lt outside
      rw [ByteArray.toList.loop, if_neg outside, List.drop_eq_nil_of_le beyond, List.append_nil]

theorem toList_bytes (bytes : ByteArray) : bytes.toList = bytes.data.toList :=
  toList_loop bytes 0 []

theorem length_toUTF8 (s : String) : s.toUTF8.toList.length = s.utf8ByteSize := by
  rw [toList_bytes]
  rfl

/-- A text is empty exactly if it has no bytes. -/
theorem toUTF8_eq_nil_iff {s : String} : s.toUTF8.toList = [] ↔ s = "" := by
  rw [← List.length_eq_zero_iff, length_toUTF8, String.utf8ByteSize_eq_zero_iff]

/-- Decoding gives the one text of which the bytes are the UTF-8 form, if there is one. -/
theorem fromUTF8?_eq_some_iff {bytes : List UInt8} {s : String} :
    String.fromUTF8? ⟨bytes.toArray⟩ = some s ↔ s.toUTF8.toList = bytes := by
  rw [toList_bytes]
  constructor
  · intro decoded
    unfold String.fromUTF8? at decoded
    split at decoded
    · cases decoded
      rfl
    · cases decoded
  · rintro rfl
    exact dif_pos s.isValidUTF8

/-- Bytes are decoded exactly if they are well-formed. -/
theorem exists_fromUTF8?_iff {bytes : List UInt8} :
    (∃ s, String.fromUTF8? ⟨bytes.toArray⟩ = some s) ↔ WellFormed bytes := by
  have encoded : ∀ cs : List Char,
      (String.ofList cs).toUTF8.toList = cs.flatMap String.utf8EncodeChar := fun cs => by
    rw [toList_bytes, String.toUTF8_eq_toByteArray, String.toByteArray_ofList, List.utf8Encode,
      List.data_toByteArray]
  rw [wellFormed_iff_exists_chars]
  constructor
  · rintro ⟨s, decoded⟩
    rw [fromUTF8?_eq_some_iff] at decoded
    refine ⟨s.toList, ?_⟩
    rw [← encoded, String.ofList_toList, decoded]
  · rintro ⟨cs, rfl⟩
    exact ⟨String.ofList cs, fromUTF8?_eq_some_iff.mpr (encoded cs)⟩

end GpuTelemetry.Text
