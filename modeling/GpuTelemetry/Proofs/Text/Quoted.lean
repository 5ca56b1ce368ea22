import GpuTelemetry.Text.Quoted

/-!
# Laws of quoted text

A quoted text shows printable characters only, whatever text it is (`printable_quote`). So it has
neither a line break nor anything else that would move what stands around it.
-/

namespace GpuTelemetry.Text

theorem printable_hex (width n : Nat) : ∀ c ∈ hex width n, isPrintable c = true := by
  have digits : ∀ d < 16, isPrintable ((Nat.toDigits 16 d).headD '0') = true := by decide
  induction width generalizing n with
  | zero => exact nofun
  | succ width ih =>
      exact List.forall_mem_append.mpr ⟨ih (n / 16),
        List.forall_mem_singleton.mpr (digits (n % 16) (Nat.mod_lt n (by decide)))⟩

theorem printable_escapeByCode (code : Nat) : ∀ c ∈ escapeByCode code, isPrintable c = true := by
  unfold escapeByCode
  split
  · exact List.forall_mem_cons.mpr ⟨by decide, List.forall_mem_cons.mpr
      ⟨by decide, printable_hex 2 code⟩⟩
  · split
    · exact List.forall_mem_cons.mpr ⟨by decide, List.forall_mem_cons.mpr
        ⟨by decide, printable_hex 4 code⟩⟩
    · exact List.forall_mem_cons.mpr ⟨by decide, List.forall_mem_cons.mpr
        ⟨by decide, printable_hex 8 code⟩⟩

variable {plain : Char → Bool} (shown : ∀ c, plain c = true → isPrintable c = true)
include shown

/-- A character that is not shown as it is has an escape of printable characters. -/
theorem printable_escape {quote : Char} (printable : isPrintable quote = true) (c : Char) :
    ∀ d ∈ escape plain quote c, isPrintable d = true := by
  have pair : ∀ d, isPrintable d = true → ∀ e ∈ ['\\', d], isPrintable e = true :=
    fun d kept => List.forall_mem_cons.mpr ⟨by decide, List.forall_mem_singleton.mpr kept⟩
  unfold escape
  split
  · -- The quote and the backslash stand for themselves behind a backslash.
    next special =>
      rcases special with rfl | rfl
      · exact pair c printable
      · exact pair '\\' (by decide)
  · split
    · exact pair 't' (by decide)
    · split
      · exact pair 'n' (by decide)
      · split
        · exact pair 'r' (by decide)
        · split
          · next kept => exact List.forall_mem_singleton.mpr (shown c kept)
          · exact printable_escapeByCode c.toNat

theorem printable_quoteWith (cs : List Char) :
    ∀ c ∈ (quoteWith plain cs).toList, isPrintable c = true := by
  have quotes : isPrintable (quoteFor cs) = true := by
    unfold quoteFor
    split <;> decide
  unfold quoteWith
  rw [String.toList_ofList]
  refine List.forall_mem_append.mpr ⟨List.forall_mem_cons.mpr ⟨quotes, fun c member => ?_⟩,
    List.forall_mem_singleton.mpr quotes⟩
  obtain ⟨d, _, escaped⟩ := List.mem_flatMap.mp member
  exact printable_escape shown quotes d c escaped

omit shown in
/-- A quoted text has printable characters only. -/
theorem printable_quote (s : String) : ∀ c ∈ (quote s).toList, isPrintable c = true :=
  printable_quoteWith (fun _ kept => kept) s.toList

end GpuTelemetry.Text
