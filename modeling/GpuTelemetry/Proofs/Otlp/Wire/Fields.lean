import Mathlib.Algebra.BigOperators.Group.List.Basic
import GpuTelemetry.Otlp.Wire

/-!
# Fields of a message

How the bytes of a message are taken apart into fields, whatever the message: a tag, then a number
of variable length, eight bytes or a counted run of bytes. The reader undoes the writers of a single
field (`readField_write`), and so it takes a whole sequence of fields apart again (`fields?_write`).
Lengths have no bound here, as the written ones have none.
-/

namespace GpuTelemetry.Otlp.Wire

/-- What a field holds, by the kind in its tag. -/
inductive Payload where
  | varint (n : Nat)
  | fixed (n : Nat)
  | bytes (counted : List UInt8)
  deriving DecidableEq

structure Field where
  number : Nat
  payload : Payload
  deriving DecidableEq

/-- The mark of a kind of payload in a tag. -/
def Payload.kind : Payload → Nat
  | .varint _ => 0
  | .fixed _ => 1
  | .bytes _ => 2

def Payload.write : Payload → List UInt8
  | .varint n => Wire.varint n
  | .fixed n => littleEndian n 8
  | .bytes counted => Wire.varint counted.length ++ counted

/-- Eight bytes have room for what they hold. -/
def Payload.Fits : Payload → Prop
  | .fixed n => n < 0x10000000000000000
  | _ => True

def Field.write (f : Field) : List UInt8 :=
  tag f.number f.payload.kind ++ f.payload.write

/-- Fields that can be written. Zero is the number of none. -/
structure Field.Sound (f : Field) : Prop where
  numbered : 0 < f.number
  fits : f.payload.Fits

theorem bytesField_eq (number : Nat) (bytes : List UInt8) :
    bytesField number bytes = Field.write ⟨number, .bytes bytes⟩ :=
  List.append_assoc ..

/-! ## Reading -/

/-- A number of variable length, and what follows it. -/
def readVarint : List UInt8 → Option (Nat × List UInt8)
  | [] => none
  | byte :: rest =>
    if byte.toNat < 0x80 then some (byte.toNat, rest)
    else do
      let (n, rest) ← readVarint rest
      return (byte.toNat - 0x80 + 0x80 * n, rest)

/-- A number in some bytes, the lowest first, and what follows it. -/
def readLittleEndian : Nat → List UInt8 → Option (Nat × List UInt8)
  | 0, rest => some (0, rest)
  | _ + 1, [] => none
  | bytes + 1, byte :: rest => do
    let (n, rest) ← readLittleEndian bytes rest
    return (byte.toNat + 0x100 * n, rest)

/-- Bytes behind their count, and what follows them. -/
def readCounted (bytes : List UInt8) : Option (List UInt8 × List UInt8) := do
  let (count, rest) ← readVarint bytes
  if count ≤ rest.length then some (rest.take count, rest.drop count) else none

def readPayload (kind : Nat) (bytes : List UInt8) : Option (Payload × List UInt8) :=
  match kind with
  | 0 => (readVarint bytes).map fun (n, rest) => (.varint n, rest)
  | 1 => (readLittleEndian 8 bytes).map fun (n, rest) => (.fixed n, rest)
  | 2 => (readCounted bytes).map fun (counted, rest) => (.bytes counted, rest)
  | _ => none

/-- The first field of a message, and the others. -/
def readField (bytes : List UInt8) : Option (Field × List UInt8) := do
  let (tag, rest) ← readVarint bytes
  let (payload, rest) ← readPayload (tag % 8) rest
  if tag / 8 = 0 then none else some (⟨tag / 8, payload⟩, rest)

/-- The fields of a message. The first argument bounds their number. -/
def readFields : Nat → List UInt8 → Option (List Field)
  | _, [] => some []
  | 0, _ :: _ => none
  | fields + 1, bytes@(_ :: _) => do
    let (field, rest) ← readField bytes
    return field :: (← readFields fields rest)

/-- The fields that some bytes consist of; each takes up a byte at least. -/
def fields? (bytes : List UInt8) : Option (List Field) :=
  readFields bytes.length bytes

/-! ## Numbers -/

theorem toNat_ofNat_of_lt {n : Nat} (small : n < 0x100) : (UInt8.ofNat n).toNat = n :=
  Nat.mod_eq_of_lt small

theorem varint_ne_nil (n : Nat) : varint n ≠ [] := by
  unfold varint
  split <;> exact List.cons_ne_nil _ _

theorem readVarint_varint (n : Nat) (rest : List UInt8) :
    readVarint (varint n ++ rest) = some (n, rest) := by
  induction n using varint.induct with
  | case1 n small =>
      have byte : (UInt8.ofNat n).toNat = n := toNat_ofNat_of_lt (by omega)
      rw [varint, if_pos small, List.singleton_append, readVarint, byte, if_pos small]
  | case2 n large ih =>
      have byte : (UInt8.ofNat (n % 0x80 + 0x80)).toNat = n % 0x80 + 0x80 :=
        toNat_ofNat_of_lt (by omega)
      have whole : n % 0x80 + 0x80 - 0x80 + 0x80 * (n / 0x80) = n := by omega
      rw [varint, if_neg large, List.cons_append, readVarint, byte, if_neg (by omega), ih]
      exact congrArg (fun m => some (m, rest)) whole

theorem readLittleEndian_littleEndian (bytes : Nat) {n : Nat} (fits : n < 0x100 ^ bytes)
    (rest : List UInt8) :
    readLittleEndian bytes (littleEndian n bytes ++ rest) = some (n, rest) := by
  induction bytes generalizing n with
  | zero =>
      have zero : n = 0 := by simpa using fits
      rw [zero]
      rfl
  | succ bytes ih =>
      -- The byte in front is the remainder, and the others are those of the quotient.
      have less : n / 0x100 < 0x100 ^ bytes := by
        rw [Nat.div_lt_iff_lt_mul (by decide)]
        exact fits
      have byte : (UInt8.ofNat (n % 0x100)).toNat = n % 0x100 :=
        toNat_ofNat_of_lt (Nat.mod_lt _ (by decide))
      rw [littleEndian, List.cons_append, readLittleEndian, ih less, byte]
      exact congrArg (fun m => some (m, rest)) (Nat.mod_add_div n 0x100)

theorem readCounted_counted (bytes rest : List UInt8) :
    readCounted (varint bytes.length ++ bytes ++ rest) = some (bytes, rest) := by
  rw [readCounted, List.append_assoc, readVarint_varint]
  show (if bytes.length ≤ (bytes ++ rest).length then _ else none) = _
  rw [if_pos (by simp), List.take_left, List.drop_left]

/-! ## Fields -/

theorem readPayload_write {payload : Payload} (fits : payload.Fits) (rest : List UInt8) :
    readPayload payload.kind (payload.write ++ rest) = some (payload, rest) := by
  cases payload with
  | varint n => simp [readPayload, Payload.kind, Payload.write, readVarint_varint]
  | fixed n =>
      have read := readLittleEndian_littleEndian 8 fits rest
      simp [readPayload, Payload.kind, Payload.write, read]
  | bytes counted =>
      have read := readCounted_counted counted rest
      rw [List.append_assoc] at read
      simp [readPayload, Payload.kind, Payload.write, read]

theorem kind_lt (payload : Payload) : payload.kind < 8 := by
  cases payload <;> simp [Payload.kind]

/-- A written field is read back, and what follows it is left. -/
theorem readField_write {f : Field} (sound : f.Sound) (rest : List UInt8) :
    readField (f.write ++ rest) = some (f, rest) := by
  have small := kind_lt f.payload
  have kind : (8 * f.number + f.payload.kind) % 8 = f.payload.kind := by omega
  have number : (8 * f.number + f.payload.kind) / 8 = f.number := by omega
  rw [Field.write, tag, List.append_assoc, readField, readVarint_varint]
  show (do
    let (payload, rest) ←
      readPayload ((8 * f.number + f.payload.kind) % 8) (f.payload.write ++ rest)
    if (8 * f.number + f.payload.kind) / 8 = 0 then none
      else some (⟨(8 * f.number + f.payload.kind) / 8, payload⟩, rest)) = some (f, rest)
  rw [kind, readPayload_write sound.fits, number]
  exact if_neg (Nat.ne_of_gt sound.numbered)

theorem write_ne_nil (f : Field) : f.write ≠ [] :=
  List.append_ne_nil_of_left_ne_nil (varint_ne_nil _) _

theorem readFields_write {fs : List Field} (sound : ∀ f ∈ fs, f.Sound) {bound : Nat}
    (enough : fs.length ≤ bound) : readFields bound (fs.flatMap Field.write) = some fs := by
  induction fs generalizing bound with
  | nil => exact readFields.eq_1 bound
  | cons f rest ih =>
      obtain ⟨bound, rfl⟩ : ∃ less, bound = less + 1 := Nat.exists_eq_succ_of_ne_zero (by
        intro zero
        rw [zero] at enough
        exact absurd enough (Nat.not_succ_le_zero _))
      obtain ⟨byte, bytes, written⟩ := List.exists_cons_of_ne_nil (write_ne_nil f)
      have first := readField_write (sound f List.mem_cons_self) (rest.flatMap Field.write)
      have others := ih (fun g later => sound g (List.mem_cons_of_mem _ later))
        (Nat.le_of_succ_le_succ enough)
      rw [List.flatMap_cons, written, List.cons_append, readFields, ← List.cons_append, ← written,
        first]
      show (do return f :: (← readFields bound (rest.flatMap Field.write))) = some (f :: rest)
      rw [others]
      rfl

/-- Bytes that have been written as fields consist of these. -/
theorem fields?_write {fs : List Field} (sound : ∀ f ∈ fs, f.Sound) :
    fields? (fs.flatMap Field.write) = some fs := by
  refine readFields_write sound ?_
  -- Each field takes up a byte at least, so there are no more fields than bytes.
  rw [List.length_flatMap]
  have counted := List.length_le_sum_of_one_le (fs.map fun f => f.write.length)
  rw [List.length_map] at counted
  refine counted fun n member => ?_
  obtain ⟨f, _, rfl⟩ := List.mem_map.mp member
  exact List.length_pos_iff.mpr (write_ne_nil f)

end GpuTelemetry.Otlp.Wire
