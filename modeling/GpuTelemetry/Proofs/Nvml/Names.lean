import GpuTelemetry.Nvml.Backend
import GpuTelemetry.Proofs.Session.Lookup
import GpuTelemetry.Proofs.Text.Utf8

/-!
# Names from the driver

The driver returns the name of a device as bytes or as a text. A look-up admits a name or rejects
it, and it never alters one: whether it does depends on the UTF-8 form of the name alone, and the
name of a device that is found has that very form (`Admits`).

Main statement: `names_admitted_unaltered`.
-/

namespace GpuTelemetry.Nvml

/-- The bytes of a name, which are those of its UTF-8 form if it is a text. -/
def RawName.utf8 : RawName → List UInt8
  | .text s => s.toUTF8.toList
  | .bytes bs => bs

namespace RawName

/-- Decoding gives the one text that has the bytes of the name. -/
theorem decode_eq_ok_iff {raw : RawName} {s : String} :
    raw.decode = .ok s ↔ s.toUTF8.toList = raw.utf8 := by
  cases raw with
  | text given =>
      show Except.ok given = .ok s ↔ s.toUTF8.toList = given.toUTF8.toList
      rw [← Text.fromUTF8?_eq_some_iff, Text.fromUTF8?_eq_some_iff.mpr rfl]
      exact ⟨fun same => by cases same; rfl, fun same => by cases same; rfl⟩
  | bytes bs =>
      show decode (.bytes bs) = .ok s ↔ s.toUTF8.toList = bs
      rw [← Text.fromUTF8?_eq_some_iff]
      unfold decode
      dsimp only
      cases String.fromUTF8? ⟨bs.toArray⟩ with
      | none => exact ⟨fun same => (by cases same), fun same => (by cases same)⟩
      | some t => exact ⟨fun same => by cases same; rfl, fun same => by cases same; rfl⟩

/-- The bytes of a name are well-formed exactly if it is decoded, and otherwise it is refused in
words. -/
theorem decode_cases (raw : RawName) :
    (∃ s, raw.decode = .ok s ∧ s.toUTF8.toList = raw.utf8 ∧ Text.WellFormed raw.utf8) ∨
      (∃ reason, raw.decode = .error (.declined reason)) ∧ ¬ Text.WellFormed raw.utf8 := by
  rcases decoded : raw.decode with refusal | s
  · right
    -- Well-formed bytes are those of some text, which decoding would have given.
    have none : ¬ Text.WellFormed raw.utf8 := by
      intro grammar
      obtain ⟨s, read⟩ := Text.exists_fromUTF8?_iff.mpr grammar
      rw [Text.fromUTF8?_eq_some_iff, ← decode_eq_ok_iff, decoded] at read
      cases read
    cases raw with
    | text s => cases decoded
    | bytes bs =>
        unfold decode at decoded
        dsimp only at decoded
        split at decoded
        · cases decoded
        · cases decoded
          exact ⟨⟨_, rfl⟩, none⟩
  · have form := decode_eq_ok_iff.mp decoded
    refine .inl ⟨s, rfl, form, ?_⟩
    exact Text.exists_fromUTF8?_iff.mp ⟨s, Text.fromUTF8?_eq_some_iff.mpr form⟩

/-- A text is decoded as its bytes are. -/
theorem decode_utf8 (raw : RawName) : decode (.bytes raw.utf8) = raw.decode := by
  cases raw with
  | text s => exact decode_eq_ok_iff.mpr rfl
  | bytes bs => rfl

end RawName

/-! ## The verdict on a name -/

/-- What a look-up gives for the name that the driver returns, if nothing else is wrong. -/
def verdict (index : Int) (native : Native) (raw : RawName) :
    Except Fault GpuTelemetry.Device :=
  match raw.decode with
  | .error refusal => .error (refusal.named (.nameFailed index))
  | .ok name =>
    match Session.nameProblem? index name with
    | some problem => .error (.failed problem)
    | none => .ok ⟨index, name, native⟩

/-- What a look-up makes of the bytes of a name: it gives the device at the index, with the handle
and with a name of these bytes, or it fails for what is wrong with them. -/
structure Admits (index : Int) (native : Native) (bytes : List UInt8)
    (result : Except Fault GpuTelemetry.Device) : Prop where
  admitted : (∃ device, result = .ok device) ↔
    Text.WellFormed bytes ∧ 1 ≤ bytes.length ∧ bytes.length ≤ 63
  unaltered : ∀ device, result = .ok device →
    device.index = index ∧ device.native = native ∧ device.name.toUTF8.toList = bytes
  unreadable : ¬ Text.WellFormed bytes ∨ bytes = [] → ∃ f, result = .error (.failed f) ∧
    f.kind = .queryFailed ∧ f.operation = s!"get name of device {index}"
  tooLong : Text.WellFormed bytes → 63 < bytes.length → ∃ f, result = .error (.failed f) ∧
    f.kind = .nameTooLong ∧ f.operation = s!"get name of device {index}" ∧
    f.detail = s!"name is {bytes.length} bytes, limit is {Failure.nameLimit}"

namespace Admits

variable {index : Int} {native : Native} {bytes : List UInt8} {f : Failure}

/-- A name that cannot be read or is empty. -/
theorem of_unreadable (bad : ¬ Text.WellFormed bytes ∨ bytes = []) (kind : f.kind = .queryFailed)
    (operation : f.operation = s!"get name of device {index}") :
    Admits index native bytes (.error (.failed f)) where
  admitted := by
    constructor
    · rintro ⟨device, same⟩
      cases same
    · rintro ⟨wellFormed, some, _⟩
      -- An empty name is well-formed and therefore needs its own case.
      rcases bad with illFormed | rfl
      · exact absurd wellFormed illFormed
      · exact absurd some (by simp)
  unaltered := fun device same => by cases same
  unreadable := fun _ => ⟨f, rfl, kind, operation⟩
  tooLong := fun wellFormed long => by
    rcases bad with illFormed | rfl
    · exact absurd wellFormed illFormed
    · exact absurd long (by simp)

/-- A name of too many bytes. -/
theorem of_tooLong (long : 63 < bytes.length) (wellFormed : Text.WellFormed bytes) :
    Admits index native bytes (.error (.failed (.nameTooLong index bytes.length))) where
  admitted := by
    constructor
    · rintro ⟨device, same⟩
      cases same
    · rintro ⟨_, _, short⟩
      omega
  unaltered := fun device same => by cases same
  unreadable := fun bad => by
    -- The length is that of well-formed bytes, and more than none.
    rcases bad with illFormed | rfl
    · exact absurd wellFormed illFormed
    · exact absurd long (by simp)
  tooLong := fun _ _ => ⟨_, rfl, rfl, rfl, rfl⟩

/-- A name that fits. -/
theorem of_fitting {name : String} (form : name.toUTF8.toList = bytes)
    (wellFormed : Text.WellFormed bytes) (some : 1 ≤ bytes.length) (short : bytes.length ≤ 63) :
    Admits index native bytes (.ok ⟨index, name, native⟩) where
  admitted := ⟨fun _ => ⟨wellFormed, some, short⟩, fun _ => ⟨_, rfl⟩⟩
  unaltered := fun device same => by
    cases same
    exact ⟨rfl, rfl, form⟩
  unreadable := fun bad => by
    rcases bad with illFormed | rfl
    · exact absurd wellFormed illFormed
    · exact absurd some (by simp)
  tooLong := fun _ long => by omega

end Admits

/-- The verdict depends on the bytes alone. -/
theorem admits_verdict (index : Int) (native : Native) (raw : RawName) :
    Admits index native raw.utf8 (verdict index native raw) := by
  unfold verdict
  rcases raw.decode_cases with ⟨name, decoded, form, wellFormed⟩ | ⟨⟨reason, refused⟩, illFormed⟩
  · rw [decoded]
    dsimp only
    -- The limit is on the bytes of the text that was decoded, which are those of the name.
    have size : name.utf8ByteSize = raw.utf8.length := by rw [← form, Text.length_toUTF8]
    unfold Session.nameProblem?
    by_cases empty : name = ""
    · rw [if_pos empty]
      exact .of_unreadable (.inr (form ▸ Text.toUTF8_eq_nil_iff.mpr empty)) rfl rfl
    rw [if_neg empty]
    have some : raw.utf8 ≠ [] := form ▸ mt Text.toUTF8_eq_nil_iff.mp empty
    rw [size]
    by_cases long : Failure.nameLimit < raw.utf8.length
    · rw [if_pos long]
      exact .of_tooLong long wellFormed
    · rw [if_neg long]
      exact .of_fitting form wellFormed (List.length_pos_iff.mpr some) (Nat.le_of_not_lt long)
  · rw [refused]
    exact .of_unreadable (.inl illFormed) rfl rfl

/-! ## Looking up -/

/-- An open session with a device at an index, which is in range, and with the handle and the name
that the driver returns for it. The number of devices is given or the driver reports it. -/
structure Named (h : Session Driver) (s : Sessions Driver) (count? : Option Int) (index : Int)
    (native : Native) (raw : RawName) : Prop where
  isOpen : s.phase h.id = .opened
  inRange : ∃ count, (count? = some count ∨ count? = none ∧ s.backends.count = .ok count) ∧
    0 ≤ index ∧ index < count
  handle : s.backends.handleAt index = .ok native
  name : s.backends.property native (·.name) = .ok raw

variable {h : Session Driver} {s : Sessions Driver} {count? : Option Int} {index : Int}
  {native : Native} {raw : RawName} {id : BackendId}

/-- If the device is there and has a handle, a look-up comes down to its name. -/
theorem result_resolveBelow (driven : h.backend = backend id) {count : Int}
    (isOpen : s.phase h.id = .opened) (inside : 0 ≤ index ∧ index < count)
    (handle : s.backends.handleAt index = .ok native)
    (name : s.backends.property native (·.name) = .ok raw) :
    (h.resolveBelow count index s).result = verdict index native raw := by
  have handed : (h.backend.answer (.handleAt index) s.backends).result = .ok native := by
    rw [driven]
    exact congrArg (Except.mapError declined) handle
  -- The driver is the same when it is asked for the name.
  have replied : (h.backend.answer (.nameOf native)
      (h.backend.asked (.handleAt index) s).backends).result = raw.decode := by
    rw [driven]
    exact congrArg (fun reply => (Except.mapError declined reply).bind RawName.decode) name
  unfold verdict
  cases h.resolving isOpen count index with
  | outOfRange outside => omega
  | noHandle refusal _ reply => cases handed.symm.trans reply
  | noName native' refusal _ handle' reply result =>
      cases handed.symm.trans handle'
      rw [result, replied.symm.trans reply]
  | named native' text _ handle' reply unfit fit =>
      cases handed.symm.trans handle'
      rw [replied.symm.trans reply]
      dsimp only
      split
      · exact unfit _ ‹_›
      · exact fit ‹_›

theorem result_resolve (driven : h.backend = backend id)
    (named : Named h s count? index native raw) :
    (h.resolve index count? s).result = verdict index native raw := by
  obtain ⟨count, known, inside⟩ := named.inRange
  rcases known with rfl | ⟨rfl, counted⟩
  · rw [Session.resolve_of_given]
    exact result_resolveBelow driven named.isOpen inside named.handle named.name
  · have answered : (h.backend.answer .deviceCount s.backends).result = .ok count := by
      rw [driven]
      exact congrArg (Except.mapError declined) counted
    rw [(Session.resolve_of_counted named.isOpen answered index).1]
    -- Counting the devices leaves the driver as it is.
    have same : (h.backend.asked .deviceCount s).backends = s.backends := by
      rw [driven]
      rfl
    exact result_resolveBelow driven named.isOpen inside (same ▸ named.handle) (same ▸ named.name)

/-- Looking up a device of the driver that has a handle admits its name exactly if the bytes are
well-formed UTF-8, of which there is at least one and at most 63, and then the device has a name of
these very bytes; a text is treated like its UTF-8 form. -/
theorem names_admitted_unaltered (driven : h.backend = backend id)
    (named : Named h s count? index native raw) :
    Admits index native raw.utf8 (h.resolve index count? s).result ∧
      ∀ t, Named h t count? index native (.bytes raw.utf8) →
        (h.resolve index count? t).result = (h.resolve index count? s).result := by
  rw [result_resolve driven named]
  refine ⟨admits_verdict index native raw, fun t named' => ?_⟩
  rw [result_resolve driven named']
  unfold verdict
  rw [raw.decode_utf8]

/-- A name beyond ASCII, given as a text, is found with its bytes, as it would be if the driver had
given these; an overlong form of a character is none. -/
theorem names_of_two_devices :
    let h : Session Driver := ⟨0, backend 0⟩
    let on (name : RawName) : Sessions Driver :=
      { backends := { devices := [{ name := .ok name }, { name := .ok (.bytes [0xC0, 0x80]) }] },
        phase := fun _ => .opened }
    (∃ device, (h.resolve 0 none (on (.text "µ"))).result = .ok device ∧
        device.name.toUTF8.toList = [0xC2, 0xB5] ∧
        (h.resolve 0 none (on (.bytes [0xC2, 0xB5]))).result = .ok device) ∧
      ∃ f, (h.resolve 1 none (on (.text "µ"))).result = .error (.failed f) ∧
        f.kind = .queryFailed ∧ f.operation = "get name of device 1" := by
  intro h on
  have found (name : RawName) : Named h (on name) none 0 (Driver.handleOf 0) name :=
    ⟨rfl, ⟨2, .inr ⟨rfl, rfl⟩, by decide⟩, rfl, rfl⟩
  have overlong : Named h (on (.text "µ")) none 1 (Driver.handleOf 1) (.bytes [0xC0, 0x80]) :=
    ⟨rfl, ⟨2, .inr ⟨rfl, rfl⟩, by decide⟩, rfl, rfl⟩
  have bytes : (RawName.text "µ").utf8 = [0xC2, 0xB5] := by decide +kernel
  have wellFormed : Text.WellFormed [0xC2, 0xB5] :=
    .append (.two (by decide) ⟨by decide, by decide⟩) .nil
  have illFormed : ¬ Text.WellFormed [0xC0, 0x80] := by
    -- The grammar does not evaluate, so the bytes are given to the decoder.
    rw [← Text.exists_fromUTF8?_iff]
    have none : String.fromUTF8? ⟨[0xC0, 0x80].toArray⟩ = none := by decide +kernel
    simp [none]
  have driven : h.backend = backend 0 := rfl
  obtain ⟨verdict, alike⟩ := names_admitted_unaltered driven (found (.text "µ"))
  rw [bytes] at verdict alike
  obtain ⟨device, given⟩ := verdict.admitted.mpr ⟨wellFormed, by decide, by decide⟩
  refine ⟨⟨device, given, (verdict.unaltered device given).2.2, ?_⟩, ?_⟩
  · rw [alike _ (found (.bytes [0xC2, 0xB5])), given]
  · exact (names_admitted_unaltered driven overlong).1.unreadable (.inl illFormed)

end GpuTelemetry.Nvml
