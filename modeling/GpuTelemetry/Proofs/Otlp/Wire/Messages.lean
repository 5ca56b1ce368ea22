import Mathlib.Control.Monad.Basic
import GpuTelemetry.Proofs.Otlp
import GpuTelemetry.Proofs.Otlp.Partial
import GpuTelemetry.Proofs.Otlp.Wire.Fields
import GpuTelemetry.Proofs.Text.Utf8

/-!
# Reading requests from the wire

The request that some bytes stand for. A message takes in its fields one after the other: a plain
text or number is the last one given, a message inside takes in the fields of all that are given,
and of alternatives the last one counts. A field that a request has no place for is refused, so that
nothing else is in bytes that can be read.

Main statement: `request?_ofRequest`, by which a request that has been written is read back.
-/

namespace GpuTelemetry.Otlp.Wire

/-! ## Texts and numbers -/

def utf8 (s : String) : List UInt8 :=
  s.toUTF8.toList

/-- The text that bytes are the UTF-8 form of. -/
def text? (bytes : List UInt8) : Option String :=
  String.fromUTF8? ⟨bytes.toArray⟩

/-- The signed number with the lowest 64 bits of a number. -/
def ofBits (n : Nat) : Signed :=
  if low : n % 0x10000000000000000 < 0x8000000000000000 then
    ⟨(n % 0x10000000000000000 : Nat), by omega, by omega⟩
  else ⟨(n % 0x10000000000000000 : Nat) - 0x10000000000000000, by omega, by omega⟩

def unsigned? (n : Nat) : Option Unsigned :=
  if fits : n < 0x10000000000000000 then some ⟨n, fits⟩ else none

@[simp]
theorem text?_utf8 (s : String) : text? (utf8 s) = some s :=
  Text.fromUTF8?_eq_some_iff.mpr rfl

theorem bits_lt (n : Signed) : bits n < 0x10000000000000000 := by
  unfold bits
  omega

@[simp]
theorem ofBits_bits (n : Signed) : ofBits (bits n) = n := by
  have lower := n.lower
  have upper := n.upper
  refine Signed.eq_of_val ?_
  unfold ofBits bits
  split <;> dsimp only <;> omega

@[simp]
theorem unsigned?_val (n : Unsigned) : unsigned? n.val = some n :=
  dif_pos n.upper

/-! ## Messages -/

/-- Bytes in which fields have been written. -/
structure Holds (bytes : List UInt8) (fs : List Field) : Prop where
  written : bytes = fs.flatMap Field.write
  sound : ∀ f ∈ fs, f.Sound

/-- A text as a field, left out if it is empty. -/
def plainText (number : Nat) (s : String) : List Field :=
  if s = "" then [] else [⟨number, .bytes (utf8 s)⟩]

/-- Values as fields of one number. -/
def repeated {β : Type} (number : Nat) (write : β → List UInt8) (xs : List β) : List Field :=
  xs.map fun x => ⟨number, .bytes (write x)⟩

namespace Holds

variable {number : Nat} (numbered : 0 < number)
include numbered

theorem varint (n : Nat) : Holds (varintField number n) [⟨number, .varint n⟩] :=
  ⟨(List.append_nil _).symm, List.forall_mem_singleton.mpr ⟨numbered, trivial⟩⟩

theorem fixed {n : Nat} (fits : n < 0x10000000000000000) :
    Holds (fixedField number n) [⟨number, .fixed n⟩] :=
  ⟨(List.append_nil _).symm, List.forall_mem_singleton.mpr ⟨numbered, fits⟩⟩

theorem bytes (counted : List UInt8) :
    Holds (bytesField number counted) [⟨number, .bytes counted⟩] := by
  refine ⟨?_, List.forall_mem_singleton.mpr ⟨numbered, trivial⟩⟩
  rw [List.flatMap_singleton, bytesField_eq]

theorem plainText (s : String) : Holds (plainTextField number s) (plainText number s) := by
  unfold plainTextField Wire.plainText
  split
  · exact ⟨rfl, nofun⟩
  · exact .bytes numbered (utf8 s)

theorem repeated {β : Type} (write : β → List UInt8) (xs : List β) :
    Holds (xs.flatMap fun x => bytesField number (write x)) (repeated number write xs) := by
  refine ⟨?_, List.forall_mem_map.mpr fun _ _ => ⟨numbered, trivial⟩⟩
  rw [Wire.repeated, List.flatMap_map]
  exact List.flatMap_congr fun x _ => bytesField_eq number (write x)

omit numbered

theorem append {bytes more : List UInt8} {fs gs : List Field} (holds : Holds bytes fs)
    (other : Holds more gs) : Holds (bytes ++ more) (fs ++ gs) := by
  refine ⟨?_, List.forall_mem_append.mpr ⟨holds.sound, other.sound⟩⟩
  rw [List.flatMap_append, ← holds.written, ← other.written]

end Holds

section Messages

variable {α β : Type} {take : α → Field → Option α} {number : Nat}

/-- What is there, and the fields of a message on top of it. -/
def message (take : α → Field → Option α) (start : α) (bytes : List UInt8) : Option α := do
  (← fields? bytes).foldlM take start

theorem message_of_holds {bytes : List UInt8} {fs : List Field} (holds : Holds bytes fs)
    (start : α) : message take start bytes = fs.foldlM take start := by
  rw [message, holds.written, fields?_write holds.sound]
  rfl

/-- A text that has been left out is the empty one that is there before. -/
theorem foldlM_plainText (put : String → α)
    (taken : ∀ s, take (put "") ⟨number, .bytes (utf8 s)⟩ = some (put s)) (s : String) :
    (plainText number s).foldlM take (put "") = some (put s) :=
  foldlM_leftOut (fun empty => congrArg put empty.symm) (taken s)

/-- Values are taken in behind those that are there. -/
theorem foldlM_repeated (put : List β → α) {write : β → List UInt8}
    (taken : ∀ before x, take (put before) ⟨number, .bytes (write x)⟩ = some (put (before ++ [x])))
    (before xs : List β) :
    (repeated number write xs).foldlM take (put before) = some (put (before ++ xs)) := by
  induction xs generalizing before with
  | nil =>
      rw [List.append_nil]
      rfl
  | cons x rest ih =>
      rw [List.append_cons, ← ih (before ++ [x])]
      show (take (put before) ⟨number, .bytes (write x)⟩ >>= _) = _
      rw [taken]
      rfl

end Messages

/-! ## Attributes -/

/-- The value of an attribute; of several alternatives, the last one. -/
def takeValue (_ : Option AttributeValue) : Field → Option (Option AttributeValue)
  | ⟨1, .bytes text⟩ => (text? text).map fun s => some (.text s)
  | ⟨3, .varint n⟩ => some (some (.int (ofBits n)))
  | _ => none

def takeAttribute (a : PartialAttribute) : Field → Option PartialAttribute
  | ⟨1, .bytes text⟩ => (text? text).map fun key => { a with key }
  | ⟨2, .bytes value⟩ => (message takeValue a.value value).map fun value => { a with value }
  | _ => none

def attribute? (bytes : List UInt8) : Option Attribute := do
  (← message takeAttribute .none bytes).whole?

@[simp]
theorem message_ofValue (before : Option AttributeValue) (value : AttributeValue) :
    message takeValue before (ofValue value) = some (some value) := by
  cases value with
  | text s =>
      have holds : Holds (ofValue (.text s)) [⟨1, .bytes (utf8 s)⟩] := .bytes (by decide) _
      rw [message_of_holds holds]
      simp [takeValue]
  | int n =>
      have holds : Holds (ofValue (.int n)) [⟨3, .varint (bits n)⟩] := .varint (by decide) _
      rw [message_of_holds holds]
      simp [takeValue]

@[simp]
theorem attribute?_ofAttribute (a : Attribute) : attribute? (ofAttribute a) = some a := by
  have holds : Holds (ofAttribute a) (plainText 1 a.key ++ [⟨2, .bytes (ofValue a.value)⟩]) :=
    .append (.plainText (by decide) a.key) (.bytes (by decide) _)
  have key : (plainText 1 a.key).foldlM takeAttribute .none = some ⟨a.key, none⟩ :=
    foldlM_plainText (PartialAttribute.mk · none) (fun s => by simp [takeAttribute]) a.key
  have value : [⟨2, .bytes (ofValue a.value)⟩].foldlM takeAttribute ⟨a.key, none⟩ =
      some ⟨a.key, some a.value⟩ := by
    simp [takeAttribute]
  rw [attribute?, message_of_holds holds, foldlM_behind key value]
  rfl

/-! ## Points and gauges -/

def takePoint (p : PartialPoint) : Field → Option PartialPoint
  | ⟨3, .fixed n⟩ => (unsigned? n).map fun time => { p with time }
  | ⟨6, .fixed n⟩ => some { p with value := some (ofBits n) }
  | ⟨7, .bytes bytes⟩ =>
    (attribute? bytes).map fun a => { p with attributes := p.attributes ++ [a] }
  | _ => none

def point? (bytes : List UInt8) : Option DataPoint := do
  (← message takePoint .none bytes).whole?

/-- A time as a field, left out if it is zero. -/
def plainTime (n : Nat) : List Field :=
  if n = 0 then [] else [⟨3, .fixed n⟩]

theorem foldlM_plainTime (time : Unsigned) :
    (plainTime time.val).foldlM takePoint .none = some ⟨time, none, []⟩ := by
  refine foldlM_leftOut (fun zero => ?_) (by simp [takePoint, PartialPoint.none])
  exact congrArg (PartialPoint.mk · none []) (Unsigned.eq_of_val zero.symm)

@[simp]
theorem point?_ofPoint (p : DataPoint) : point? (ofPoint p) = some p := by
  -- A time of zero is left out, and then it is what a message without a time has.
  have time : Holds (if p.time.val = 0 then [] else fixedField 3 p.time.val)
      (plainTime p.time.val) := by
    unfold plainTime
    split
    · exact ⟨rfl, nofun⟩
    · exact .fixed (by decide) p.time.upper
  have holds : Holds (ofPoint p) (plainTime p.time.val ++ [⟨6, .fixed (bits p.value)⟩] ++
      repeated 7 ofAttribute p.attributes) :=
    .append (.append time (.fixed (by decide) (bits_lt p.value)))
      (.repeated (by decide) ofAttribute p.attributes)
  have value : [⟨6, .fixed (bits p.value)⟩].foldlM takePoint ⟨p.time, none, []⟩ =
      some ⟨p.time, some p.value, []⟩ := by
    simp [takePoint]
  have attributes : (repeated 7 ofAttribute p.attributes).foldlM takePoint
      ⟨p.time, some p.value, []⟩ = some ⟨p.time, some p.value, p.attributes⟩ :=
    foldlM_repeated (PartialPoint.mk p.time (some p.value)) (fun before a => by simp [takePoint])
      [] p.attributes
  rw [point?, message_of_holds holds,
    foldlM_behind (foldlM_behind (foldlM_plainTime p.time) value) attributes]
  rfl

def takePoints (points : List DataPoint) : Field → Option (List DataPoint)
  | ⟨1, .bytes bytes⟩ => (point? bytes).map fun p => points ++ [p]
  | _ => none

def takeGauge (g : PartialGauge) : Field → Option PartialGauge
  | ⟨1, .bytes text⟩ => (text? text).map fun name => { g with name }
  | ⟨3, .bytes text⟩ => (text? text).map fun unit => { g with unit }
  | ⟨5, .bytes bytes⟩ =>
    (message takePoints (g.points.getD []) bytes).map fun points => { g with points := some points }
  | _ => none

def gauge? (bytes : List UInt8) : Option Gauge := do
  (← message takeGauge .none bytes).whole?

theorem message_ofPoints (before points : List DataPoint) :
    message takePoints before (points.flatMap fun p => bytesField 1 (ofPoint p)) =
      some (before ++ points) := by
  rw [message_of_holds (.repeated (by decide) ofPoint points)]
  exact foldlM_repeated id (fun before p => by simp [takePoints]) before points

@[simp]
theorem gauge?_ofGauge (g : Gauge) : gauge? (ofGauge g) = some g := by
  -- Name and unit are left out if they are empty. The points are always there, be it without a
  -- point.
  have holds : Holds (ofGauge g) (plainText 1 g.name ++ plainText 3 g.unit ++
      [⟨5, .bytes (g.points.flatMap fun p => bytesField 1 (ofPoint p))⟩]) :=
    .append (.append (.plainText (by decide) g.name) (.plainText (by decide) g.unit))
      (.bytes (by decide) _)
  have name : (plainText 1 g.name).foldlM takeGauge .none = some ⟨g.name, "", none⟩ :=
    foldlM_plainText (PartialGauge.mk · "" none) (fun s => by simp [takeGauge]) g.name
  have unit : (plainText 3 g.unit).foldlM takeGauge ⟨g.name, "", none⟩ =
      some ⟨g.name, g.unit, none⟩ :=
    foldlM_plainText (PartialGauge.mk g.name · none) (fun s => by simp [takeGauge]) g.unit
  have points : [⟨5, .bytes (g.points.flatMap fun p => bytesField 1 (ofPoint p))⟩].foldlM takeGauge
      ⟨g.name, g.unit, none⟩ = some ⟨g.name, g.unit, some g.points⟩ := by
    simp [takeGauge, message_ofPoints]
  rw [gauge?, message_of_holds holds, foldlM_behind (foldlM_behind name unit) points]
  rfl

/-! ## Requests -/

def takeScope (s : Scope) : Field → Option Scope
  | ⟨1, .bytes text⟩ => (text? text).map fun name => { s with name }
  | ⟨2, .bytes text⟩ => (text? text).map fun version => { s with version }
  | _ => none

def takeResource (attributes : List Attribute) : Field → Option (List Attribute)
  | ⟨1, .bytes bytes⟩ => (attribute? bytes).map fun a => attributes ++ [a]
  | _ => none

def takeScopeMetrics (m : PartialScopeMetrics) : Field → Option PartialScopeMetrics
  | ⟨1, .bytes bytes⟩ =>
    (message takeScope (m.scope.getD ⟨"", ""⟩) bytes).map fun s => { m with scope := some s }
  | ⟨2, .bytes bytes⟩ => (gauge? bytes).map fun g => { m with gauges := m.gauges ++ [g] }
  | _ => none

def takeResourceMetrics (m : PartialResourceMetrics) : Field → Option PartialResourceMetrics
  | ⟨1, .bytes bytes⟩ =>
    (message takeResource (m.resource.getD []) bytes).map fun attributes =>
      { m with resource := some attributes }
  | ⟨2, .bytes bytes⟩ =>
    (message takeScopeMetrics ⟨none, []⟩ bytes).map fun scope =>
      { m with scopes := m.scopes ++ [scope] }
  | _ => none

def takeRequest (resources : List PartialResourceMetrics) :
    Field → Option (List PartialResourceMetrics)
  | ⟨1, .bytes bytes⟩ =>
    (message takeResourceMetrics ⟨none, []⟩ bytes).map fun resource => resources ++ [resource]
  | _ => none

/-- The request that bytes stand for, if they are those of one resource with one scope. -/
def request? (bytes : List UInt8) : Option Request := do
  Request.ofPartial? (← message takeRequest [] bytes)

theorem message_ofScope (s : Scope) :
    message takeScope ⟨"", ""⟩ (ofScope s) = some s := by
  have holds : Holds (ofScope s) (plainText 1 s.name ++ plainText 2 s.version) :=
    .append (.plainText (by decide) s.name) (.plainText (by decide) s.version)
  have name : (plainText 1 s.name).foldlM takeScope ⟨"", ""⟩ = some ⟨s.name, ""⟩ :=
    foldlM_plainText (Scope.mk · "") (fun s => by simp [takeScope]) s.name
  have version : (plainText 2 s.version).foldlM takeScope ⟨s.name, ""⟩ = some s :=
    foldlM_plainText (Scope.mk s.name) (fun s => by simp [takeScope]) s.version
  rw [message_of_holds holds]
  exact foldlM_behind name version

theorem message_ofAttributes (attributes : List Attribute) :
    message takeResource [] (attributes.flatMap fun a => bytesField 1 (ofAttribute a)) =
      some attributes := by
  rw [message_of_holds (.repeated (by decide) ofAttribute attributes)]
  exact foldlM_repeated id (fun before a => by simp [takeResource]) [] attributes

theorem message_ofScopeMetrics (s : Scope) (gauges : List Gauge) :
    message takeScopeMetrics ⟨none, []⟩
        (bytesField 1 (ofScope s) ++ gauges.flatMap fun g => bytesField 2 (ofGauge g)) =
      some ⟨some s, gauges⟩ := by
  have scope : [⟨1, .bytes (ofScope s)⟩].foldlM takeScopeMetrics ⟨none, []⟩ =
      some ⟨some s, []⟩ := by
    simp [takeScopeMetrics, message_ofScope]
  have listed : (repeated 2 ofGauge gauges).foldlM takeScopeMetrics ⟨some s, []⟩ =
      some ⟨some s, gauges⟩ :=
    foldlM_repeated (PartialScopeMetrics.mk (some s)) (fun before g => by simp [takeScopeMetrics])
      [] gauges
  rw [message_of_holds (.append (.bytes (by decide) _) (.repeated (by decide) ofGauge gauges))]
  exact foldlM_behind scope listed

/-- What has been written as a request is read back as this request. -/
theorem request?_ofRequest (q : Request) : request? (ofRequest q) = some q := by
  have resource : ∀ attributes scopes,
      Holds (bytesField 1 attributes ++ bytesField 2 scopes)
        ([⟨1, .bytes attributes⟩] ++ [⟨2, .bytes scopes⟩]) := fun _ _ =>
    .append (.bytes (by decide) _) (.bytes (by decide) _)
  rw [request?, ofRequest, message_of_holds (.bytes (by decide) _)]
  simp [takeRequest, message_of_holds (resource _ _), takeResourceMetrics, message_ofAttributes,
    message_ofScopeMetrics, Request.ofPartial?]

/-- Different requests have different bytes. -/
theorem ofRequest_injective {q r : Request} (same : ofRequest q = ofRequest r) : q = r := by
  have read := congrArg request? same
  rw [request?_ofRequest, request?_ofRequest] at read
  exact Option.some.inj read

end GpuTelemetry.Otlp.Wire
