import Mathlib.Control.Monad.Basic
import GpuTelemetry.Otlp.Document
import GpuTelemetry.Proofs.Json.Document
import GpuTelemetry.Proofs.Otlp
import GpuTelemetry.Proofs.Otlp.Partial

/-!
# Reading requests from documents

The request that a JSON value stands for. The members of a message are taken in one after the other,
in any order; one that is left out stands for an empty text, for zero or for an empty list, and one
that a request has no place for is refused.

Main statement: `Document.request?_ofRequest`, by which a request is read back from its document.
-/

namespace GpuTelemetry.Otlp.Document

/-! ## Values -/

def wide? : Json → Option Int
  | .text s => Numeral.read s
  | .int n => some n
  | _ => none

def signed? (j : Json) : Option Signed := do
  (Signed.ofInt (← wide? j)).toOption

def unsigned? (j : Json) : Option Unsigned := do
  (Unsigned.ofInt (← wide? j)).toOption

/-- A number of 64 bits has no more digits than a numeral may have. -/
theorem wide?_wide {n : Int} (lower : -0x8000000000000000 ≤ n) (upper : n < 0x10000000000000000) :
    wide? (wide n) = some n := by
  have short : Numeral.digitCount n ≤ Numeral.digitLimit :=
    Numeral.digitCount_le_of_word (by omega)
  show Numeral.ofChars? (Numeral.text n).toList = some n
  rw [Numeral.text, String.toList_ofList]
  exact Numeral.ofChars?_eq_some_iff.mpr (Numeral.denotes_write short)

@[simp]
theorem signed?_wide (n : Signed) : signed? (wide n.val) = some n := by
  have upper := n.upper
  unfold signed?
  rw [wide?_wide n.lower (by omega)]
  rcases Signed.ofInt_cases n.val with ⟨outside, _⟩ | ⟨_, m, given, same⟩
  · have lower := n.lower
    omega
  · cases Signed.eq_of_val same
    exact congrArg Except.toOption given

@[simp]
theorem unsigned?_wide (n : Unsigned) : unsigned? (wide n.val) = some n := by
  have upper := n.upper
  unfold unsigned?
  rw [wide?_wide (by omega) (by omega)]
  rcases Unsigned.ofInt_cases n.val with ⟨outside, _⟩ | ⟨_, m, given, same⟩
  · omega
  · cases Unsigned.eq_of_val (Int.ofNat.inj same)
    exact congrArg Except.toOption given

/-! ## Messages -/

section Messages

variable {α β : Type}

def message (take : α → String × Json → Option α) (start : α) : Json → Option α
  | .object members => members.foldlM take start
  | _ => none

theorem message_object (take : α → String × Json → Option α) (start : α)
    (members : List (String × Json)) :
    message take start (.object members) = members.foldlM take start := rfl

def list? (item? : Json → Option β) : Json → Option (List β)
  | .array items => items.mapM item?
  | _ => none

theorem list?_array {item? : Json → Option β} {write : β → Json}
    (read : ∀ x, item? (write x) = some x) (xs : List β) :
    list? item? (.array (xs.map write)) = some xs := by
  show (xs.map write).mapM item? = some xs
  induction xs with
  | nil => rfl
  | cons x rest ih =>
      rw [List.map_cons, List.mapM_cons, read, ih]
      rfl

variable {take : α → String × Json → Option α} {name : String}

theorem foldlM_plainText (put : String → α)
    (taken : ∀ s, take (put "") (name, .text s) = some (put s)) (s : String) :
    (plainText name s).foldlM take (put "") = some (put s) :=
  foldlM_leftOut (fun empty => congrArg put empty.symm) (taken s)

theorem foldlM_plainList (put : List β → α) {write : β → Json} (xs : List β)
    (taken : take (put []) (name, .array (xs.map write)) = some (put xs)) :
    (plainList name (xs.map write)).foldlM take (put []) = some (put xs) := by
  unfold plainList
  cases xs with
  | nil => rfl
  | cons x rest =>
      show [(name, Json.array ((x :: rest).map write))].foldlM take (put []) = _
      rw [List.foldlM_cons, taken]
      rfl

end Messages

/-! ## Attributes -/

def takeValue (_ : Option AttributeValue) : String × Json → Option (Option AttributeValue)
  | ("stringValue", .text s) => some (some (.text s))
  | ("intValue", n) => (signed? n).map fun n => some (.int n)
  | _ => none

def takeAttribute (a : PartialAttribute) : String × Json → Option PartialAttribute
  | ("key", .text key) => some { a with key }
  | ("value", value) => (message takeValue none value).map fun value => { a with value }
  | _ => none

def attribute? (j : Json) : Option Attribute := do
  (← message takeAttribute .none j).whole?

theorem message_ofValue (value : AttributeValue) :
    message takeValue none (ofValue value) = some (some value) := by
  cases value with
  | text s => rfl
  | int n => simp [message, ofValue, takeValue]

theorem attribute?_ofAttribute (a : Attribute) : attribute? (ofAttribute a) = some a := by
  have key : (plainText "key" a.key).foldlM takeAttribute .none = some ⟨a.key, none⟩ :=
    foldlM_plainText (PartialAttribute.mk · none) (fun _ => rfl) a.key
  have value : [("value", ofValue a.value)].foldlM takeAttribute ⟨a.key, none⟩ =
      some ⟨a.key, some a.value⟩ := by
    simp [takeAttribute, message_ofValue]
  rw [attribute?, ofAttribute, message_object, foldlM_behind key value]
  rfl

/-! ## Points and gauges -/

def takePoint (p : PartialPoint) : String × Json → Option PartialPoint
  | ("timeUnixNano", n) => (unsigned? n).map fun time => { p with time }
  | ("asInt", n) => (signed? n).map fun n => { p with value := some n }
  | ("attributes", items) => (list? attribute? items).map fun attributes => { p with attributes }
  | _ => none

def point? (j : Json) : Option DataPoint := do
  (← message takePoint .none j).whole?

def takePoints (_ : List DataPoint) : String × Json → Option (List DataPoint)
  | ("dataPoints", items) => list? point? items
  | _ => none

def takeGauge (g : PartialGauge) : String × Json → Option PartialGauge
  | ("name", .text name) => some { g with name }
  | ("unit", .text unit) => some { g with unit }
  | ("gauge", data) =>
    (message takePoints [] data).map fun points => { g with points := some points }
  | _ => none

def gauge? (j : Json) : Option Gauge := do
  (← message takeGauge .none j).whole?

theorem foldlM_time (time : Unsigned) :
    (if time.val = 0 then [] else [("timeUnixNano", wide time.val)]).foldlM takePoint .none =
      some ⟨time, none, []⟩ := by
  refine foldlM_leftOut (fun zero => ?_) (by simp [takePoint, PartialPoint.none])
  exact congrArg (PartialPoint.mk · none []) (Unsigned.eq_of_val zero.symm)

theorem point?_ofPoint (p : DataPoint) : point? (ofPoint p) = some p := by
  have value : [("asInt", wide p.value.val)].foldlM takePoint ⟨p.time, none, []⟩ =
      some ⟨p.time, some p.value, []⟩ := by
    simp [takePoint]
  have attributes : (plainList "attributes" (p.attributes.map ofAttribute)).foldlM takePoint
      ⟨p.time, some p.value, []⟩ = some ⟨p.time, some p.value, p.attributes⟩ :=
    foldlM_plainList (PartialPoint.mk p.time (some p.value)) p.attributes (by
      simp [takePoint, list?_array attribute?_ofAttribute])
  rw [point?, ofPoint, message_object,
    foldlM_behind (foldlM_behind (foldlM_time p.time) value) attributes]
  rfl

theorem message_ofPoints (points : List DataPoint) :
    message takePoints [] (.object (plainList "dataPoints" (points.map ofPoint))) = some points :=
  foldlM_plainList id points (list?_array point?_ofPoint points)

theorem gauge?_ofGauge (g : Gauge) : gauge? (ofGauge g) = some g := by
  have name : (plainText "name" g.name).foldlM takeGauge .none = some ⟨g.name, "", none⟩ :=
    foldlM_plainText (PartialGauge.mk · "" none) (fun _ => rfl) g.name
  have unit : (plainText "unit" g.unit).foldlM takeGauge ⟨g.name, "", none⟩ =
      some ⟨g.name, g.unit, none⟩ :=
    foldlM_plainText (PartialGauge.mk g.name · none) (fun _ => rfl) g.unit
  have points : [("gauge", Json.object (plainList "dataPoints" (g.points.map ofPoint)))].foldlM
      takeGauge ⟨g.name, g.unit, none⟩ = some ⟨g.name, g.unit, some g.points⟩ := by
    simp [takeGauge, message_ofPoints]
  rw [gauge?, ofGauge, message_object, foldlM_behind (foldlM_behind name unit) points]
  rfl

/-! ## Requests -/

def takeScope (s : Scope) : String × Json → Option Scope
  | ("name", .text name) => some { s with name }
  | ("version", .text version) => some { s with version }
  | _ => none

def takeResource (_ : List Attribute) : String × Json → Option (List Attribute)
  | ("attributes", items) => list? attribute? items
  | _ => none

def takeScopeMetrics (m : PartialScopeMetrics) : String × Json → Option PartialScopeMetrics
  | ("scope", s) => (message takeScope ⟨"", ""⟩ s).map fun scope => { m with scope := some scope }
  | ("metrics", items) => (list? gauge? items).map fun gauges => { m with gauges }
  | _ => none

def takeResourceMetrics (m : PartialResourceMetrics) :
    String × Json → Option PartialResourceMetrics
  | ("resource", r) =>
    (message takeResource [] r).map fun attributes => { m with resource := some attributes }
  | ("scopeMetrics", items) =>
    (list? (message takeScopeMetrics ⟨none, []⟩) items).map fun scopes => { m with scopes }
  | _ => none

def takeRequest (_ : List PartialResourceMetrics) :
    String × Json → Option (List PartialResourceMetrics)
  | ("resourceMetrics", items) => list? (message takeResourceMetrics ⟨none, []⟩) items
  | _ => none

/-- The request that a JSON value stands for, if it is that of one resource with one scope. -/
def request? (j : Json) : Option Request := do
  Request.ofPartial? (← message takeRequest [] j)

theorem message_ofScope (s : Scope) : message takeScope ⟨"", ""⟩ (ofScope s) = some s := by
  have name : (plainText "name" s.name).foldlM takeScope ⟨"", ""⟩ = some ⟨s.name, ""⟩ :=
    foldlM_plainText (Scope.mk · "") (fun _ => rfl) s.name
  have version : (plainText "version" s.version).foldlM takeScope ⟨s.name, ""⟩ = some s :=
    foldlM_plainText (Scope.mk s.name) (fun _ => rfl) s.version
  exact foldlM_behind name version

theorem message_ofAttributes (attributes : List Attribute) :
    message takeResource [] (.object (plainList "attributes" (attributes.map ofAttribute))) =
      some attributes :=
  foldlM_plainList id attributes (list?_array attribute?_ofAttribute attributes)

theorem message_ofScopeMetrics (s : Scope) (gauges : List Gauge) :
    message takeScopeMetrics ⟨none, []⟩
        (.object (("scope", ofScope s) :: plainList "metrics" (gauges.map ofGauge))) =
      some ⟨some s, gauges⟩ := by
  have scope : [("scope", ofScope s)].foldlM takeScopeMetrics ⟨none, []⟩ = some ⟨some s, []⟩ := by
    simp [takeScopeMetrics, message_ofScope]
  have metrics : (plainList "metrics" (gauges.map ofGauge)).foldlM takeScopeMetrics ⟨some s, []⟩ =
      some ⟨some s, gauges⟩ :=
    foldlM_plainList (PartialScopeMetrics.mk (some s)) gauges (by
      simp [takeScopeMetrics, list?_array gauge?_ofGauge])
  exact foldlM_behind scope metrics

theorem message_ofResourceMetrics {attributes scopes : Json} {resource : List Attribute}
    {parts : List PartialScopeMetrics} (given : message takeResource [] attributes = some resource)
    (listed : list? (message takeScopeMetrics ⟨none, []⟩) scopes = some parts) :
    message takeResourceMetrics ⟨none, []⟩
        (.object [("resource", attributes), ("scopeMetrics", scopes)]) =
      some ⟨some resource, parts⟩ := by
  rw [message_object]
  simp [takeResourceMetrics, given, listed]

/-- A request is read back from its document. -/
theorem request?_ofRequest (q : Request) : request? (ofRequest q) = some q := by
  have scopes : list? (message takeScopeMetrics ⟨none, []⟩) (.array [.object
      (("scope", ofScope q.scope) :: plainList "metrics" (q.gauges.map ofGauge))]) =
      some [⟨some q.scope, q.gauges⟩] := by
    simp [list?, message_ofScopeMetrics]
  have whole := message_ofResourceMetrics (message_ofAttributes q.resource) scopes
  rw [request?, ofRequest, message_object]
  simp [takeRequest, list?, whole, Request.ofPartial?]

/-! ## Texts of documents -/

theorem legible_plainText (name s : String) : ∀ member ∈ plainText name s, member.2.Legible := by
  unfold plainText
  split
  · exact nofun
  · exact List.forall_mem_singleton.mpr (.text s)

theorem legible_plainList (name : String) {items : List Json}
    (each : ∀ item ∈ items, item.Legible) : ∀ member ∈ plainList name items, member.2.Legible := by
  unfold plainList
  split
  · exact nofun
  · exact List.forall_mem_singleton.mpr (.array items each)

theorem legible_ofAttribute (a : Attribute) : (ofAttribute a).Legible := by
  have value : (ofValue a.value).Legible := by
    cases a.value <;> exact .object _ (List.forall_mem_singleton.mpr (.text _))
  exact .object _ (List.forall_mem_append.mpr
    ⟨legible_plainText "key" a.key, List.forall_mem_singleton.mpr value⟩)

theorem legible_ofPoint (p : DataPoint) : (ofPoint p).Legible := by
  have time : ∀ member ∈ if p.time.val = 0 then [] else [("timeUnixNano", wide p.time.val)],
      member.2.Legible := by
    split
    · exact nofun
    · exact List.forall_mem_singleton.mpr (.text _)
  refine .object _ (List.forall_mem_append.mpr ⟨List.forall_mem_append.mpr
    ⟨time, List.forall_mem_singleton.mpr (.text _)⟩, legible_plainList _ ?_⟩)
  exact List.forall_mem_map.mpr fun a _ => legible_ofAttribute a

theorem legible_ofGauge (g : Gauge) : (ofGauge g).Legible := by
  refine .object _ (List.forall_mem_append.mpr ⟨List.forall_mem_append.mpr
    ⟨legible_plainText "name" g.name, legible_plainText "unit" g.unit⟩,
    List.forall_mem_singleton.mpr (.object _ (legible_plainList _ ?_))⟩)
  exact List.forall_mem_map.mpr fun p _ => legible_ofPoint p

theorem legible_ofScope (s : Scope) : (ofScope s).Legible :=
  .object _ (List.forall_mem_append.mpr
    ⟨legible_plainText "name" s.name, legible_plainText "version" s.version⟩)

theorem legible_ofRequest (q : Request) : (ofRequest q).Legible := by
  have resource : (Json.object (plainList "attributes" (q.resource.map ofAttribute))).Legible :=
    .object _ (legible_plainList _ (List.forall_mem_map.mpr fun a _ => legible_ofAttribute a))
  have metrics : ∀ member ∈ plainList "metrics" (q.gauges.map ofGauge), member.2.Legible :=
    legible_plainList _ (List.forall_mem_map.mpr fun g _ => legible_ofGauge g)
  have scope : (Json.object (("scope", ofScope q.scope) ::
      plainList "metrics" (q.gauges.map ofGauge))).Legible :=
    .object _ (List.forall_mem_cons.mpr ⟨legible_ofScope q.scope, metrics⟩)
  refine .object _ (List.forall_mem_singleton.mpr (.array _ (List.forall_mem_singleton.mpr
    (.object _ (List.forall_mem_cons.mpr ⟨resource, List.forall_mem_singleton.mpr ?_⟩)))))
  exact .array _ (List.forall_mem_singleton.mpr scope)

/-- The text of a document is read back as this document. -/
theorem read_document (q : Request) : Json.read (ofRequest q).pretty = some (ofRequest q) :=
  Json.read_pretty (legible_ofRequest q)

end GpuTelemetry.Otlp.Document
