import GpuTelemetry.Otlp

/-!
# Requests in part

The parts of a request while they are read: each as far as its fields have been taken in. Whatever
the form in which a request stands, the fields of a message are taken in one after the other on top
of a part that has nothing in it yet, and the part is whole at the end if all that must be there is.
-/

namespace GpuTelemetry.Otlp

structure PartialAttribute where
  key : String
  value : Option AttributeValue

structure PartialPoint where
  time : Unsigned
  value : Option Signed
  attributes : List Attribute

structure PartialGauge where
  name : String
  unit : String
  points : Option (List DataPoint)

/-- The metrics of a scope. -/
structure PartialScopeMetrics where
  scope : Option Scope
  gauges : List Gauge

/-- The metrics of a resource. -/
structure PartialResourceMetrics where
  resource : Option (List Attribute)
  scopes : List PartialScopeMetrics

def PartialAttribute.none : PartialAttribute := ⟨"", .none⟩

def PartialPoint.none : PartialPoint := ⟨⟨0, by decide⟩, .none, []⟩

def PartialGauge.none : PartialGauge := ⟨"", "", .none⟩

def PartialAttribute.whole? (a : PartialAttribute) : Option Attribute :=
  a.value.map (⟨a.key, ·⟩)

def PartialPoint.whole? (p : PartialPoint) : Option DataPoint :=
  p.value.map (⟨p.time, ·, p.attributes⟩)

def PartialGauge.whole? (g : PartialGauge) : Option Gauge :=
  g.points.map (⟨g.name, g.unit, ·⟩)

/-- The request with the metrics of some resources: those of one scope of one resource. -/
def Request.ofPartial? : List PartialResourceMetrics → Option Request
  | [⟨some resource, [⟨some scope, gauges⟩]⟩] => some ⟨resource, scope, gauges⟩
  | _ => none

section Fields

variable {α β : Type} {take : α → β → Option α}

/-- Fields are taken in behind others. -/
theorem foldlM_behind {fs gs : List β} {start mid : α} {result : Option α}
    (first : fs.foldlM take start = some mid) (behind : gs.foldlM take mid = result) :
    (fs ++ gs).foldlM take start = result := by
  rw [List.foldlM_append, first]
  exact behind

/-- A field is taken in even if it is left out where it would say what is there before. -/
theorem foldlM_leftOut {start whole : α} {field : β} {unsaid : Prop} [Decidable unsaid]
    (same : unsaid → start = whole) (taken : take start field = some whole) :
    (if unsaid then [] else [field]).foldlM take start = some whole := by
  by_cases left : unsaid
  · rw [if_pos left, same left]
    rfl
  · rw [if_neg left, List.foldlM_cons, taken]
    rfl

end Fields

end GpuTelemetry.Otlp
