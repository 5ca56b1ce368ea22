import GpuTelemetry.Json
import GpuTelemetry.Otlp

/-!
# Requests as documents

The JSON form of a metrics request. Members stand in the order of the binary form and follow the
same rule: a plain text, a plain number or a list that is empty or zero has no member. Numbers of
64 bits are written as texts.
-/

namespace GpuTelemetry.Otlp.Document

/-- A member that holds a text, left out if the text is empty. -/
def plainText (name s : String) : List (String × Json) :=
  if s = "" then [] else [(name, .text s)]

/-- A member that holds a list, left out if the list is empty. -/
def plainList (name : String) (items : List Json) : List (String × Json) :=
  if items.isEmpty then [] else [(name, .array items)]

/-- A number of 64 bits. -/
def wide (n : Int) : Json := .text (Numeral.text n)

def ofValue : AttributeValue → Json
  | .text s => .object [("stringValue", .text s)]
  | .int n => .object [("intValue", wide n.val)]

def ofAttribute (a : Attribute) : Json :=
  .object (plainText "key" a.key ++ [("value", ofValue a.value)])

def ofPoint (p : DataPoint) : Json :=
  .object ((if p.time.val = 0 then [] else [("timeUnixNano", wide p.time.val)]) ++
    [("asInt", wide p.value.val)] ++ plainList "attributes" (p.attributes.map ofAttribute))

def ofGauge (g : Gauge) : Json :=
  .object (plainText "name" g.name ++ plainText "unit" g.unit ++
    [("gauge", .object (plainList "dataPoints" (g.points.map ofPoint)))])

def ofScope (s : Scope) : Json :=
  .object (plainText "name" s.name ++ plainText "version" s.version)

def ofRequest (r : Request) : Json :=
  .object [("resourceMetrics", .array [.object [
    ("resource", .object (plainList "attributes" (r.resource.map ofAttribute))),
    ("scopeMetrics", .array [.object
      (("scope", ofScope r.scope) :: plainList "metrics" (r.gauges.map ofGauge))])]])]

end GpuTelemetry.Otlp.Document
