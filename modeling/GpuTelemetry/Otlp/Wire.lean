import GpuTelemetry.Otlp

/-!
# Requests on the wire

The binary form of a metrics request. A message is the sequence of its fields in ascending order of
their numbers; a field is a tag, the number and the kind of the value in one variable-length
integer, and then the value. A plain text or number that is empty or zero is left out; one that has
been chosen among several alternatives is always written.
-/

namespace GpuTelemetry.Otlp.Wire

/-- A number in groups of seven bits, the lowest first, each but the last marked by its high bit. -/
def varint (n : Nat) : List UInt8 :=
  if n < 0x80 then [UInt8.ofNat n]
  else UInt8.ofNat (n % 0x80 + 0x80) :: varint (n / 0x80)

/-- The lowest bytes of a number, the lowest first. -/
def littleEndian (n : Nat) : Nat → List UInt8
  | 0 => []
  | bytes + 1 => UInt8.ofNat (n % 0x100) :: littleEndian (n / 0x100) bytes

/-- The 64 bits of a signed number, as an unsigned one. -/
def bits (n : Signed) : Nat :=
  (n.val % 0x10000000000000000).toNat

def tag (field kind : Nat) : List UInt8 :=
  varint (8 * field + kind)

/-- A field that holds a number of variable length. -/
def varintField (field n : Nat) : List UInt8 :=
  tag field 0 ++ varint n

def fixedField (field n : Nat) : List UInt8 :=
  tag field 1 ++ littleEndian n 8

/-- A field that holds bytes, a message among them. -/
def bytesField (field : Nat) (bytes : List UInt8) : List UInt8 :=
  tag field 2 ++ varint bytes.length ++ bytes

def textField (field : Nat) (s : String) : List UInt8 :=
  bytesField field s.toUTF8.toList

/-- A field that holds a text, left out if the text is empty. -/
def plainTextField (field : Nat) (s : String) : List UInt8 :=
  if s = "" then [] else textField field s

def ofValue : AttributeValue → List UInt8
  | .text s => textField 1 s
  | .int n => varintField 3 (bits n)

def ofAttribute (a : Attribute) : List UInt8 :=
  plainTextField 1 a.key ++ bytesField 2 (ofValue a.value)

def ofPoint (p : DataPoint) : List UInt8 :=
  (if p.time.val = 0 then [] else fixedField 3 p.time.val) ++ fixedField 6 (bits p.value) ++
    p.attributes.flatMap fun a => bytesField 7 (ofAttribute a)

def ofGauge (g : Gauge) : List UInt8 :=
  plainTextField 1 g.name ++ plainTextField 3 g.unit ++
    bytesField 5 (g.points.flatMap fun p => bytesField 1 (ofPoint p))

def ofScope (s : Scope) : List UInt8 :=
  plainTextField 1 s.name ++ plainTextField 2 s.version

def ofRequest (r : Request) : List UInt8 :=
  bytesField 1 <|
    bytesField 1 (r.resource.flatMap fun a => bytesField 1 (ofAttribute a)) ++
      bytesField 2
        (bytesField 1 (ofScope r.scope) ++ r.gauges.flatMap fun g => bytesField 2 (ofGauge g))

end GpuTelemetry.Otlp.Wire
