import GpuTelemetry.Text.Blank

/-!
# Numerals

A numeral denotes an integer: blanks around it, at most one sign, then decimal digits of any
script with single underscores allowed between them, and no more than `digitLimit` digits.
`Numeral.read` gives the integer, `Numeral.write` the plain form: a minus sign where needed and
ASCII digits without leading zeros.

The limit holds for writing as well. `Numeral.write` gives the plain form of any integer; whether a
run can put it into a text is up to `Numeral.overlong?`.
-/

namespace GpuTelemetry.Numeral

/-- The most digits a numeral may have, whether it is read or written; leading zeros count. -/
def digitLimit : Nat := 4300

/-- The digit zero of every script that has decimal digits (Unicode 14); the digits one to nine
follow it. -/
def zeros : List Nat := [
  0x30, 0x660, 0x6F0, 0x7C0, 0x966, 0x9E6, 0xA66, 0xAE6, 0xB66, 0xBE6, 0xC66, 0xCE6, 0xD66, 0xDE6,
  0xE50, 0xED0, 0xF20, 0x1040, 0x1090, 0x17E0, 0x1810, 0x1946, 0x19D0, 0x1A80, 0x1A90, 0x1B50,
  0x1BB0, 0x1C40, 0x1C50, 0xA620, 0xA8D0, 0xA900, 0xA9D0, 0xA9F0, 0xAA50, 0xABF0, 0xFF10, 0x104A0,
  0x10D30, 0x11066, 0x110F0, 0x11136, 0x111D0, 0x112F0, 0x11450, 0x114D0, 0x11650, 0x116C0,
  0x11730, 0x118E0, 0x11950, 0x11C50, 0x11D50, 0x11DA0, 0x16A60, 0x16AC0, 0x16B50, 0x1D7CE,
  0x1D7D8, 0x1D7E2, 0x1D7EC, 0x1D7F6, 0x1E140, 0x1E2F0, 0x1E950, 0x1FBF0]

def digit? (c : Char) : Option Nat :=
  (zeros.find? fun base => base ≤ c.toNat && c.toNat < base + 10).map (c.toNat - ·)

/-- The digits of a run of digits, single underscores between them left out. -/
def digits? : List Char → Option (List Nat)
  | [] => none
  | [c] => (digit? c).map ([·])
  | c :: '_' :: rest => do return (← digit? c) :: (← digits? rest)
  | c :: rest => do return (← digit? c) :: (← digits? rest)

/-- The number that digits denote, the most significant first. -/
def ofDigits (digits : List Nat) : Nat :=
  digits.foldl (fun value digit => 10 * value + digit) 0

/-- The number that a run of digits denotes, if it is no longer than the limit. -/
def magnitude? (text : List Char) : Option Nat := do
  let digits ← digits? text
  if digits.length ≤ digitLimit then some (ofDigits digits) else none

/-- The integer that a text denotes whose sign, if it has one, stands before a magnitude. -/
def withSign (magnitude? : List Char → Option Nat) : List Char → Option Int
  | '-' :: rest => (magnitude? rest).map (-·)
  | '+' :: rest => (magnitude? rest).map (·)
  | rest => (magnitude? rest).map (·)

/-- The integer that a sign and a run of digits denote, if the run is no longer than the limit. -/
def signed? : List Char → Option Int :=
  withSign magnitude?

def ofChars? (cs : List Char) : Option Int :=
  signed? (Text.strip Text.isNumeralBlank cs)

def read (text : String) : Option Int :=
  ofChars? text.toList

def digitChar (digit : Nat) : Char :=
  Char.ofNat (0x30 + digit)

def writeNat (n : Nat) : List Char :=
  if n < 10 then [digitChar n] else writeNat (n / 10) ++ [digitChar (n % 10)]

def write : Int → List Char
  | .ofNat n => writeNat n
  | .negSucc n => '-' :: writeNat (n + 1)

def text (n : Int) : String :=
  String.ofList (write n)

/-- The number of digits of the plain form of an integer, the sign left out. -/
def digitCount (n : Int) : Nat := (writeNat n.natAbs).length

/-- The first of the integers in a text that is too long to be written. -/
def overlong? (integers : List Int) : Option Int :=
  integers.find? fun n => digitLimit < digitCount n

end GpuTelemetry.Numeral
