import GpuTelemetry.Text.Printable

/-!
# Quoted text

How a text or a string of bytes is shown inside a message. It stands between single quotes, or
between double quotes if it holds a single quote and no double quote. The quote in use and the
backslash are escaped by a backslash, tab, line feed and carriage return have a letter, and what is
not printable is written by its code in lower-case hexadecimal digits.
-/

namespace GpuTelemetry.Text

/-- The lowest `width` hexadecimal digits of a number. -/
def hex : Nat → Nat → List Char
  | 0, _ => []
  | width + 1, n => hex width (n / 16) ++ [(Nat.toDigits 16 (n % 16)).headD '0']

def quoteFor (cs : List Char) : Char :=
  if cs.contains '\x27' && !cs.contains '"' then '"' else '\x27'

/-- The escape of a character by its code: two, four or eight digits, as few as hold it. -/
def escapeByCode (code : Nat) : List Char :=
  if code < 0x100 then '\\' :: 'x' :: hex 2 code
  else if code < 0x10000 then '\\' :: 'u' :: hex 4 code
  else '\\' :: 'U' :: hex 8 code

/-- One character between quotes; `plain` tells which characters are shown as they are. -/
def escape (plain : Char → Bool) (quote c : Char) : List Char :=
  if c = quote ∨ c = '\\' then ['\\', c]
  else if c = '\t' then ['\\', 't']
  else if c = '\n' then ['\\', 'n']
  else if c = '\r' then ['\\', 'r']
  else if plain c then [c]
  else escapeByCode c.toNat

/-- Characters between the quotes that suit them. -/
def quoteWith (plain : Char → Bool) (cs : List Char) : String :=
  let quote := quoteFor cs
  String.ofList (quote :: cs.flatMap (escape plain quote) ++ [quote])

def quote (s : String) : String :=
  quoteWith isPrintable s.toList

/-- A string of bytes between quotes behind the letter `b`. A byte from `0x80` on is never shown
as it is. -/
def quoteBytes (bytes : List UInt8) : String :=
  "b" ++ quoteWith (fun c => isPrintable c && c.toNat < 0x80)
    (bytes.map fun byte => Char.ofNat byte.toNat)

end GpuTelemetry.Text
