import GpuTelemetry.Json

/-!
# Reading JSON documents

`Json.read` reads the text of one JSON value whose numbers are integers, with blanks between its
parts wherever JSON allows them. A text is first taken apart into units, one for each character that
stands for itself and one for each escape, and surrogate pairs among the units are then joined.
-/

namespace GpuTelemetry.Json

/-- A text without the JSON blanks at its start. -/
def skipBlanks : List Char → List Char :=
  List.dropWhile fun c => c = ' ' || c = '\t' || c = '\n' || c = '\r'

def hexDigit? (c : Char) : Option Nat :=
  let n := c.toNat
  if 0x30 ≤ n ∧ n ≤ 0x39 then some (n - 0x30)
  else if 0x41 ≤ n ∧ n ≤ 0x46 then some (n - 0x41 + 10)
  else if 0x61 ≤ n ∧ n ≤ 0x66 then some (n - 0x61 + 10)
  else none

def hexUnit? (a b c d : Char) : Option Nat := do
  return (((← hexDigit? a) * 16 + (← hexDigit? b)) * 16 + (← hexDigit? c)) * 16 + (← hexDigit? d)

/-- The code of the character that an escape of one letter stands for. -/
def letterEscape? (c : Char) : Option Nat :=
  if c = '"' ∨ c = '\\' ∨ c = '/' then some c.toNat
  else if c = 'b' then some 0x08
  else if c = 'f' then some 0x0C
  else if c = 'n' then some 0x0A
  else if c = 'r' then some 0x0D
  else if c = 't' then some 0x09
  else none

/-- The units of a text behind its opening quote, and what follows the closing one. -/
def unitsOf : List Char → Option (List Nat × List Char)
  | [] => none
  | '"' :: rest => some ([], rest)
  | '\\' :: 'u' :: a :: b :: c :: d :: rest => do
    let unit ← hexUnit? a b c d
    let (units, rest) ← unitsOf rest
    return (unit :: units, rest)
  | '\\' :: c :: rest => do
    let unit ← letterEscape? c
    let (units, rest) ← unitsOf rest
    return (unit :: units, rest)
  | c :: rest => do
    if c = '\\' ∨ c.toNat < 0x20 then none
    let (units, rest) ← unitsOf rest
    return (c.toNat :: units, rest)

/-- The character with a code, unless the code is a surrogate. -/
def charOf? (code : Nat) : Option Char :=
  if 0xD800 ≤ code ∧ code ≤ 0xDFFF then none else some (Char.ofNat code)

def joinUnits : List Nat → Option (List Char)
  | [] => some []
  | [unit] => (charOf? unit).map ([·])
  | unit :: next :: rest =>
    if 0xD800 ≤ unit ∧ unit ≤ 0xDBFF ∧ 0xDC00 ≤ next ∧ next ≤ 0xDFFF then
      (joinUnits rest).map (Char.ofNat (0x10000 + (unit - 0xD800) * 0x400 + (next - 0xDC00)) :: ·)
    else do
      let c ← charOf? unit
      return c :: (← joinUnits (next :: rest))

/-- A text behind its opening quote, and what follows the closing one. -/
def readText (cs : List Char) : Option (String × List Char) := do
  let (units, rest) ← unitsOf cs
  return (String.ofList (← joinUnits units), rest)

def readInt (cs : List Char) : Option (Int × List Char) :=
  let (sign, digits) := match cs with
    | '-' :: rest => (['-'], rest)
    | _ => ([], cs)
  let (digits, rest) := digits.span fun c => 0x30 ≤ c.toNat && c.toNat ≤ 0x39
  (Numeral.signed? (sign ++ digits)).map (·, rest)

def dropWord? : List Char → List Char → Option (List Char)
  | [], cs => some cs
  | w :: word, c :: cs => if w = c then dropWord? word cs else none
  | _ :: _, [] => none

mutual

/-- A value and what follows it. The first argument bounds the number of parts. -/
def readValue : Nat → List Char → Option (Json × List Char)
  | 0, _ => none
  | parts + 1, cs =>
    match skipBlanks cs with
    | '"' :: rest => (readText rest).map fun (s, rest) => (.text s, rest)
    | '[' :: rest =>
      match skipBlanks rest with
      | ']' :: rest => some (.array [], rest)
      | _ => (readItems parts rest).map fun (items, rest) => (.array items, rest)
    | '\x7b' :: rest =>
      match skipBlanks rest with
      | '\x7d' :: rest => some (.object [], rest)
      | _ => (readMembers parts rest).map fun (members, rest) => (.object members, rest)
    | 't' :: rest => (dropWord? "rue".toList rest).map fun rest => (.bool true, rest)
    | 'f' :: rest => (dropWord? "alse".toList rest).map fun rest => (.bool false, rest)
    | 'n' :: rest => (dropWord? "ull".toList rest).map fun rest => (.null, rest)
    | rest => (readInt rest).map fun (n, rest) => (.int n, rest)

/-- At least one item of an array, and what follows the closing bracket. -/
def readItems : Nat → List Char → Option (List Json × List Char)
  | 0, _ => none
  | parts + 1, cs => do
    let (item, rest) ← readValue parts cs
    match skipBlanks rest with
    | ',' :: rest =>
      let (items, rest) ← readItems parts rest
      return (item :: items, rest)
    | ']' :: rest => return ([item], rest)
    | _ => none

/-- At least one member of an object, and what follows the closing brace. -/
def readMembers : Nat → List Char → Option (List (String × Json) × List Char)
  | 0, _ => none
  | parts + 1, cs => do
    let '"' :: rest := skipBlanks cs | none
    let (name, rest) ← readText rest
    let ':' :: rest := skipBlanks rest | none
    let (value, rest) ← readValue parts rest
    match skipBlanks rest with
    | ',' :: rest =>
      let (members, rest) ← readMembers parts rest
      return ((name, value) :: members, rest)
    | '\x7d' :: rest => return ([(name, value)], rest)
    | _ => none

end

/-- The value that a whole text stands for. A text has at most one part for each character, and each
part is entered once as a value and once as an item or a member. -/
def read (s : String) : Option Json := do
  let cs := s.toList
  let (value, rest) ← readValue (2 * cs.length + 1) cs
  if (skipBlanks rest).isEmpty then some value else none

/-- The value of the member of an object with a given name, the last of several. -/
def member? (name : String) : Json → Option Json
  | .object members => members.reverse.lookup name
  | _ => none

end GpuTelemetry.Json
