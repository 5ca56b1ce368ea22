import GpuTelemetry.Numeral
import GpuTelemetry.Text.Quoted

/-!
# JSON documents

JSON values with integers as their only numbers and members in the order in which they are written.
`Json.pretty` lays a value out over lines with two spaces for each level; an empty array or object
stays on one line, and a text is written in printable ASCII, every other character as an escape of
its UTF-16 units unless it has a letter of its own.
-/

namespace GpuTelemetry

/-- A JSON value without fractional numbers. -/
inductive Json where
  | null
  | bool (b : Bool)
  | int (n : Int)
  | text (s : String)
  | array (items : List Json)
  | object (members : List (String × Json))

namespace Json

def units (c : Char) : List Nat :=
  let n := c.toNat
  if n < 0x10000 then [n]
  else [0xD800 + (n - 0x10000) / 0x400, 0xDC00 + (n - 0x10000) % 0x400]

def escape (c : Char) : List Char :=
  if c = '"' ∨ c = '\\' then ['\\', c]
  else if c = '\n' then ['\\', 'n']
  else if c = '\r' then ['\\', 'r']
  else if c = '\t' then ['\\', 't']
  else if c.toNat = 0x08 then ['\\', 'b']
  else if c.toNat = 0x0C then ['\\', 'f']
  else if 0x20 ≤ c.toNat ∧ c.toNat < 0x7F then [c]
  else (units c).flatMap fun unit => '\\' :: 'u' :: Text.hex 4 unit

def quote (s : String) : List Char :=
  '"' :: s.toList.flatMap escape ++ ['"']

def lineStart (level : Nat) : List Char :=
  '\n' :: List.replicate (2 * level) ' '

mutual

/-- A value laid out over lines, its own lines at a level. -/
def write (level : Nat) : Json → List Char
  | .null => "null".toList
  | .bool b => (if b then "true" else "false").toList
  | .int n => Numeral.write n
  | .text s => quote s
  | .array [] => "[]".toList
  | .array (item :: rest) =>
    '[' :: lineStart (level + 1) ++ write (level + 1) item ++ writeItems (level + 1) rest ++
      lineStart level ++ [']']
  | .object [] => ['\x7b', '\x7d']
  | .object ((name, value) :: rest) =>
    '\x7b' :: lineStart (level + 1) ++ quote name ++ ": ".toList ++ write (level + 1) value ++
      writeMembers (level + 1) rest ++ lineStart level ++ ['\x7d']

/-- The items behind the first one, each on a line of its own. -/
def writeItems (level : Nat) : List Json → List Char
  | [] => []
  | item :: rest => ',' :: lineStart level ++ write level item ++ writeItems level rest

/-- The members behind the first one, each on a line of its own. -/
def writeMembers (level : Nat) : List (String × Json) → List Char
  | [] => []
  | (name, value) :: rest =>
    ',' :: lineStart level ++ quote name ++ ": ".toList ++ write level value ++
      writeMembers level rest

end

def pretty (value : Json) : String :=
  String.ofList (value.write 0)

end Json

end GpuTelemetry
