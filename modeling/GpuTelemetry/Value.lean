import GpuTelemetry.Binary64.Shortest
import GpuTelemetry.Text.Quoted

/-!
# Setting values

A setting may be given as a value of any type; which types are accepted is checked later, and a
refused value is shown in the message. `Value.shown` is the form in which it is shown and
`Value.typeName` the name of its type. Two values are equal if they are of one type and hold the
same; `same_iff` makes that decidable.
-/

namespace GpuTelemetry

inductive Value where
  | null
  | bool (b : Bool)
  | int (n : Int)
  | float (x : Binary64)
  | text (s : String)
  | bytes (bytes : List UInt8)
  | list (items : List Value)
  | table (entries : List (String × Value))
  deriving Repr

namespace Value

/-- The name of a value's type in messages. -/
def typeName : Value → String
  | .null => "NoneType"
  | .bool _ => "bool"
  | .int _ => "int"
  | .float _ => "float"
  | .text _ => "str"
  | .bytes _ => "bytes"
  | .list _ => "list"
  | .table _ => "dict"

/-- The integer that a value counts as where a place in a list is asked for: a truth value counts as
zero or one. -/
def place? : Value → Option Int
  | .int n => some n
  | .bool b => some (if b then 1 else 0)
  | _ => none

/-- A value that is numerically equal to an integer, of whatever type it is. -/
def denotes (n : Int) : Value → Bool
  | .float x => x.denotes n
  | other => other.place? == some n

mutual

/-- Whether two values are the same, type included. -/
def same : Value → Value → Bool
  | .null, .null => true
  | .bool a, .bool b => a == b
  | .int a, .int b => a == b
  | .float a, .float b => a == b
  | .text a, .text b => a == b
  | .bytes a, .bytes b => a == b
  | .list a, .list b => sameItems a b
  | .table a, .table b => sameEntries a b
  | _, _ => false

def sameItems : List Value → List Value → Bool
  | [], [] => true
  | a :: as, b :: bs => same a b && sameItems as bs
  | _, _ => false

/-- Whether two tables hold the same keys and values in the same order. -/
def sameEntries : List (String × Value) → List (String × Value) → Bool
  | [], [] => true
  | (k, a) :: as, (l, b) :: bs => k == l && same a b && sameEntries as bs
  | _, _ => false

end

mutual

theorem same_iff : ∀ a b : Value, same a b = true ↔ a = b
  | .list a, b => by cases b <;> simp [same, sameItems_iff a]
  | .table a, b => by cases b <;> simp [same, sameEntries_iff a]
  | .null, b => by cases b <;> simp [same]
  | .bool _, b => by cases b <;> simp [same]
  | .int _, b => by cases b <;> simp [same]
  | .float _, b => by cases b <;> simp [same]
  | .text _, b => by cases b <;> simp [same]
  | .bytes _, b => by cases b <;> simp [same]

theorem sameItems_iff : ∀ a b : List Value, sameItems a b = true ↔ a = b
  | [], b => by cases b <;> simp [sameItems]
  | a :: as, b => by cases b <;> simp [sameItems, same_iff a, sameItems_iff as]

theorem sameEntries_iff : ∀ a b : List (String × Value), sameEntries a b = true ↔ a = b
  | [], b => by cases b <;> simp [sameEntries]
  | (k, a) :: as, b => by
    cases b with
    | nil => simp [sameEntries]
    | cons pair bs =>
      obtain ⟨l, b⟩ := pair
      simp [sameEntries, same_iff a, sameEntries_iff as, and_assoc]

end

instance : DecidableEq Value := fun a b => decidable_of_iff _ (same_iff a b)

def commaSeparated (items : List String) : String :=
  ", ".intercalate items

mutual

/-- How a value is shown in a message: text and bytes between quotes, lists in brackets, tables in
braces in the order of their entries. -/
def shown : Value → String
  | .null => "None"
  | .bool b => if b then "True" else "False"
  | .int n => Numeral.text n
  | .float x => x.text
  | .text s => Text.quote s
  | .bytes bs => Text.quoteBytes bs
  | .list items => "[" ++ commaSeparated (showItems items) ++ "]"
  | .table entries => "\x7b" ++ commaSeparated (showEntries entries) ++ "\x7d"

def showItems : List Value → List String
  | [] => []
  | item :: rest => item.shown :: showItems rest

/-- The entries of a table, each as its key, a colon and its value. -/
def showEntries : List (String × Value) → List String
  | [] => []
  | (key, value) :: rest => (Text.quote key ++ ": " ++ value.shown) :: showEntries rest

end

end Value

end GpuTelemetry
