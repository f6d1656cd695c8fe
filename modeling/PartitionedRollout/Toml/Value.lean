/-
# PartitionedRollout.Toml.Value -- TOML values

A value is what a TOML document says under a key. Only what a reader of settings can ask about
is told apart: numbers with a fraction and dates keep the text they were written as. `toJson`
shows a value to a reader of records, for which a natural number is one kind of value and
every other number another.
-/

import PartitionedRollout.Json.Value

namespace PartitionedRollout.Toml

/-- A TOML value. -/
inductive Value where
  /-- A string. -/
  | text (s : String)
  /-- An integer. -/
  | integer (n : Int)
  /-- A floating-point number, as it is written. -/
  | float (literal : String)
  /-- A truth value. -/
  | bool (b : Bool)
  /-- A date, a time of day, or both, as it is written. -/
  | moment (literal : String)
  /-- An array. -/
  | array (items : List Value)
  /-- A table. -/
  | table (entries : List (String × Value))
  deriving Inhabited, Repr

namespace Value

mutual

/-- The value for a reader of records. A date or time is a record of its own, with its text in it.
-/
def toJson : Value → Json
  | text s => .text s
  | integer n => if 0 ≤ n then .natural n.toNat else .number (toString n)
  | float s => .number s
  | bool b => .bool b
  | moment s => .record [("$moment", .text s)]
  | array items => .array (itemsToJson items)
  | table entries => .object (entriesToJson entries)

/-- The items of an array for a reader of records. -/
def itemsToJson : List Value → List Json
  | [] => []
  | v :: vs => v.toJson :: itemsToJson vs

/-- The entries of a table for a reader of records. -/
def entriesToJson : List (String × Value) → List (Option String × Json)
  | [] => []
  | (k, v) :: rest => (some k, v.toJson) :: entriesToJson rest

end

end Value

end PartitionedRollout.Toml
